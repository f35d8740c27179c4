import Chip8.Memory.Basic

/-! # Writes to memory as data

`Command.apply` is the write that a command names; `after` is the memory once it was tried, the
same as before if the write was refused. -/

namespace Chip8.Memory

inductive Command where
  | write8 (a : UInt16) (b : UInt8)
  | write16 (a : UInt16) (w : UInt16)
  | load (a : UInt16) (data : List UInt8)
  | loadRom (rom : List UInt8)
  deriving DecidableEq

def Command.apply (m : Memory) : Command → Except Fault Memory
  | .write8 a b => m.write8 a b
  | .write16 a w => m.write16 a w
  | .load a data => m.load a data
  | .loadRom rom => m.loadRom rom

def after (m : Memory) (c : Command) : Memory :=
  match c.apply m with
  | .ok m' => m'
  | .error _ => m

theorem after_of_ok {m m' : Memory} {c : Command} (h : c.apply m = .ok m') : m.after c = m' := by
  simp [after, h]

theorem after_of_error {m : Memory} {f : Fault} {c : Command} (h : c.apply m = .error f) :
    m.after c = m := by
  simp [after, h]

end Chip8.Memory
