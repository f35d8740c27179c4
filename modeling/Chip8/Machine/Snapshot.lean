import Chip8.Hex
import Chip8.Machine.Basic
import Chip8.Memory.Dump

/-! # Snapshots

A machine without its memory and display, for reports.

* `Machine.snapshot`: what a machine shows; `Machine.snapshot_eq`: that is everything but memory, the
  display and whether it traces. `Snapshot.text`: the same in words.
* `Machine.fullDump`: that text and the dump of memory. -/

namespace Chip8

structure Snapshot where
  registers : Registers
  index : UInt16
  pc : UInt16
  stack : CallStack
  timers : Timers
  deriving DecidableEq

def Machine.snapshot (m : Machine) : Snapshot where
  registers := m.registers
  index := m.index
  pc := m.pc
  stack := m.stack
  timers := m.timers

theorem Machine.snapshot_eq (m : Machine) : m.snapshot = {
    registers := m.registers, index := m.index, pc := m.pc, stack := m.stack, timers := m.timers } :=
  rfl

namespace Snapshot

/-- A column of a table for each item, with a gap after it. -/
def cells (gap : String) (items : List String) : String :=
  String.join (items.map (· ++ gap))

def registersText (r : Registers) : String :=
  "       " ++ cells " " ((List.range 16).map fun k => "V" ++ Hex.lower 1 k) ++ "\n" ++
  "Vx:    " ++ cells " " (r.bytes.toList.map fun b => Hex.lower 2 b.toNat) ++ "\n"

/-- Every slot is shown, taken or not. -/
def stackText (s : CallStack) : String :=
  "       " ++ cells "   " ((List.range 16).map (Hex.lower 2)) ++ "\n" ++
  "Stack: " ++ cells " " (s.slots.toList.map fun a => Hex.lower 4 a.toNat) ++ "\n"

def text (s : Snapshot) : String :=
  "\nRegisters: \n\n" ++
  "PC: " ++ Hex.lower 4 s.pc.toNat ++ " \n\n" ++
  registersText s.registers ++ "\n" ++
  stackText s.stack ++ "\n" ++
  "I:  " ++ Hex.lower 4 s.index.toNat ++ " \n" ++
  "SP: " ++ Hex.lower 2 s.stack.depth ++ " \n" ++
  "DT: " ++ Hex.lower 2 s.timers.delay.toNat ++ " \n" ++
  "ST: " ++ Hex.lower 2 s.timers.sound.toNat ++ " \n"

end Snapshot

def Machine.fullDump (m : Machine) : String :=
  m.snapshot.text ++ m.memory.dump

end Chip8
