import Chip8.Display.Basic

/-! # Changes of the display as data

`Command.apply` is the change that a command names; `after` is the display once it was tried, the
same as before if the change was refused. -/

namespace Chip8.Display

inductive Command where
  | set (x y : Nat) (on : Bool)
  | clear
  deriving DecidableEq

def Command.apply (d : Display) : Command → Except Fault Display
  | .set x y on => d.set x y on
  | .clear => .ok d.clear

def after (d : Display) (c : Command) : Display :=
  match c.apply d with
  | .ok d' => d'
  | .error _ => d

theorem after_of_ok {d d' : Display} {c : Command} (h : c.apply d = .ok d') : d.after c = d' := by
  simp [after, h]

theorem after_of_error {d : Display} {f : Fault} {c : Command} (h : c.apply d = .error f) :
    d.after c = d := by
  simp [after, h]

end Chip8.Display
