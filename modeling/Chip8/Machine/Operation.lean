import Chip8.Display.Command
import Chip8.Machine.Tick
import Chip8.Memory.Command

/-! # Operations

What a host can do with a machine, as data: let it tick, and change its timers, its memory and its
display.

* `Machine.after`: the machine once an operation was tried; `Machine.afterAll`: once a row of them
  was tried. -/

namespace Chip8

inductive Operation where
  | tick
  | timers (c : Timers.Command)
  | memory (c : Memory.Command)
  | display (c : Display.Command)

namespace Machine

def after (m : Machine) : Operation → Machine
  | .tick => m.tick.machine
  | .timers c => { m with timers := m.timers.after c }
  | .memory c => { m with memory := m.memory.after c }
  | .display c => { m with display := m.display.after c }

def afterAll (m : Machine) (ops : List Operation) : Machine :=
  ops.foldl after m

end Machine

end Chip8
