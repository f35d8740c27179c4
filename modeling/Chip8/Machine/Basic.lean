import Chip8.Display.Basic
import Chip8.Machine.CallStack
import Chip8.Machine.Registers
import Chip8.Machine.Timers
import Chip8.Memory.Basic

/-! # The machine

Registers, an index register, a program counter, a call stack, timers, memory and a display, and
whether instructions are traced.

* `new`: the machine as it starts, with no program. -/

namespace Chip8

structure Machine where
  registers : Registers
  index : UInt16
  pc : UInt16
  stack : CallStack
  timers : Timers
  memory : Memory
  display : Display
  tracing : Bool
  deriving DecidableEq

namespace Machine

def new : Machine where
  registers := Registers.zero
  index := 0
  pc := Memory.programStart
  stack := CallStack.empty
  timers := Timers.zero
  memory := Memory.new
  display := Display.new
  tracing := false

instance : Inhabited Machine := ⟨new⟩

end Machine

end Chip8
