import Chip8.Instruction.Text
import Chip8.Machine.Snapshot

/-! # Events

What a machine reports while it runs. An event has a level, which says who cares to see it, and a
message.

* `Level`: from `error`, which everyone sees, to `trace`; `Level.rank` puts them in order.
* `Event`: an instruction about to be executed, a tick that failed, and the machine after that. -/

namespace Chip8

inductive Level where
  | error
  | warn
  | info
  | debug
  | trace
  deriving DecidableEq

namespace Level

def rank : Level → Nat
  | error => 1
  | warn => 2
  | info => 3
  | debug => 4
  | trace => 5

def name : Level → String
  | error => "ERROR"
  | warn => "WARN"
  | info => "INFO"
  | debug => "DEBUG"
  | trace => "TRACE"

end Level

inductive Event where
  /-- The word at `pc` was decoded. -/
  | decoded (pc opcode : UInt16) (inst : Instruction)
  /-- The tick that started at `pc` failed. -/
  | failed (pc : UInt16) (fault : Fault)
  /-- The machine after a tick that failed. -/
  | shown (snapshot : Snapshot)
  deriving DecidableEq

namespace Event

def level : Event → Level
  | decoded .. => .debug
  | failed .. => .warn
  | shown .. => .trace

def message : Event → String
  | decoded pc opcode inst =>
    "0x" ++ Hex.lower 4 pc.toNat ++ ": " ++ Hex.lower 4 opcode.toNat ++ " " ++ inst.text
  | failed pc fault => "cycle at 0x" ++ Hex.lower 4 pc.toNat ++ " failed: " ++ fault.message
  | shown snapshot => snapshot.text

end Event

end Chip8
