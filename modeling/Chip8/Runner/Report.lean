import Chip8.Machine.Event
import Chip8.Runner.FileFault

/-! # Reports

What a run prints, and why it fails.

* `Notice`: what the runner itself reports. `Item`: one thing printed, which is a notice, an event of
  the machine, or text.
* `Layout`: how the log sets its lines; `Layout.columns` is how it does. `Item.printed` is how an item
  looks, whatever the layout.
* `Failure`: what ends a run without success; `Failure.chain` tells it from the outside in. -/

namespace Chip8.Runner

inductive Notice where
  | loaded (size : Nat) (path : String)
  /-- The run ended early, on this fault. -/
  | halted (cycles : Nat) (fault : Fault)
  | ran (cycles failures : Nat) (pc : UInt16)
  | wroteFrame (path : String)
  deriving DecidableEq

namespace Notice

def level : Notice → Level
  | halted .. => .error
  | _ => .info

def message : Notice → String
  | loaded size path => s!"loaded {size} byte ROM from {path}"
  | halted cycles fault => s!"halted after {cycles} cycles: {fault.message}"
  | ran cycles failures pc =>
    s!"ran {cycles} cycles, {failures} failed, PC at 0x" ++ Hex.lower 4 pc.toNat
  | wroteFrame path => s!"wrote frame to {path}"

end Notice

/-- A line of the log from its level, who reports it, and the message. -/
abbrev Layout := Level → String → String → String

/-- The level in five columns, who reports, and the message. -/
def Layout.columns : Layout := fun level source message =>
  String.ofList (level.name.toList.rightpad 5 ' ') ++ " [" ++ source ++ "] " ++ message ++ "\n"

inductive Item where
  | notice (n : Notice)
  | event (e : Event)
  | text (s : String)
  deriving DecidableEq

def Item.printed (line : Layout) : Item → String
  | notice n => line n.level "chip_8_runner" n.message
  | event e => line e.level "chip_8_vm::cpu" e.message
  | text s => s

inductive Failure where
  | unreadableRom (path : String) (e : FileFault)
  | unusableRom (fault : Fault)
  | unwritableFrame (path : String) (e : FileFault)
  deriving DecidableEq

def Failure.chain : Failure → List String
  | unreadableRom path e => ["Failed to read ROM file " ++ path, e.message]
  | unusableRom fault => [fault.message]
  | unwritableFrame path e => ["Failed to write frame to " ++ path, e.message]

end Chip8.Runner
