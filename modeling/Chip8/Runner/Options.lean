import Chip8.Color.Basic
import Chip8.Machine.Event

/-! # Options

What a run is asked to do.

* `verbosity`: the last level that is reported; `tracing`: whether the machine traces. -/

namespace Chip8.Runner

structure Options where
  /-- The path of the program. -/
  rom : String
  cycles : UInt64
  keepGoing : Bool
  background : Option Color
  foreground : Option Color
  /-- The path that the last frame is written to. -/
  frameOut : Option String
  dumpState : Bool
  debug : Bool
  trace : Bool
  deriving DecidableEq

namespace Options

/-- The cycles of a run that asks for no number of them. -/
def defaultCycles : UInt64 := 1000

def verbosity (o : Options) : Level :=
  if o.trace then .trace else if o.debug then .debug else .info

def tracing (o : Options) : Bool :=
  o.debug || o.trace

end Options

end Chip8.Runner
