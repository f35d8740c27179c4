/-! # Parameters

What can be given on a command line. A field takes a value and a switch takes none; each but the
program has a long name after two dashes, and some have a letter after one.

* `ofLong?`, `ofShort?`: the parameter of a name; `shown`: how messages call it. -/

namespace Chip8.Runner

/-- A parameter with a value. -/
inductive Field where
  | rom
  | cycles
  | background
  | foreground
  | frameOut
  deriving DecidableEq

/-- A parameter without a value. -/
inductive Switch where
  | keepGoing
  | dumpState
  | debug
  | trace
  | help
  | version
  deriving DecidableEq

inductive Parameter where
  | field (f : Field)
  | switch (s : Switch)
  deriving DecidableEq

def Field.shown : Field → String
  | rom => "<ROM>"
  | cycles => "--cycles <CYCLES>"
  | background => "--background <BACKGROUND>"
  | foreground => "--foreground <FOREGROUND>"
  | frameOut => "--frame-out <FRAME_OUT>"

def Switch.shown : Switch → String
  | keepGoing => "--keep-going"
  | dumpState => "--dump-state"
  | debug => "--debug"
  | trace => "--trace"
  | help => "--help"
  | version => "--version"

namespace Parameter

def shown : Parameter → String
  | field f => f.shown
  | switch s => s.shown

def ofLong? (name : String) : Option Parameter :=
  match name with
  | "cycles" => some (field .cycles)
  | "background" => some (field .background)
  | "foreground" => some (field .foreground)
  | "frame-out" => some (field .frameOut)
  | "keep-going" => some (switch .keepGoing)
  | "dump-state" => some (switch .dumpState)
  | "debug" => some (switch .debug)
  | "trace" => some (switch .trace)
  | "help" => some (switch .help)
  | "version" => some (switch .version)
  | _ => none

def ofShort? (letter : Char) : Option Parameter :=
  match letter with
  | 'c' => some (field .cycles)
  | 'd' => some (switch .debug)
  | 'h' => some (switch .help)
  | 'V' => some (switch .version)
  | _ => none

end Parameter

end Chip8.Runner
