import Chip8.Runner.Options
import Chip8.Runner.UsageError

/-! # Options in the making

A draft holds what a command line has given so far.

* `give`: a field its value, which is checked; `turnOn`: a switch. Each may be given once.
* `finish`: the options, once a program was given. -/

namespace Chip8.Runner

structure Draft where
  rom : Option String := none
  cycles : Option UInt64 := none
  background : Option Color := none
  foreground : Option Color := none
  frameOut : Option String := none
  keepGoing : Bool := false
  dumpState : Bool := false
  debug : Bool := false
  trace : Bool := false
  deriving DecidableEq

/-- Why no options come of a command line: it is wrong, or it asks for something else. -/
inductive Stop where
  | refused (e : UsageError)
  | help
  | version
  deriving DecidableEq

namespace Draft

def has (d : Draft) : Field → Bool
  | .rom => d.rom.isSome
  | .cycles => d.cycles.isSome
  | .background => d.background.isSome
  | .foreground => d.foreground.isSome
  | .frameOut => d.frameOut.isSome

/-- A path is any text but the empty one. -/
def path (f : Field) (value : String) : Except UsageError String :=
  if value.isEmpty then .error (.missingValue f) else .ok value

def number (f : Field) (value : String) : Except UsageError UInt64 :=
  match Text.Decimal.parse UInt64.size value.toList with
  | .ok n => .ok (UInt64.ofNat n)
  | .error e => .error (.invalidValue value f (.number e))

def color (f : Field) (value : String) : Except UsageError Color :=
  match Color.parse value with
  | .ok c => .ok c
  | .error e => .error (.invalidValue value f (.color e))

def give (d : Draft) (f : Field) (value : String) : Except UsageError Draft := do
  if d.has f then throw (.repeated (.field f))
  match f with
  | .rom => return { d with rom := some (← path f value) }
  | .cycles => return { d with cycles := some (← number f value) }
  | .background => return { d with background := some (← color f value) }
  | .foreground => return { d with foreground := some (← color f value) }
  | .frameOut => return { d with frameOut := some (← path f value) }

def turnOn (d : Draft) (s : Switch) : Except Stop Draft :=
  let once (isOn : Bool) (d' : Draft) : Except Stop Draft :=
    if isOn then .error (.refused (.repeated (.switch s))) else .ok d'
  match s with
  | .keepGoing => once d.keepGoing { d with keepGoing := true }
  | .dumpState => once d.dumpState { d with dumpState := true }
  | .debug => once d.debug { d with debug := true }
  | .trace => once d.trace { d with trace := true }
  | .help => .error .help
  | .version => .error .version

def finish (d : Draft) : Except UsageError Options :=
  match d.rom with
  | none => .error .missingRom
  | some rom => .ok {
      rom
      cycles := d.cycles.getD Options.defaultCycles
      keepGoing := d.keepGoing
      background := d.background
      foreground := d.foreground
      frameOut := d.frameOut
      dumpState := d.dumpState
      debug := d.debug
      trace := d.trace }

end Draft

end Chip8.Runner
