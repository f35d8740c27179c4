import Chip8.Color.Text
import Chip8.Runner.Parameter
import Chip8.Text.ControlSequence
import Chip8.Text.Decimal

/-! # Usage errors

What can be wrong with a command line; `message` is the only place with wording. -/

namespace Chip8.Runner

/-- Why a value is not one for its field. -/
inductive ValueError where
  | number (e : Text.Decimal.ParseError)
  | color (e : Color.ParseError)
  deriving DecidableEq

def ValueError.message : ValueError → String
  | number e => e.message
  | color e => e.message

inductive UsageError where
  /-- A name that no parameter has, or a value that no field is left for. -/
  | unexpectedArgument (argument : String)
  /-- A value for a switch. -/
  | unexpectedValue (value : String) (s : Switch)
  | missingValue (f : Field)
  | repeated (p : Parameter)
  | invalidValue (value : String) (f : Field) (e : ValueError)
  | missingRom
  deriving DecidableEq

/-- What was given, as a message quotes it: it cannot write to the terminal in colors of its own. -/
def inQuotes (given : String) : String :=
  "'" ++ String.ofList (Text.ControlSequence.strip given.toList) ++ "'"

def UsageError.message : UsageError → String
  | unexpectedArgument argument => "unexpected argument " ++ inQuotes argument ++ " found"
  | unexpectedValue value s =>
    "unexpected value " ++ inQuotes value ++ " for '" ++ s.shown ++ "' found; no more were expected"
  | missingValue f => "a value is required for '" ++ f.shown ++ "' but none was supplied"
  | repeated p => "the argument '" ++ p.shown ++ "' cannot be used multiple times"
  | invalidValue value f e =>
    "invalid value " ++ inQuotes value ++ " for '" ++ f.shown ++ "': " ++ e.message
  | missingRom => "the following required arguments were not provided:\n  " ++ Field.rom.shown

end Chip8.Runner
