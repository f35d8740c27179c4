import Chip8.Runner.Draft

/-! # Command lines

A command line is a row of arguments. `--name` gives a switch or announces a field whose value
follows, in the same argument after `=` or as the next one. `-letters` gives switches by their
letters; the letter of a field takes what follows in the argument as its value, a `=` between them
left out, or else the next argument. An argument that is neither, a single dash among them, is a
value, and a value that nothing waits for is the program. After `--` every argument is a value for
the program.

A value given on its own waits to be looked at until the next parameter or the end of the line, so
an argument that is refused in between is reported first.

* `Scan`: what was read so far; `Scan.read` reads one argument.
* `parse`: the options of a command line. -/

namespace Chip8.Runner

/-- A field that was announced, with its value once that was read. -/
structure Waiting where
  field : Field
  value : Option String
  deriving DecidableEq

structure Scan where
  draft : Draft := {}
  waiting : Option Waiting := none
  valuesOnly : Bool := false
  deriving DecidableEq

namespace Scan

def refuse {α : Type} (e : UsageError) : Except Stop α :=
  .error (.refused e)

/-- The field gets its value. -/
def give (s : Scan) (f : Field) (value : String) : Except Stop Scan :=
  match s.draft.give f value with
  | .ok draft => .ok { s with draft := draft }
  | .error e => refuse e

/-- Nothing waits any longer. -/
def settle (s : Scan) : Except Stop Scan :=
  match s.waiting with
  | none => .ok s
  | some { field, value := none } => refuse (.missingValue field)
  | some { field, value := some value } => { s with waiting := none }.give field value

def announce (s : Scan) (f : Field) : Except Stop Scan := do
  return { ← s.settle with waiting := some { field := f, value := none } }

def attach (s : Scan) (f : Field) (value : String) : Except Stop Scan := do
  (← s.settle).give f value

def turnOn (s : Scan) (w : Switch) : Except Stop Scan := do
  let s ← s.settle
  return { s with draft := ← s.draft.turnOn w }

/-- The program was given. -/
def hasRom (s : Scan) : Bool :=
  s.draft.has .rom || s.waiting.any (·.field == .rom)

/-- A value that nothing waits for. -/
def program (s : Scan) (value : String) : Except Stop Scan := do
  if s.hasRom then refuse (.unexpectedArgument value)
  return { ← s.settle with waiting := some { field := .rom, value := some value } }

/-- An argument that gives no name. -/
def value (s : Scan) (value : String) : Except Stop Scan :=
  match s.waiting with
  | some { field, value := none } => .ok { s with waiting := some { field, value := some value } }
  | _ => s.program value

/-- What stands after two dashes. -/
def long (s : Scan) (text : List Char) : Except Stop Scan :=
  let name := String.ofList (text.takeWhile (· != '='))
  let attached := (text.dropWhile (· != '=')).tail?.map String.ofList
  match Parameter.ofLong? name, attached with
  | none, _ => refuse (.unexpectedArgument ("--" ++ name))
  | some (.field f), none => s.announce f
  | some (.field f), some value => s.attach f value
  | some (.switch w), none => s.turnOn w
  | some (.switch w), some value => refuse (.unexpectedValue value w)

/-- What stands after one dash. -/
def letters (s : Scan) : List Char → Except Stop Scan
  | [] => .ok s
  | letter :: rest =>
    match Parameter.ofShort? letter, rest with
    | none, _ => refuse (.unexpectedArgument (String.ofList ['-', letter]))
    | some (.field f), [] => s.announce f
    | some (.field f), '=' :: value => s.attach f (String.ofList value)
    | some (.field f), value => s.attach f (String.ofList value)
    | some (.switch w), rest => do (← s.turnOn w).letters rest

def read (s : Scan) (argument : String) : Except Stop Scan :=
  if s.valuesOnly then s.program argument
  else
    match argument.toList with
    | ['-', '-'] => .ok { s with valuesOnly := true }
    | '-' :: '-' :: text => s.long text
    | '-' :: letter :: rest => s.letters (letter :: rest)
    | _ => s.value argument

def finish (s : Scan) : Except Stop Options := do
  match (← s.settle).draft.finish with
  | .ok o => return o
  | .error e => refuse e

end Scan

/-- **The options of a command line.** -/
def parse (arguments : List String) : Except Stop Options := do
  (← arguments.foldlM Scan.read {}).finish

end Chip8.Runner
