import Chip8.Runner.CommandLine
import Chip8.Runner.Help
import Chip8.Runner.Session
import Chip8.Text.Utf8

/-! # Outcomes

What the runner comes to, as its caller sees it.

* `Session.outcome`: of a session; `outcomeAfter`: with a frame written in the midst of the output.
* `Stop.outcome`: of a command line that starts no session. -/

namespace Chip8.Runner

structure Outcome where
  exitCode : Nat
  stdout : String := ""
  /-- Why the run failed, from the outside in. -/
  chain : List String := []
  /-- What is wrong with the command line. -/
  usageError : Option UsageError := none

namespace Session

def outcome (s : Session) : Outcome where
  exitCode := s.exitCode
  stdout := s.stdout
  chain := (s.failure.map Failure.chain).getD []

/-- What a session has printed since it was `earlier`. -/
def stdoutSince (s earlier : Session) : String :=
  String.join ((s.output.drop earlier.output.length).map (Item.printed Layout.columns))

/-- A session's end, if `shown` went to the standard output itself since it was `earlier`. -/
def outcomeAfter (s earlier : Session) (shown : List UInt8) : Outcome :=
  if shown = [] then s.outcome
  else { s.outcome with
    stdout := earlier.stdout ++ String.ofList (Text.Utf8.decode shown) ++ s.stdoutSince earlier }

end Session

def Stop.outcome : Stop → Outcome
  | refused e => { exitCode := 2, usageError := some e }
  | help => { exitCode := 0, stdout := Runner.helpText }
  | version => { exitCode := 0, stdout := Runner.versionText }

end Chip8.Runner
