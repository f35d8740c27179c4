import Chip8.Runner.Outcome

/-! # The command line

The runner with real files: it reads the program, prints, writes the frame, and exits with `0`, with
`1` if the run failed, and with `2` if the command line is wrong. -/

namespace Chip8.Runner

/-- The fault behind an error of the operating system. -/
def FileFault.ofError : IO.Error → FileFault
  | .noFileOrDirectory .. => .notFound
  | .alreadyExists _ code text | .invalidArgument _ code text | .permissionDenied _ code text
  | .resourceExhausted _ code text | .inappropriateType _ code text | .noSuchThing _ code text
  | .interrupted _ code text | .otherError code text | .resourceBusy code text
  | .resourceVanished code text | .unsupportedOperation code text | .hardwareFault code text
  | .unsatisfiedConstraints code text | .illegalOperation code text | .protocolError code text
  | .timeExpired code text => .other code.toNat text
  | .unexpectedEof => .other 0 "unexpected end of file"
  | .userError text => .other 0 text

def readFile (path : String) : IO (Except FileFault (List UInt8)) := do
  try
    return .ok (← IO.FS.readBinFile path).toList
  catch e => return .error (.ofError e)

def writeFile (path : String) (data : List UInt8) : IO (Except FileFault Unit) := do
  try
    IO.FS.writeBinFile path ⟨data.toArray⟩
    return .ok ()
  catch e => return .error (.ofError e)

def runFiles (o : Options) : IO UInt32 := do
  let s := Session.start o (← readFile o.rom)
  IO.print s.stdout
  (← IO.getStdout).flush
  let done ← match s.frame with
    | some (path, data) => pure (s.finish (← writeFile path data))
    | none => pure s
  IO.print (done.stdoutSince s)
  if let some failure := done.failure then
    IO.eprintln ("Error: " ++ String.intercalate ": " failure.chain)
  return UInt32.ofNat done.exitCode

def runArguments (arguments : List String) : IO UInt32 := do
  match parse arguments with
  | .ok o => runFiles o
  | .error .help => IO.print helpText; return 0
  | .error .version => IO.print versionText; return 0
  | .error (.refused e) => IO.eprintln ("error: " ++ e.message); return 2

end Chip8.Runner

def main (arguments : List String) : IO UInt32 :=
  Chip8.Runner.runArguments arguments
