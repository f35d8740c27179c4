/-! # File faults

Why a file could not be read or written. Each has a number and a description that it shares with the
operating system; `message` gives both. -/

namespace Chip8.Runner

inductive FileFault where
  | notFound
  | notDirectory
  | isDirectory
  | noSpace
  | readOnly
  | nameTooLong
  | tooManyLinks
  | other (code : Nat) (description : String)
  deriving DecidableEq

namespace FileFault

def code : FileFault → Nat
  | notFound => 2
  | notDirectory => 20
  | isDirectory => 21
  | noSpace => 28
  | readOnly => 30
  | nameTooLong => 36
  | tooManyLinks => 40
  | other code _ => code

def description : FileFault → String
  | notFound => "No such file or directory"
  | notDirectory => "Not a directory"
  | isDirectory => "Is a directory"
  | noSpace => "No space left on device"
  | readOnly => "Read-only file system"
  | nameTooLong => "File name too long"
  | tooManyLinks => "Too many levels of symbolic links"
  | other _ description => description

def message (e : FileFault) : String :=
  s!"{e.description} (os error {e.code})"

end FileFault

end Chip8.Runner
