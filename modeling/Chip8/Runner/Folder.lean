import Chip8.Runner.Outcome
import Chip8.Runner.Surroundings

/-! # Folders

The runner in a folder of plain files, without an operating system. What lies outside of the folder
is not kept: there is nothing to read but from the devices, and what is written there is lost.

* `read`, `write`: a file by its path.
* `run`: the runner with a row of arguments, and the folder afterwards. -/

namespace Chip8.Runner

structure Folder where
  files : List (String × List UInt8)
  deriving DecidableEq

/-- What writing a file leads to. -/
structure Written where
  folder : Folder
  /-- What came out on the standard output of the runner. -/
  shown : List UInt8 := []

/-- Where a path leads. -/
inductive Place where
  | folder
  | outside (d : Directory)
  | device (d : Device)
  | file (name : String) (data : List UInt8)
  /-- Nothing has this name, in the folder or in a directory outside of it. -/
  | absent (name : String) (outside : Option Directory)

/-- What the next name of a path stands for. -/
inductive Step where
  | here (place : Place)
  /-- A link, which leads on from a place by the names on its way. -/
  | link (place : Place) (way : List String)

def Step.ofEntry (d : Directory) (name : String) : Entry → Step
  | .directory => here (.outside (d.inside name))
  | .device x => here (.device x)
  | .descriptor x => link (.device x) []
  | .workingFolder => link .folder []
  | .link fromRoot way => link (.outside (if fromRoot then Directory.root else d)) way

namespace Folder

/-- The names along a path, with an empty one wherever nothing stands before, between or after
slashes. -/
def names (path : String) : Except FileFault (List String) :=
  if path.utf8ByteSize ≥ 4096 then .error .nameTooLong else .ok (path.splitOn "/")

def find (f : Folder) (name : String) : Place :=
  match f.files.lookup name with
  | some data => .file name data
  | none => .absent name none

/-- One name further. -/
def enter (f : Folder) (place : Place) (name : String) : Except FileFault Step :=
  match place with
  | .file .. | .device _ => .error .notDirectory
  | .absent .. => .error .notFound
  | .folder =>
    if name = "" ∨ name = "." then .ok (.here .folder)
    else if name = ".." then .ok (.here (.outside Directory.aboveFolder))
    else if name.utf8ByteSize > 255 then .error .nameTooLong
    else .ok (.here (f.find name))
  | .outside d =>
    if name = "" ∨ name = "." then .ok (.here (.outside d))
    else if name = ".." then .ok (.here (.outside d.above))
    else if d.LimitsNames ∧ name.utf8ByteSize > 255 then .error .nameTooLong
    else match d.entries.lookup name with
    | some entry => .ok (Step.ofEntry d name entry)
    | none => .ok (.here (.absent name (some d)))

/-- The place at the end of a row of names, over so many links at most. -/
def walkFrom (f : Folder) (links : Nat) (place : Place) (names : List String) :
    Except FileFault Place :=
  match names with
  | [] => .ok place
  | name :: rest =>
    match f.enter place name with
    | .error e => .error e
    | .ok (.here next) => f.walkFrom links next rest
    | .ok (.link next way) =>
      if links = 0 then .error .tooManyLinks else f.walkFrom (links - 1) next (way ++ rest)
termination_by (links, names.length)
decreasing_by
  · exact Prod.Lex.right _ (by simp)
  · exact Prod.Lex.left _ _ (by omega)

def mostLinks : Nat := 40

/-- A path that starts with a slash starts from the root. -/
def walk (f : Folder) : List String → Except FileFault Place
  | "" :: name :: rest => f.walkFrom mostLinks (.outside Directory.root) (name :: rest)
  | names => f.walkFrom mostLinks .folder names

def read (f : Folder) (path : String) : Except FileFault (List UInt8) := do
  match ← f.walk (← names path) with
  | .file _ data => return data
  | .device d => d.read
  | .absent .. => throw .notFound
  | _ => throw .isDirectory

/-- The way to the last name of a path, if a slash follows that name: it asks for a directory, and
writing makes none. -/
def directoryAsked? (names : List String) : Option (List String) :=
  match names.reverse with
  | "" :: rest =>
    match rest.dropWhile (· == "") with
    | [] => none
    | name :: way => if name = "." ∨ name = ".." then none else some way.reverse
  | _ => none

def put (f : Folder) (name : String) (data : List UInt8) : Folder :=
  ⟨(name, data) :: f.files.filter (·.1 != name)⟩

def write (f : Folder) (path : String) (data : List UInt8) : Except FileFault Written := do
  let names ← names path
  if let some way := directoryAsked? names then
    let _ ← f.walk (way ++ ["."])
    throw .isDirectory
  match ← f.walk names with
  | .file name _ | .absent name none => return { folder := f.put name data }
  | .absent _ (some d) =>
    match d.refusal? with
    | some e => throw e
    | none => return { folder := f }
  | .device d =>
    d.write
    return { folder := f, shown := if d.isStdout then data else [] }
  | _ => throw .isDirectory

/-- **The runner in a folder.** -/
def run (f : Folder) (arguments : List String) : Outcome × Folder :=
  match parse arguments with
  | .error stop => (stop.outcome, f)
  | .ok o =>
    let s := Session.start o (f.read o.rom)
    match s.frame with
    | none => (s.outcome, f)
    | some (path, data) =>
      match f.write path data with
      | .ok w => ((s.finish (.ok ())).outcomeAfter s w.shown, w.folder)
      | .error e => ((s.finish (.error e)).outcome, f)

end Folder

end Chip8.Runner
