import Chip8.Proofs.Runner.Progress
import Chip8.Runner.Folder

/-! # Sessions among files

A session reads its program and writes its frame. The files are those of any world: reading and
writing are arbitrary, and writing may change the world in any way. So where every world is left the
same, nothing was written.

* `FileSystem`: how a world reads and writes. `Session.close`: the end of a session, with its frame
  written; `Session.perform`: a whole session in a world. `output_close`: the end adds nothing but
  what it says about the frame.
* `Folder.run_eq_perform`: the runner in a folder is the session in the folder;
  `exitCode_and_chain_outcomeAfter`: but for what went to the standard output itself.
  `Folder.read_of_lookup`: a file by its name. -/

namespace Chip8.Runner

structure FileSystem (World : Type) where
  read : World → String → Except FileFault (List UInt8)
  write : World → String → List UInt8 → World × Except FileFault Unit

variable {World : Type} (fs : FileSystem World) (w : World)

namespace Session

/-- The end of a session, and the world afterwards. -/
def close (s : Session) : Session × World :=
  match s.frame with
  | none => (s, w)
  | some (path, bytes) =>
    let done := fs.write w path bytes
    (s.finish done.2, done.1)

def perform (o : Options) : Session × World :=
  close fs w (start o (fs.read w o.rom))

/-! ## The end -/

variable {fs w} {s : Session}

theorem close_of_none (h : s.frame = none) : close fs w s = (s, w) := by
  simp only [close, h]

section

variable {path : String} {bytes : List UInt8} (h : s.frame = some (path, bytes))
include h

theorem close_of_some :
    close fs w s = (s.finish (fs.write w path bytes).2, (fs.write w path bytes).1) := by
  simp only [close, h]

theorem finish_ok :
    s.finish (.ok ()) = { s with output := s.output ++ [.notice (.wroteFrame path)] } := by
  simp only [finish, h]

theorem finish_error (e : FileFault) :
    s.finish (.error e) = { s with failure := some (.unwritableFrame path e) } := by
  simp only [finish, h]

end

/-- A session with a program that fits. -/
theorem perform_of_le {o : Options} {data : List UInt8} (h : fs.read w o.rom = .ok data)
    (hlength : data.length ≤ 3584) :
    perform fs w o = close fs w (upTo o data (o.extent (o.machine data))) := by
  rw [perform, h, start_eq_upTo o hlength]

/-- The end of a session only adds lines about the frame. -/
theorem output_close (fs : FileSystem World) (w : World) (s : Session) :
    ∃ more, (close fs w s).1.output = s.output ++ more ∧
      ∀ i ∈ more, ∃ path, i = .notice (.wroteFrame path) := by
  cases hframe : s.frame with
  | none => exact ⟨[], by rw [close_of_none hframe, List.append_nil], nofun⟩
  | some frame =>
    obtain ⟨path, bytes⟩ := frame
    rw [close_of_some hframe]
    cases (fs.write w path bytes).2 with
    | error e => exact ⟨[], by rw [finish_error hframe, List.append_nil], nofun⟩
    | ok u =>
      refine ⟨[.notice (.wroteFrame path)], by rw [finish_ok hframe], fun i hi => ?_⟩
      exact ⟨path, List.mem_singleton.1 hi⟩

theorem exitCode_of_none (h : s.failure = none) : s.exitCode = 0 := by
  rw [exitCode, h]
  rfl

theorem stdout_append (i : Item) (line : Layout) :
    stdout { s with output := s.output ++ [i] } line = s.stdout line ++ i.printed line := by
  rw [stdout, List.map_append, String.join_append, List.map_singleton, String.join_cons,
    String.join_nil, String.append_empty, stdout]

theorem outcomeAfter_nil (s earlier : Session) : s.outcomeAfter earlier [] = s.outcome :=
  if_pos rfl

/-- Only the standard output tells what went there itself. -/
theorem exitCode_and_chain_outcomeAfter (s earlier : Session) (shown : List UInt8) :
    (s.outcomeAfter earlier shown).exitCode = s.exitCode ∧
      (s.outcomeAfter earlier shown).chain = s.outcome.chain := by
  unfold outcomeAfter
  split_ifs <;> exact ⟨rfl, rfl⟩

end Session

/-! ## In a folder -/

def Folder.fileSystem : FileSystem Folder where
  read := Folder.read
  write f path bytes :=
    match f.write path bytes with
    | .ok done => (done.folder, .ok ())
    | .error e => (f, .error e)

section

variable {f : Folder} {name : String} {data : List UInt8}

theorem Folder.walk_of_lookup (h : f.files.lookup name = some data) (hempty : name ≠ "")
    (hdots : name ≠ "." ∧ name ≠ "..") (hlength : name.utf8ByteSize ≤ 255) :
    f.walk [name] = .ok (.file name data) := by
  have henter : f.enter .folder name = .ok (.here (.file name data)) := by
    rw [enter, if_neg (not_or.2 ⟨hempty, hdots.1⟩), if_neg hdots.2, if_neg (Nat.not_lt.2 hlength),
      find, h]
  have hlast : f.walkFrom mostLinks (.file name data) [] = .ok (.file name data) := by
    rw [walkFrom]
  unfold walk walkFrom
  simp only [henter, hlast]

/-- A file in the folder is read by its name. -/
theorem Folder.read_of_lookup (h : f.files.lookup name = some data)
    (hnames : names name = .ok [name]) (hempty : name ≠ "") (hdots : name ≠ "." ∧ name ≠ "..")
    (hlength : name.utf8ByteSize ≤ 255) : f.read name = .ok data := by
  have hwalk := walk_of_lookup h hempty hdots hlength
  simp only [read, hnames, hwalk, bind, Except.bind]
  rfl

end

/-- The runner in a folder is the session in the folder, whatever may have come out on the standard
output itself. Without a frame nothing has. -/
theorem Folder.run_eq_perform (f : Folder) {arguments : List String} {o : Options}
    (h : parse arguments = .ok o) :
    ∃ shown, ((Session.start o (f.read o.rom)).frame = none → shown = []) ∧
      f.run arguments =
        ((Session.perform fileSystem f o).1.outcomeAfter (Session.start o (f.read o.rom)) shown,
          (Session.perform fileSystem f o).2) := by
  have hperform : Session.perform fileSystem f o =
      Session.close fileSystem f (Session.start o (f.read o.rom)) := rfl
  unfold run
  rw [h, hperform]
  dsimp only
  cases hframe : (Session.start o (f.read o.rom)).frame with
  | none =>
    refine ⟨[], fun _ => rfl, ?_⟩
    rw [Session.close_of_none hframe, Session.outcomeAfter_nil]
  | some frame =>
    obtain ⟨path, bytes⟩ := frame
    rw [Session.close_of_some hframe]
    dsimp only [fileSystem]
    cases f.write path bytes with
    | ok done => exact ⟨done.shown, fun hnone => absurd hnone (Option.some_ne_none _), rfl⟩
    | error e => exact ⟨[], fun _ => rfl, rfl⟩

end Chip8.Runner
