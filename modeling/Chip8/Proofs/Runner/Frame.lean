import Chip8.Proofs.Run.Blank
import Chip8.Proofs.Runner.Files

/-! # Frames are all background

No instruction turns a pixel on. So a session shows a blank picture, the frame that it writes is the
background all over, and the foreground is never seen.

* `display_machine`: the display that a run leaves. `Session.output_upTo_blank`,
  `Session.frame_upTo_blank`: what a session prints and draws of it.
* `Session.start_foreground`, `Session.perform_foreground`, `Folder.run_foreground`: the foreground
  may be given, left out or replaced.
* `frame_is_background`: the statement above. -/

namespace Chip8.Runner

variable {o : Options}

theorem display_machine (o : Options) (data : List UInt8) (n : Nat) :
    ((o.machine data).afterTicks n).display = Display.new :=
  Machine.display_afterTicks_of_blank rfl n

namespace Session

theorem output_upTo_blank (o : Options) (data : List UInt8) (n : Nat) :
    ∃ dump, (upTo o data n).output = heading o data n ++ .text Display.blankText :: dump ∧
      (o.dumpState = false → dump = []) := by
  refine ⟨_, by rw [output_upTo, display_machine, Display.text_new], fun hquiet => ?_⟩
  rw [hquiet, if_neg Bool.false_ne_true]

theorem frame_upTo_blank (o : Options) (data : List UInt8) (n : Nat) :
    (upTo o data n).frame = o.frameOut.map fun path =>
      (path, Display.plainFrame (o.background.getD ⟨0, 0, 0⟩)) := by
  rw [upTo, display_machine, Display.frame_new]
  rfl

/-! ## The foreground -/

theorem start_foreground (o : Options) (foreground : Option Color)
    (rom : Except FileFault (List UInt8)) :
    start { o with foreground } rom = start o rom := by
  cases rom with
  | error e => rfl
  | ok data =>
    rcases Nat.lt_or_ge 3584 data.length with h | h
    · rw [start_of_gt _ h, start_of_gt _ h]
    · rw [start_eq_upTo _ h, start_eq_upTo _ h, upTo, upTo, display_machine, display_machine,
        Display.frame_new, Display.frame_new]
      rfl

theorem perform_foreground {World : Type} (fs : FileSystem World) (w : World) (o : Options)
    (foreground : Option Color) : perform fs w { o with foreground } = perform fs w o := by
  rw [perform, start_foreground, perform]

end Session

theorem Folder.run_foreground (f : Folder) {arguments arguments' : List String}
    {foreground : Option Color} (h : parse arguments = .ok o)
    (h' : parse arguments' = .ok { o with foreground }) : f.run arguments' = f.run arguments := by
  unfold run
  rw [h, h']
  simp only [Session.start_foreground]

/-- **A frame is the background all over**, whatever the program, black if there is none, and the
picture that is printed is blank. The foreground is not to be seen in anything that a session
does. -/
theorem frame_is_background {World : Type} (fs : FileSystem World) (w : World) (o : Options) :
    let r := Session.perform fs w o
    let frame := Display.plainFrame (o.background.getD ⟨0, 0, 0⟩)
    (∀ data, fs.read w o.rom = .ok data → data.length ≤ 3584 →
      (∃ log rest, r.1.output = log ++ .text Display.blankText :: rest ∧
        (∀ text, .text text ∉ log) ∧ ∀ text, .text text ∈ rest → o.dumpState = true) ∧
      (o.frameOut = none → r.2 = w) ∧
      ∀ path, o.frameOut = some path → r.2 = (fs.write w path frame).1) ∧
    frame.length = 8192 ∧
    (∀ foreground, Session.perform fs w { o with foreground } = r) ∧
    ∀ (f : Folder) (arguments arguments' : List String) (foreground : Option Color),
      parse arguments = .ok o → parse arguments' = .ok { o with foreground } →
        f.run arguments' = f.run arguments := by
  intro r frame
  refine ⟨fun data hread hlength => ?_, Display.length_plainFrame _,
    Session.perform_foreground fs w o, fun f _ _ _ => f.run_foreground⟩
  obtain ⟨n, hr⟩ : ∃ n, r = Session.close fs w (Session.upTo o data n) :=
    ⟨_, Session.perform_of_le hread hlength⟩
  have hframe := Session.frame_upTo_blank o data n
  obtain ⟨dump, houtput, hdump⟩ := Session.output_upTo_blank o data n
  rw [hr]
  refine ⟨?_, fun hnone => ?_, fun path hsome => ?_⟩
  · obtain ⟨more, hclose, hmore⟩ := Session.output_close fs w (Session.upTo o data n)
    refine ⟨Session.heading o data n, dump ++ more, ?_, Session.text_notMem_heading o data n,
      fun text htext => ?_⟩
    · rw [hclose, houtput, List.append_assoc, List.cons_append]
    · by_contra hquiet
      rw [hdump (Bool.eq_false_iff.2 hquiet), List.nil_append] at htext
      obtain ⟨path, hpath⟩ := hmore _ htext
      cases hpath
  · rw [hnone, Option.map_none] at hframe
    rw [Session.close_of_none hframe]
  · rw [hsome, Option.map_some] at hframe
    rw [Session.close_of_some hframe]

/-- A program that clears the display again and again, in a world of one file, run with and without
a foreground, and with and without a background. -/
theorem green_foreground_unseen :
    ∃ (fs : FileSystem (List UInt8)) (o : Options) (f : Folder) (arguments : List String),
      parse arguments = .ok o ∧ o.background = some ⟨0x10, 0x20, 0x30⟩ ∧
      parse (arguments ++ ["--foreground=00ff00"]) = .ok { o with foreground := some ⟨0, 255, 0⟩ } ∧
      fs.read [] o.rom = .ok [0x00, 0xE0, 0x12, 0x00] ∧
      [0x00, 0xE0, 0x12, 0x00].length ≤ 3584 ∧ o.frameOut = some "frame.bin" ∧
      (Session.perform fs [] o).2 = (List.replicate 2048 [0, 0x30, 0x20, 0x10]).flatten ∧
      (Session.perform fs [] { o with background := none }).2 =
        (List.replicate 2048 [0, 0, 0, 0]).flatten ∧
      Session.perform fs [] { o with foreground := some ⟨0, 255, 0⟩ } = Session.perform fs [] o ∧
      f.run (arguments ++ ["--foreground=00ff00"]) = f.run arguments := by
  let fs : FileSystem (List UInt8) :=
    { read := fun _ _ => .ok [0x00, 0xE0, 0x12, 0x00], write := fun _ _ bytes => (bytes, .ok ()) }
  let o : Options :=
    { rom := "rom.ch8", cycles := 3, keepGoing := false, background := some ⟨0x10, 0x20, 0x30⟩,
      foreground := none, frameOut := some "frame.bin", dumpState := false, debug := false,
      trace := false }
  let f : Folder := ⟨[("rom.ch8", [0x00, 0xE0, 0x12, 0x00])]⟩
  let arguments := ["rom.ch8", "-c3", "--background", "#102030", "--frame-out", "frame.bin"]
  have hparse : parse arguments = .ok o := rfl
  have hparse' : parse (arguments ++ ["--foreground=00ff00"]) =
      .ok { o with foreground := some ⟨0, 255, 0⟩ } := rfl
  have hlength : [0x00, 0xE0, 0x12, 0x00].length ≤ 3584 := by decide
  obtain ⟨hframe, -, hperform, hrun⟩ := frame_is_background fs [] o
  obtain ⟨-, -, hwritten⟩ := hframe _ rfl hlength
  obtain ⟨hframe', -⟩ := frame_is_background fs [] { o with background := none }
  obtain ⟨-, -, hblack⟩ := hframe' _ rfl hlength
  exact ⟨fs, o, f, arguments, hparse, rfl, hparse', rfl, hlength, rfl, hwritten _ rfl, hblack _ rfl,
    hperform _, hrun f arguments _ _ hparse hparse'⟩

end Chip8.Runner
