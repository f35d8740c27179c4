import Chip8.Proofs.Runner.Files

/-! # What ends a session without success

A session fails by its files alone: by a program that it cannot read or that does not fit, or by a
frame that it cannot write. Nothing that happens in the machine makes it fail or keeps its result
back.

* `Session.perform_of_error`, `perform_of_gt`, `start_of_fits`: the course of a session, by what
  reading the program gave. `stdout_of_output`: what is printed of the last of them.
* `only_files_fail`: the statement above. -/

namespace Chip8.Runner

namespace Session

variable {World : Type} {fs : FileSystem World} {w : World} {o : Options} {data : List UInt8}

theorem perform_of_error {e : FileFault} (h : fs.read w o.rom = .error e) :
    perform fs w o = ({ output := [], failure := some (.unreadableRom o.rom e) }, w) := by
  rw [perform, h]
  exact close_of_none rfl

theorem perform_of_gt (h : fs.read w o.rom = .ok data) (hlength : 3584 < data.length) :
    perform fs w o = ({
      output := [.notice (.loaded data.length o.rom)]
      failure := some (.unusableRom (.romTooLarge data.length 3584)) }, w) := by
  rw [perform, h, start_of_gt o hlength]
  exact close_of_none rfl

/-- A session that runs its program has not failed. It has printed the log of the run first, which
is silent about the frame, and then the picture and perhaps the state, and its frame is that of the
machine after the run. -/
theorem start_of_fits (o : Options) (hlength : data.length ≤ 3584) :
    ∃ (m : Machine) (n : Nat) (log : List Item),
      Setup.build { rom := data, tracing := o.tracing } = .ok m ∧
      m.Stops o.keepGoing o.cycles.toNat n ∧
      (∀ i ∈ log, (∀ text, i ≠ .text text) ∧ ∀ path, i ≠ .notice (.wroteFrame path)) ∧
      ∀ frameOut,
        (start { o with frameOut } (.ok data)).failure = none ∧
        (start { o with frameOut } (.ok data)).output =
          log ++ .text (m.afterTicks n).display.text ::
            (if o.dumpState then [.text ((m.afterTicks n).fullDump ++ "\n")] else []) ∧
        (start { o with frameOut } (.ok data)).frame = frameOut.map fun path =>
          (path, (m.afterTicks n).display.frame (o.foreground.getD Color.white)
            (o.background.getD Color.black)) := by
  obtain ⟨n, hn⟩ : ∃ n, n = o.extent (o.machine data) := ⟨_, rfl⟩
  refine ⟨o.machine data, n, heading o data n, Setup.build_of_le hlength, ?_,
    fun i hi => ⟨fun text heq => ?_, fun path heq => ?_⟩, fun frameOut => ⟨?_, ?_, ?_⟩⟩
  · rw [hn]
    exact o.stops_extent (o.machine data)
  · rw [heq] at hi
    exact text_notMem_heading o data n text hi
  · rw [heq] at hi
    exact wroteFrame_notMem_heading o data n path hi
  · rw [start_of_le _ hlength]
  · rw [output_start_frameOut, start_eq_upTo o hlength, ← hn, output_upTo]
  · rw [hn]
    exact frame_start { o with frameOut } hlength

theorem stdout_of_output {s : Session} {log : List Item} {picture state : String} {shown : Bool}
    (h : s.output = log ++ .text picture :: (if shown then [.text state] else []))
    (line : Layout) :
    s.stdout line = String.join (log.map (Item.printed line)) ++ picture ++
      (if shown then state else "") := by
  rw [stdout, h, List.map_append, String.join_append, List.map_cons, String.join_cons,
    apply_ite (List.map (Item.printed line)), apply_ite String.join, String.append_assoc]
  cases shown with
  | true =>
    rw [if_pos rfl, if_pos rfl, List.map_singleton, String.join_cons, String.join_nil,
      String.append_empty]
    rfl
  | false => rfl

end Session

/-- **Only its files make a session fail**, in any world and whatever the layout of the log. -/
theorem only_files_fail (o : Options) :
    (∀ (World : Type) (fs : FileSystem World) (w : World) (e : FileFault),
      fs.read w o.rom = .error e →
      let r := Session.perform fs w o
      r.1.exitCode = 1 ∧ r.1.output = [] ∧ (∀ line, r.1.stdout line = "") ∧ r.2 = w) ∧
    (∀ (World : Type) (fs : FileSystem World) (w : World) (data : List UInt8),
      fs.read w o.rom = .ok data → 3584 < data.length →
      let r := Session.perform fs w o
      r.1.exitCode = 1 ∧
      r.1.outcome.chain =
        [s!"ROM is too large ({data.length} bytes), max size is {3584} bytes"] ∧
      r.1.output = [.notice (.loaded data.length o.rom)] ∧
      (∀ line, r.1.stdout line =
        line .info "chip_8_runner" s!"loaded {data.length} byte ROM from {o.rom}") ∧
      r.2 = w) ∧
    (∀ data : List UInt8, data.length ≤ 3584 →
      ∃ (m : Machine) (n : Nat) (log printed : List Item) (shown : Layout → String),
        Setup.build { rom := data, tracing := o.tracing } = .ok m ∧
        m.Stops o.keepGoing o.cycles.toNat n ∧
        (∀ i ∈ log, (∀ text, i ≠ .text text) ∧ ∀ path, i ≠ .notice (.wroteFrame path)) ∧
        printed = log ++ .text (m.afterTicks n).display.text ::
          (if o.dumpState then [.text ((m.afterTicks n).fullDump ++ "\n")] else []) ∧
        (∀ line, shown line = String.join (log.map (Item.printed line)) ++
          (m.afterTicks n).display.text ++
          (if o.dumpState then (m.afterTicks n).fullDump ++ "\n" else "")) ∧
        ∀ (World : Type) (fs : FileSystem World) (w : World) (frameOut : Option String),
          fs.read w o.rom = .ok data →
          let r := Session.perform fs w { o with frameOut }
          (frameOut = none → r.1.exitCode = 0 ∧ r.1.output = printed ∧
            (∀ line, r.1.stdout line = shown line) ∧ r.2 = w) ∧
          ∀ path, frameOut = some path →
            let done := fs.write w path ((m.afterTicks n).display.frame
              (o.foreground.getD Color.white) (o.background.getD Color.black))
            r.2 = done.1 ∧
            (done.2 = .ok () → r.1.exitCode = 0 ∧
              r.1.output = printed ++ [.notice (.wroteFrame path)] ∧
              ∀ line, r.1.stdout line =
                shown line ++ line .info "chip_8_runner" s!"wrote frame to {path}") ∧
            ∀ e, done.2 = .error e → r.1.exitCode = 1 ∧ r.1.output = printed ∧
              (∀ line, r.1.stdout line = shown line) ∧
              r.1.outcome.chain = ["Failed to write frame to " ++ path, e.message]) ∧
    ∀ (f : Folder) (arguments : List String), parse arguments = .ok o →
      let r := Session.perform Folder.fileSystem f o
      (f.run arguments).1.exitCode = r.1.exitCode ∧
      (f.run arguments).1.chain = r.1.outcome.chain ∧ (f.run arguments).2 = r.2 ∧
      (o.frameOut = none → (f.run arguments).1 = r.1.outcome) := by
  refine ⟨fun World fs w e h => ?_, fun World fs w data h hlength => ?_, fun data hlength => ?_,
    fun f arguments h => ?_⟩
  · rw [Session.perform_of_error h]
    exact ⟨rfl, rfl, fun line => rfl, rfl⟩
  · rw [Session.perform_of_gt h hlength]
    refine ⟨rfl, rfl, rfl, fun line => ?_, rfl⟩
    rw [Session.stdout, List.map_singleton, String.join_cons, String.join_nil, String.append_empty]
    rfl
  · obtain ⟨m, n, log, hbuild, hstops, hlog, hstart⟩ := Session.start_of_fits o hlength
    refine ⟨m, n, log, _, _, hbuild, hstops, hlog, rfl, fun line => rfl,
      fun World fs w frameOut hread => ?_⟩
    have hfacts := hstart frameOut
    rw [Session.perform, hread]
    generalize Session.start { o with frameOut } (.ok data) = s at hfacts ⊢
    obtain ⟨hfailure, houtput, hframe⟩ := hfacts
    have hstdout := Session.stdout_of_output houtput
    refine ⟨fun hnone => ?_, fun path hsome => ?_⟩
    · rw [hnone, Option.map_none] at hframe
      rw [Session.close_of_none hframe]
      exact ⟨Session.exitCode_of_none hfailure, houtput, hstdout, rfl⟩
    · rw [hsome, Option.map_some] at hframe
      rw [Session.close_of_some hframe]
      refine ⟨rfl, fun hok => ?_, fun e he => ?_⟩
      · dsimp only
        rw [hok, Session.finish_ok hframe]
        refine ⟨Session.exitCode_of_none hfailure, congrArg (· ++ _) houtput, fun line => ?_⟩
        rw [Session.stdout_append, hstdout]
        rfl
      · dsimp only
        rw [he, Session.finish_error hframe]
        exact ⟨rfl, houtput, hstdout, rfl⟩
  · obtain ⟨shown, hnothing, hrun⟩ := f.run_eq_perform h
    obtain ⟨hcode, hchain⟩ := Session.exitCode_and_chain_outcomeAfter
      (Session.perform Folder.fileSystem f o).1 (Session.start o (f.read o.rom)) shown
    rw [hrun]
    refine ⟨hcode, hchain, rfl, fun hnone => ?_⟩
    rw [hnothing (Session.frame_start_of_none hnone _), Session.outcomeAfter_nil]

/-- Worlds of one file that nothing can be written to. The return fails, and so does the frame; only
the frame makes the session fail, and it is not said to be written. The same program in a folder,
without a frame. -/
theorem only_frame_fails_after_halt :
    ∃ (fs : FileSystem (Except FileFault (List UInt8))) (o : Options) (m : Machine) (f : Folder)
      (arguments : List String),
      (Session.perform fs (.error .notFound) o).1.exitCode = 1 ∧
      (Session.perform fs (.error .notFound) o).1.stdout = "" ∧
      3584 < (List.replicate 3585 (0 : UInt8)).length ∧
      (Session.perform fs (.ok (List.replicate 3585 0)) o).1.outcome.chain =
        ["ROM is too large (3585 bytes), max size is 3584 bytes"] ∧
      [0x00, 0xEE].length ≤ 3584 ∧ o.cycles = 5 ∧ o.keepGoing = false ∧
      Setup.build { rom := [0x00, 0xEE], tracing := o.tracing } = .ok m ∧
      m.result 0 = some (.stackUnderflow 0x200) ∧
      (Session.perform fs (.ok [0x00, 0xEE]) { o with frameOut := none }).1.exitCode = 0 ∧
      (Session.perform fs (.ok [0x00, 0xEE]) { o with frameOut := some "frame" }).1.exitCode = 1 ∧
      (∀ path, .notice (.wroteFrame path) ∉
        (Session.perform fs (.ok [0x00, 0xEE]) { o with frameOut := some "frame" }).1.output) ∧
      (Session.perform fs (.ok [0x00, 0xEE]) { o with frameOut := some "frame" }).1.outcome.chain =
        ["Failed to write frame to frame", "No space left on device (os error 28)"] ∧
      parse arguments = .ok o ∧ f.read o.rom = .ok [0x00, 0xEE] ∧
      (f.run arguments).1.exitCode = 0 ∧ (f.run arguments).2 = f ∧
      (f.run arguments).1 = (Session.perform Folder.fileSystem f o).1.outcome := by
  let fs : FileSystem (Except FileFault (List UInt8)) :=
    { read := fun w _ => w, write := fun w _ _ => (w, .error .noSpace) }
  let o : Options :=
    { rom := "rom", cycles := 5, keepGoing := false, background := none, foreground := none,
      frameOut := none, dumpState := false, debug := false, trace := false }
  let f : Folder := ⟨[("rom", [0x00, 0xEE])]⟩
  let arguments := ["rom", "-c5"]
  have hparse : parse arguments = .ok o := rfl
  have hnames : Folder.names "rom" = .ok ["rom"] := by
    rw [Folder.names, if_neg (by decide +kernel), String.splitOn, if_neg (by decide +kernel)]
    iterate 4 unfold String.splitOnAux
    decide +kernel
  have hread : f.read o.rom = .ok [0x00, 0xEE] :=
    Folder.read_of_lookup rfl hnames (by decide) (by decide) (by decide +kernel)
  have hlong : 3584 < (List.replicate 3585 (0 : UInt8)).length := by
    rw [List.length_replicate]
    decide
  have hshort : [0x00, 0xEE].length ≤ 3584 := by decide
  obtain ⟨hunreadable, hlarge, hfits, hfolder⟩ := only_files_fail o
  obtain ⟨hexit, -, hstdout, -⟩ := hunreadable _ fs (.error .notFound) .notFound rfl
  obtain ⟨-, hchain, -⟩ := hlarge _ fs (.ok (List.replicate 3585 0)) _ rfl hlong
  rw [List.length_replicate] at hchain
  obtain ⟨m, n, log, printed, shown, hbuild, -, hlog, hprinted, -, hend⟩ := hfits [0x00, 0xEE] hshort
  obtain ⟨hsilent, -⟩ := hend _ fs (.ok [0x00, 0xEE]) none rfl
  obtain ⟨-, hframe⟩ := hend _ fs (.ok [0x00, 0xEE]) (some "frame") rfl
  obtain ⟨-, -, hrefused⟩ := hframe "frame" rfl
  obtain ⟨hexit', houtput, -, hchain'⟩ := hrefused .noSpace rfl
  obtain ⟨hkept, -⟩ := hend _ Folder.fileSystem f none hread
  obtain ⟨hsuccess, -, -, hfiles⟩ := hkept rfl
  obtain ⟨hcode, -, hleft, houtcome⟩ := hfolder f arguments hparse
  refine ⟨fs, o, m, f, arguments, hexit, hstdout _, hlong, hchain.trans ?_, hshort, rfl, rfl, hbuild,
    ?_, (hsilent rfl).1, hexit', fun path hmem => ?_, hchain'.trans ?_, hparse, hread,
    hcode.trans hsuccess, hleft.trans hfiles, houtcome rfl⟩
  · decide +kernel
  · rw [(Setup.eq_machine_of_build hbuild).2]
    decide +kernel
  · rw [houtput, hprinted, List.mem_append] at hmem
    rcases hmem with hmem | hmem
    · exact (hlog _ hmem).2 path rfl
    · -- behind the log there is only text
      simp [o] at hmem
  · decide +kernel

end Chip8.Runner
