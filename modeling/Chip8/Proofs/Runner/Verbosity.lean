import Chip8.Proofs.Run.Tracing
import Chip8.Proofs.Runner.Files

/-! # Verbosity

How much is to be reported changes neither the run nor what else comes of it. A more verbose session
prints the same, with some more lines of the log in between.

* `Session.without`: a session but for the lines of the log at some levels; `without_without`.
* `Options.verbose`: the options with other verbosity; `Options.hidden`: the levels that are then
  left out. `shows_verbose`: nothing else is.
* `Session.start_verbose`, `Session.close_without`: so a session is the most verbose one without
  the levels that it leaves out.
* `verbosity_only_adds_lines`: the statement above. -/

namespace Chip8.Runner

/-! ## Levels left out -/

/-- A line of the log at one of the levels. -/
def Item.isLogged (levels : List Level) : Item → Bool
  | notice n => n.level ∈ levels
  | event e => e.level ∈ levels
  | text _ => false

theorem Item.isLogged_notice {levels : List Level} {n : Notice} (h : n.level ∉ levels) :
    (notice n).isLogged levels = false :=
  decide_eq_false h

theorem Item.isLogged_append (levels levels' : List Level) (i : Item) :
    i.isLogged (levels ++ levels') = (i.isLogged levels || i.isLogged levels') := by
  cases i <;> simp [isLogged]

namespace Session

/-- The session without the lines of the log at the levels. -/
def without (s : Session) (levels : List Level) : Session :=
  { s with output := s.output.filter fun i => !i.isLogged levels }

theorem without_without (s : Session) (levels levels' : List Level) :
    (s.without levels).without levels' = s.without (levels ++ levels') := by
  have hboth : ∀ i : Item, (!i.isLogged levels' && !i.isLogged levels) =
      !i.isLogged (levels ++ levels') := by
    intro i
    rw [Item.isLogged_append, Bool.not_or, Bool.and_comm]
  unfold without
  simp only [List.filter_filter, hboth]

theorem without_congr (s : Session) {levels levels' : List Level}
    (h : ∀ l, l ∈ levels ↔ l ∈ levels') : s.without levels = s.without levels' := by
  have hsame : ∀ i : Item, i.isLogged levels = i.isLogged levels' := by
    intro i
    cases i <;> simp only [Item.isLogged, h]
  unfold without
  simp only [hsame]

/-- What the runner itself says behind the picture is no diagnostic. -/
theorem finish_without {levels : List Level} (h : .info ∉ levels) (s : Session)
    (written : Except FileFault Unit) :
    (s.without levels).finish written = (s.finish written).without levels := by
  have hkept : ∀ path, [Item.notice (.wroteFrame path)].filter (fun i => !i.isLogged levels) =
      [.notice (.wroteFrame path)] := by
    intro path
    rw [List.filter_cons, Item.isLogged_notice h]
    rfl
  have hframe : (s.without levels).frame = s.frame := rfl
  unfold finish
  rw [hframe]
  cases s.frame with
  | none => rfl
  | some frame =>
    cases written with
    | error e => rfl
    | ok u => simp only [without, List.filter_append, hkept]

theorem close_without {World : Type} (fs : FileSystem World) (w : World) {levels : List Level}
    (h : .info ∉ levels) (s : Session) :
    close fs w (s.without levels) = ((close fs w s).1.without levels, (close fs w s).2) := by
  have hframe : (s.without levels).frame = s.frame := rfl
  unfold close
  rw [hframe]
  cases s.frame with
  | none => rfl
  | some frame => simp only [finish_without h]

end Session

/-! ## What is reported -/

namespace Options

def verbose (o : Options) (debug trace : Bool) : Options :=
  { o with debug := debug, trace := trace }

/-- The levels that are not reported. -/
def hidden (debug trace : Bool) : List Level :=
  if trace then [] else if debug then [.trace] else [.debug, .trace]

theorem notMem_hidden {l : Level} (h : l ≠ .debug ∧ l ≠ .trace) (debug trace : Bool) :
    l ∉ hidden debug trace := by
  unfold hidden
  split_ifs <;> simp [h]

theorem mem_hidden_append (debug trace : Bool) (l : Level) :
    l ∈ hidden debug trace ++ [.debug, .trace] ↔ l ∈ [Level.debug, Level.trace] := by
  unfold hidden
  split_ifs <;> simp only [List.mem_append, List.mem_cons, List.not_mem_nil] <;> tauto

theorem shows_verbose (o : Options) (debug trace : Bool) :
    (o.verbose debug trace).shows = fun e => !decide (e.level ∈ hidden debug trace) := by
  funext e
  cases e <;> cases debug <;> cases trace <;> rfl

theorem machine_verbose (o : Options) (debug trace : Bool) (data : List UInt8) :
    (o.verbose debug trace).machine data = (o.machine data).withTracing (debug || trace) := rfl

/-- A machine that does not trace is only run where its instructions would not be reported. -/
theorem filter_reported_verbose (o : Options) (debug trace : Bool) (data : List UInt8) (n : Nat) :
    (((o.verbose debug trace).machine data).reported n).filter (o.verbose debug trace).shows =
      (((o.machine data).withTracing true).reported n).filter
        fun e => !decide (e.level ∈ hidden debug trace) := by
  rw [shows_verbose, machine_verbose]
  cases debug with
  | true => rfl
  | false =>
    cases trace with
    | true => rfl
    | false =>
      have hp : ∀ (pc w : UInt16) (inst : Instruction),
          (!decide ((Event.decoded pc w inst).level ∈ hidden false false)) = false :=
        fun _ _ _ => rfl
      rw [Machine.filter_reported_withTracing _ _ hp, Machine.filter_reported_withTracing _ _ hp]

theorem extent_verbose (o : Options) (debug trace : Bool) (data : List UInt8) :
    (o.verbose debug trace).extent ((o.verbose debug trace).machine data) =
      o.extent (o.machine data) := by
  rw [machine_verbose]
  exact Machine.length_ticks_withTracing (debug || trace) (o.machine data) o.keepGoing
    o.cycles.toNat

end Options

/-! ## Sessions -/

theorem Progress.conclusion_withTracing (o : Options) (on : Bool) (m : Machine) (n : Nat) :
    conclusion o (m.withTracing on) n = conclusion o m n := by
  rw [conclusion, Machine.haltAfter_withTracing, Machine.failures_withTracing,
    Machine.afterTicks_withTracing]
  rfl

theorem Progress.filter_conclusion {levels : List Level} (hinfo : .info ∉ levels)
    (herror : .error ∉ levels) (o : Options) (m : Machine) (n : Nat) :
    (conclusion o m n).filter (fun i => !i.isLogged levels) = conclusion o m n := by
  apply List.filter_eq_self.2
  intro i hi
  rcases mem_conclusion hi with ⟨f, -, rfl⟩ | rfl | ⟨text, rfl⟩
  · rw [Item.isLogged_notice herror]
    rfl
  · rw [Item.isLogged_notice hinfo]
    rfl
  · rfl

namespace Session

/-- What a session prints and draws of a run, by the events that it reports. -/
theorem start_verbose_of_le (o : Options) (debug trace : Bool) {data : List UInt8}
    (h : data.length ≤ 3584) :
    let n := o.extent (o.machine data)
    start (o.verbose debug trace) (.ok data) = {
      output := .notice (.loaded data.length o.rom) ::
        (((((o.machine data).withTracing true).reported n).filter
          fun e => !decide (e.level ∈ Options.hidden debug trace)).map .event
          ++ Progress.conclusion o (o.machine data) n)
      frame := o.frameOut.map fun path =>
        (path, ((o.machine data).afterTicks n).display.frame (o.foreground.getD Color.white)
          (o.background.getD Color.black)) } := by
  intro n
  rw [start_eq_upTo _ h, Options.extent_verbose, upTo, Options.filter_reported_verbose,
    Options.machine_verbose, Progress.conclusion_withTracing, Machine.afterTicks_withTracing]
  rfl

/-- **A session is the most verbose one without the levels that it does not report.** -/
theorem start_verbose (o : Options) (debug trace : Bool) (rom : Except FileFault (List UInt8)) :
    start (o.verbose debug trace) rom =
      (start (o.verbose true true) rom).without (Options.hidden debug trace) := by
  have hinfo : .info ∉ Options.hidden debug trace := Options.notMem_hidden (by decide) _ _
  have herror : .error ∉ Options.hidden debug trace := Options.notMem_hidden (by decide) _ _
  have hloaded : ∀ size, Item.isLogged (Options.hidden debug trace) (.notice (.loaded size o.rom)) =
      false := fun _ => Item.isLogged_notice hinfo
  cases rom with
  | error e => rfl
  | ok data =>
    by_cases h : data.length ≤ 3584
    · have hall : ∀ e : Event, (!decide (e.level ∈ Options.hidden true true)) = true := by
        intro e
        rfl
      have hevents : (fun i : Item => !i.isLogged (Options.hidden debug trace)) ∘ .event =
          fun e => !decide (e.level ∈ Options.hidden debug trace) := rfl
      rw [start_verbose_of_le o debug trace h, start_verbose_of_le o true true h, without]
      simp only [List.filter_cons, hloaded, List.filter_append, List.filter_map, hevents,
        List.filter_filter, hall, Bool.and_true, Progress.filter_conclusion hinfo herror]
      rfl
    · have hgt : 3584 < data.length := Nat.lt_of_not_le h
      rw [start_of_gt _ hgt, start_of_gt _ hgt, without]
      simp only [Options.verbose, List.filter_cons, hloaded]
      rfl

end Session

/-- **Verbosity only adds lines to the log.** A session with `--trace` is one with `--debug` but for
its trace lines, and that is one with neither but for its debug lines. Nothing else depends on the
two, whatever the files are. -/
theorem verbosity_only_adds_lines {World : Type} (fs : FileSystem World) (w : World)
    (o : Options) :
    let run (debug trace : Bool) : Session × World := Session.perform fs w { o with debug, trace }
    (∀ debug trace,
      (run debug trace).1.outcome.exitCode = (run false false).1.outcome.exitCode ∧
      (run debug trace).1.outcome.chain = (run false false).1.outcome.chain ∧
      (run debug trace).2 = (run false false).2 ∧
      (run debug trace).1.frame = (run false false).1.frame ∧
      (run debug trace).1.without [.debug, .trace] = (run false false).1) ∧
    (run false true).1.without [.trace] = (run true false).1 ∧
    ((run false true).1.without [.trace]).without [.debug] = (run false false).1 ∧
    run true true = run false true := by
  intro run
  have hrun : ∀ debug trace, run debug trace =
      ((run true true).1.without (Options.hidden debug trace), (run true true).2) := by
    intro debug trace
    have hinfo : .info ∉ Options.hidden debug trace := Options.notMem_hidden (by decide) _ _
    have hstart : Session.start { o with debug, trace } (fs.read w o.rom) =
        (Session.start { o with debug := true, trace := true } (fs.read w o.rom)).without
          (Options.hidden debug trace) := Session.start_verbose o debug trace _
    exact (congrArg (Session.close fs w) hstart).trans (Session.close_without fs w hinfo _)
  have hquiet : ∀ debug trace,
      (run debug trace).1.without [.debug, .trace] = (run false false).1 := by
    intro debug trace
    rw [hrun debug trace, hrun false false, Session.without_without]
    exact Session.without_congr _ (Options.mem_hidden_append debug trace)
  refine ⟨fun debug trace => ⟨?_, ?_, ?_, ?_, hquiet debug trace⟩, ?_, ?_, ?_⟩
  · rw [← hquiet debug trace]
    rfl
  · rw [← hquiet debug trace]
    rfl
  · rw [hrun debug trace, hrun false false]
  · rw [← hquiet debug trace]
    rfl
  · rw [hrun false true, hrun true false, Session.without_without]
    rfl
  · rw [hrun false true, hrun false false, Session.without_without, Session.without_without]
    exact Session.without_congr _ fun _ => (List.Perm.swap Level.debug .trace []).mem_iff
  · rw [hrun true true, hrun false true]
    rfl

/-- What `--trace` adds to the log of an instruction that succeeds and a return with nothing to
return to. -/
example :
    let o : Options :=
      { rom := "rom", cycles := 2, keepGoing := false, background := none, foreground := none,
        frameOut := none, dumpState := false, debug := false, trace := true }
    (Session.start o (.ok [0x60, 0x05, 0x00, 0xEE])).output.filter (Item.isLogged [.debug, .trace]) =
      [.event (.decoded 0x200 0x6005 (.ldByte 0 5)), .event (.decoded 0x202 0x00EE .ret),
        .event (.shown {
          registers := Registers.zero.set 0 5, index := 0, pc := 0x204, stack := CallStack.empty,
          timers := Timers.zero })] := by
  decide +kernel

end Chip8.Runner
