import Chip8.Proofs.Machine.Message
import Chip8.Proofs.Runner.Files

/-! # Larger budgets

A session with more cycles to spend begins like one with fewer: what the machine logs goes on where
the log of the smaller one ends. If the run of the smaller one ended early there is nothing to go on
with, and if no tick fails it does not matter whether a run is to keep going.

* `Options.within`: the options with another budget; `extent_within_le`: more cycles are no fewer
  ticks. `extent_within_eq`, `extent_within_of_quiet`: the two cases in which their number is known.
* `Session.log`: what the machine logs, as far as it is shown; `log_upTo`, `log_close`: that is
  what it reports in its ticks, and writing the frame adds nothing.
* `Session.haltAfter_of_mem_output`: a session that says that its run ended early is right.
  `Session.upTo_within`, `Session.upTo_within_of_quiet`: what a session has of its budget otherwise.
* `larger_budget`: the statement above. -/

namespace Chip8.Runner

/-! ## Ticks -/

namespace Options

def within (o : Options) (keepGoing : Bool) (cycles : UInt64) : Options :=
  { o with keepGoing, cycles }

variable (o : Options) {m : Machine} (keepGoing : Bool) {cycles cycles' : UInt64}

theorem stops_within (m : Machine) (cycles : UInt64) :
    m.Stops keepGoing cycles.toNat ((o.within keepGoing cycles).extent m) :=
  stops_extent (o.within keepGoing cycles) m

theorem extent_within_le (m : Machine) (h : cycles ≤ cycles') :
    (o.within keepGoing cycles).extent m ≤ (o.within keepGoing cycles').extent m :=
  (Machine.ticks_isPrefix keepGoing (UInt64.le_iff_toNat_le.1 h) m).length_le

theorem extent_within_eq {f : Fault} (h : cycles ≤ cycles')
    (hf : m.haltAfter keepGoing ((o.within keepGoing cycles).extent m) = some f) :
    (o.within keepGoing cycles').extent m = (o.within keepGoing cycles).extent m := by
  have hstops := o.stops_within keepGoing m cycles
  have hstops' := o.stops_within keepGoing m cycles'
  exact hstops'.unique (hstops.of_haltAfter hf (UInt64.le_iff_toNat_le.1 h))

theorem extent_within_of_quiet (h : ∀ i < cycles.toNat, m.result i = none) :
    (o.within keepGoing cycles).extent m = cycles.toNat :=
  (o.stops_within keepGoing m cycles).eq_budget (.inr h)

end Options

/-! ## Log -/

/-- A line that the machine logged. -/
def Item.record? : Item → Option Record
  | event e => some e.record
  | _ => none

namespace Session

def log (s : Session) : List Record := s.output.filterMap Item.record?

variable {World : Type} {fs : FileSystem World} {w : World} {o : Options} {data : List UInt8}
  {n : Nat}

theorem record?_of_mem_conclusion {m : Machine} {i : Item} (h : i ∈ Progress.conclusion o m n) :
    i.record? = none := by
  rcases Progress.mem_conclusion h with ⟨f, -, rfl⟩ | rfl | ⟨text, rfl⟩ <;> rfl

theorem log_upTo (o : Options) (data : List UInt8) (n : Nat) :
    (upTo o data n).log = (((o.machine data).reported n).filter o.shows).map Event.record := by
  have hevents : Item.record? ∘ Item.event = fun e => some e.record := rfl
  have hrest : (Progress.conclusion o (o.machine data) n).filterMap Item.record? = [] :=
    List.filterMap_eq_nil_iff.2 fun i => record?_of_mem_conclusion
  rw [log, upTo, List.filterMap_cons_none rfl, List.filterMap_append, hrest, List.append_nil,
    List.filterMap_map, hevents, List.filterMap_eq_map']

theorem log_close (fs : FileSystem World) (w : World) (s : Session) :
    (close fs w s).1.log = s.log := by
  obtain ⟨more, hclose, hmore⟩ := output_close fs w s
  have hnone : more.filterMap Item.record? = [] := by
    rw [List.filterMap_eq_nil_iff]
    intro i hi
    obtain ⟨path, rfl⟩ := hmore i hi
    rfl
  rw [log, hclose, List.filterMap_append, hnone, List.append_nil, log]

/-! ## Budgets -/

theorem haltAfter_of_mem_output {cycles : Nat} {f : Fault}
    (h : .notice (.halted cycles f) ∈ (close fs w (upTo o data n)).1.output) :
    (o.machine data).haltAfter o.keepGoing n = some f := by
  obtain ⟨more, hclose, hmore⟩ := output_close fs w (upTo o data n)
  rw [hclose, upTo, List.mem_append, List.mem_cons, List.mem_append, List.mem_map] at h
  -- of all that is printed, only the conclusion can say it
  rcases h with (hloaded | ⟨e, -, hevent⟩ | hconclusion) | hwritten
  · cases hloaded
  · cases hevent
  · rcases Progress.mem_conclusion hconclusion with ⟨g, hg, heq⟩ | heq | ⟨text, heq⟩
    · cases heq
      exact hg
    · cases heq
    · cases heq
  · obtain ⟨path, heq⟩ := hmore _ hwritten
    cases heq

theorem upTo_within (o : Options) (keepGoing : Bool) (cycles cycles' : UInt64) (data : List UInt8)
    (n : Nat) :
    upTo (o.within keepGoing cycles) data n = upTo (o.within keepGoing cycles') data n := rfl

theorem upTo_within_of_quiet {cycles : UInt64} (h : ∀ i < n, (o.machine data).result i = none) :
    upTo (o.within true cycles) data n = upTo (o.within false cycles) data n := by
  have hhalt : ∀ keepGoing, (o.machine data).haltAfter keepGoing n = none :=
    fun keepGoing => Machine.haltAfter_of_quiet (.inr h)
  have hconclusion : Progress.conclusion (o.within true cycles) (o.machine data) n =
      Progress.conclusion (o.within false cycles) (o.machine data) n := by
    rw [Progress.conclusion, Progress.conclusion, hhalt, hhalt]
    rfl
  unfold upTo
  have hmachine : ∀ keepGoing, (o.within keepGoing cycles).machine data = o.machine data :=
    fun _ => rfl
  rw [hmachine, hmachine, hconclusion]
  rfl

end Session

/-- **A larger budget only goes on** where a smaller one was spent. -/
theorem larger_budget {World : Type} (fs : FileSystem World) (w : World) (o : Options)
    {data : List UInt8} (hread : fs.read w o.rom = .ok data) (hlength : data.length ≤ 3584) :
    let run (keepGoing : Bool) (cycles : UInt64) : Session × World :=
      Session.perform fs w { o with keepGoing, cycles }
    (∀ keepGoing cycles cycles', cycles ≤ cycles' →
      (run keepGoing cycles).1.log <+: (run keepGoing cycles').1.log) ∧
    (∀ cycles cycles', cycles ≤ cycles' → ∀ n f,
      .notice (.halted n f) ∈ (run false cycles).1.output →
        run false cycles' = run false cycles) ∧
    ∃ m, Setup.build { rom := data, tracing := o.tracing } = .ok m ∧
      ∀ cycles : UInt64, (∀ i < cycles.toNat, m.result i = none) →
        run true cycles = run false cycles := by
  intro run
  have hrun : ∀ keepGoing cycles, run keepGoing cycles =
      Session.close fs w (Session.upTo (o.within keepGoing cycles) data
        ((o.within keepGoing cycles).extent (o.machine data))) :=
    fun keepGoing cycles => Session.perform_of_le hread hlength
  refine ⟨fun keepGoing cycles cycles' h => ?_, fun cycles cycles' h n f hmem => ?_,
    o.machine data, Setup.build_of_le hlength, fun cycles hquiet => ?_⟩
  · have hreported := Machine.reported_isPrefix (o.machine data)
      (o.extent_within_le keepGoing (o.machine data) h)
    rw [hrun, hrun, Session.log_close, Session.log_close, Session.log_upTo, Session.log_upTo]
    exact (hreported.filter _).map _
  · rw [hrun] at hmem
    have hhalt : (o.machine data).haltAfter false
        ((o.within false cycles).extent (o.machine data)) = some f :=
      Session.haltAfter_of_mem_output hmem
    rw [hrun, hrun, o.extent_within_eq false h hhalt, Session.upTo_within]
  · rw [hrun, hrun, o.extent_within_of_quiet true hquiet, o.extent_within_of_quiet false hquiet,
      Session.upTo_within_of_quiet hquiet]

/-- A return with nothing to return to ends the run in its second cycle, so three more cycles are
not spent. In the first cycle nothing fails. -/
theorem return_leaves_cycles_unspent :
    ∃ (fs : FileSystem Unit) (o : Options) (m : Machine),
      fs.read () o.rom = .ok [0x60, 0x05, 0x00, 0xEE] ∧ [0x60, 0x05, 0x00, 0xEE].length ≤ 3584 ∧
      Setup.build { rom := [0x60, 0x05, 0x00, 0xEE], tracing := o.tracing } = .ok m ∧
      let run (keepGoing : Bool) (cycles : UInt64) : Session × Unit :=
        Session.perform fs () { o with keepGoing, cycles }
      (run true 1).1.log <+: (run true 5).1.log ∧
      .notice (.halted 2 (.stackUnderflow 0x202)) ∈ (run false 2).1.output ∧
      run false 5 = run false 2 ∧ (∀ i < (1 : UInt64).toNat, m.result i = none) ∧
      run true 1 = run false 1 := by
  let fs : FileSystem Unit :=
    { read := fun _ _ => .ok [0x60, 0x05, 0x00, 0xEE], write := fun _ _ _ => ((), .ok ()) }
  let o : Options :=
    { rom := "rom.ch8", cycles := 5, keepGoing := false, background := none, foreground := none,
      frameOut := none, dumpState := false, debug := true, trace := false }
  have hlength : [0x60, 0x05, 0x00, 0xEE].length ≤ 3584 := by decide
  have hhalted : Item.notice (.halted 2 (.stackUnderflow 0x202)) ∈
      (Session.perform fs () { o with keepGoing := false, cycles := 2 }).1.output := by
    decide +kernel
  obtain ⟨hlog, hearly, m, hbuild, hquiet⟩ := larger_budget fs () o rfl hlength
  have hfirst : ∀ i < (1 : UInt64).toNat, m.result i = none := by
    rw [(Setup.eq_machine_of_build hbuild).2]
    decide +kernel
  exact ⟨fs, o, m, rfl, hlength, hbuild, hlog true 1 5 (by decide), hhalted,
    hearly 2 5 (by decide) 2 _ hhalted, hfirst, hquiet 1 hfirst⟩

end Chip8.Runner
