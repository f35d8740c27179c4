import Chip8.Proofs.Machine.Report
import Chip8.Proofs.Run.Extent

/-! # Runs with and without tracing

Whether a machine traces decides whether its instructions are reported, and nothing else, however
long it runs.

* `filter_events_withTracing`: a tick reports the same but for the instruction.
* `afterTicks_withTracing`, `result_withTracing`, `failures_withTracing`, `haltAfter_withTracing`,
  `length_ticks_withTracing`, `filter_reported_withTracing`: so it is for a run. -/

namespace Chip8.Machine

variable (on : Bool) (m : Machine)

theorem execute_withTracing (inst : Instruction) :
    (m.withTracing on).execute inst = (m.execute inst).map (withTracing on) :=
  execute_mapIdle (fun i => { i with tracing := on }) m inst

theorem filter_events_withTracing {p : Event → Bool}
    (hp : ∀ pc w inst, p (.decoded pc w inst) = false) :
    (m.withTracing on).tick.events.filter p = m.tick.events.filter p := by
  have hearlier : ∀ (traces : Bool) (pc w : UInt16) (inst : Instruction),
      (if traces then [Event.decoded pc w inst] else []).filter p = [] := by
    intro traces pc w inst
    cases traces with
    | false => rfl
    | true => exact List.filter_cons_of_neg (by simp [hp])
  obtain ⟨hmachine, hfault⟩ := tick_withTracing on m
  by_cases hi : ∃ inst, m.Fetches inst
  · obtain ⟨inst, hi⟩ := hi
    have hi' : (m.withTracing on).Fetches inst := hi
    have hadvance : (m.withTracing on).advance = m.advance.withTracing on := rfl
    rw [tick_of_fetches hi', tick_of_fetches hi, hadvance, execute_withTracing]
    cases m.advance.execute inst with
    | error f => simp only [Except.map, Tick.failed, List.filter_append, hearlier]; rfl
    | ok m' => simp only [Except.map, Tick.succeeded, hearlier]
  · obtain ⟨f, m', -, ht⟩ := tick_of_not_fetches (not_exists.1 hi)
    obtain ⟨f', m'', -, ht'⟩ := tick_of_not_fetches (m := m.withTracing on) (not_exists.1 hi)
    rw [ht, ht'] at hmachine hfault
    obtain rfl : m'' = m'.withTracing on := hmachine
    obtain rfl : f' = f := Option.some.inj hfault
    rw [ht, ht']
    rfl

/-! ## Runs -/

theorem afterTicks_withTracing (n : Nat) :
    (m.withTracing on).afterTicks n = (m.afterTicks n).withTracing on := by
  induction n with
  | zero => rfl
  | succ n ih => rw [afterTicks_succ, afterTicks_succ, ih, (tick_withTracing on _).1]

theorem result_withTracing (n : Nat) : (m.withTracing on).result n = m.result n := by
  rw [result, afterTicks_withTracing, (tick_withTracing on _).2, result]

theorem failures_withTracing (n : Nat) : (m.withTracing on).failures n = m.failures n := by
  unfold failures
  simp only [result_withTracing]

theorem haltAfter_withTracing (keepGoing : Bool) (n : Nat) :
    (m.withTracing on).haltAfter keepGoing n = m.haltAfter keepGoing n := by
  cases n with
  | zero => rfl
  | succ n =>
    have hends : ((m.withTracing on).afterTicks n).tick.ends keepGoing =
        (m.afterTicks n).tick.ends keepGoing := by
      rw [Tick.ends, afterTicks_withTracing, (tick_withTracing on _).2, Tick.ends]
    rw [haltAfter, hends, result_withTracing, haltAfter]

theorem length_ticks_withTracing (keepGoing : Bool) (n : Nat) :
    (ticks keepGoing n (m.withTracing on)).length = (ticks keepGoing n m).length := by
  induction n generalizing m with
  | zero => rfl
  | succ n ih =>
    obtain ⟨hmachine, hfault⟩ := tick_withTracing on m
    have hends : (m.withTracing on).tick.ends keepGoing = m.tick.ends keepGoing := by
      rw [Tick.ends, hfault, Tick.ends]
    rw [ticks, ticks, hends, hmachine, List.length_cons, List.length_cons,
      apply_ite List.length, apply_ite List.length, ih]

theorem filter_reported_withTracing {p : Event → Bool}
    (hp : ∀ pc w inst, p (.decoded pc w inst) = false) (n : Nat) :
    ((m.withTracing on).reported n).filter p = (m.reported n).filter p := by
  rw [reported, reported, List.filter_flatMap, List.filter_flatMap]
  simp only [afterTicks_withTracing, filter_events_withTracing on _ hp]

end Chip8.Machine
