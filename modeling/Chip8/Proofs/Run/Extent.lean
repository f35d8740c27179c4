import Chip8.Proofs.Run.Ticks

/-! # How far a run goes

A run of at most `budget` ticks takes all of them, unless it is not to keep going and a tick fails;
then this tick is its last.

* `result`: what a tick along the run comes to; `failures`, `reported`: how many of the first ticks
  fail, and what they report. `haltAfter`: the fault that ends the run early.
* `Stops`: after how many ticks a run stops; `stops_ticks`: every run stops that way.
  `Stops.eq_succ`, `Stops.eq_budget`, `Stops.unique`: so where it stops is known from what its ticks
  come to.
* `ticks_isPrefix`, `reported_isPrefix`: a longer run begins like a shorter one. `Stops.of_haltAfter`:
  it is no longer if the shorter one ends early. -/

namespace Chip8.Machine

/-- What the tick after the first `i` comes to. -/
def result (m : Machine) (i : Nat) : Option Fault := (m.afterTicks i).tick.fault

/-- How many of the first `n` ticks fail. -/
def failures (m : Machine) (n : Nat) : Nat :=
  (List.range n).countP fun i => (m.result i).isSome

/-- What the first `n` ticks report. -/
def reported (m : Machine) (n : Nat) : List Event :=
  (List.range n).flatMap fun i => (m.afterTicks i).tick.events

/-- The fault that ends a run after its first `n` ticks, if it ends there early. -/
def haltAfter (m : Machine) (keepGoing : Bool) : Nat → Option Fault
  | 0 => none
  | n + 1 => if (m.afterTicks n).tick.ends keepGoing then m.result n else none

variable {m : Machine} {keepGoing : Bool} {budget n : Nat}

theorem failures_succ (m : Machine) (n : Nat) :
    m.failures (n + 1) = m.failures n + if (m.result n).isSome then 1 else 0 := by
  rw [failures, List.range_succ, List.countP_append, List.countP_singleton, failures]

theorem failures_le (m : Machine) (n : Nat) : m.failures n ≤ n := by
  have hle := (List.range n).countP_le_length (p := fun i => (m.result i).isSome)
  rwa [List.length_range] at hle

theorem failures_eq_zero (h : ∀ i < n, m.result i = none) : m.failures n = 0 := by
  rw [failures, List.countP_eq_zero]
  intro i hi
  rw [h i (List.mem_range.1 hi)]
  exact Bool.false_ne_true

theorem failures_eq_one {f : Fault} (hbefore : ∀ i < n, m.result i = none)
    (hf : m.result n = some f) : m.failures (n + 1) = 1 := by
  rw [failures_succ, failures_eq_zero hbefore, hf]
  rfl

theorem reported_succ (m : Machine) (n : Nat) :
    m.reported (n + 1) = m.reported n ++ (m.afterTicks n).tick.events := by
  rw [reported, List.range_succ, List.flatMap_append, List.flatMap_singleton, reported]

theorem reported_isPrefix (m : Machine) {n n' : Nat} (h : n ≤ n') :
    m.reported n <+: m.reported n' := by
  obtain ⟨k, rfl⟩ := Nat.exists_eq_add_of_le h
  clear h
  induction k with
  | zero => exact List.prefix_refl _
  | succ k ih =>
    have hsucc : m.reported (n + (k + 1)) = _ := m.reported_succ (n + k)
    rw [hsucc]
    exact ih.trans (List.prefix_append _ _)

theorem haltAfter_of_failed {f : Fault} (hf : m.result n = some f) :
    m.haltAfter false (n + 1) = some f := by
  have hends : (m.afterTicks n).tick.ends false = true := by
    have hsome : (m.afterTicks n).tick.fault.isSome = true := Option.isSome_of_eq_some hf
    rw [Tick.ends, hsome]
    rfl
  rw [haltAfter, if_pos hends, hf]

theorem haltAfter_of_quiet (h : keepGoing = true ∨ ∀ i < n, m.result i = none) :
    m.haltAfter keepGoing n = none := by
  cases n with
  | zero => rfl
  | succ n =>
    have hends : ¬(m.afterTicks n).tick.ends keepGoing = true := by
      unfold Tick.ends
      rcases h with hgo | hquiet
      · simp [hgo]
      · have hnone : (m.afterTicks n).tick.fault = none := hquiet n (Nat.lt_succ_self n)
        simp [hnone]
    rw [haltAfter, if_neg hends]

/-! ## Where a run stops -/

/-- A run of at most `budget` ticks takes `n` of them. -/
inductive Stops (m : Machine) (keepGoing : Bool) (budget : Nat) : Nat → Prop where
  | spent (h : keepGoing = true ∨ ∀ i < budget, m.result i = none) :
    Stops m keepGoing budget budget
  | failed {k : Nat} {f : Fault} (hgo : keepGoing = false) (hk : k < budget)
    (hbefore : ∀ i < k, m.result i = none) (hf : m.result k = some f) :
    Stops m keepGoing budget (k + 1)

theorem forall_lt_succ_of_tick {k : Nat} (h0 : m.result 0 = none)
    (h : ∀ i < k, m.tick.machine.result i = none) : ∀ i < k + 1, m.result i = none := by
  intro i hi
  cases i with
  | zero => exact h0
  | succ i => exact h i (by omega)

theorem Stops.of_tick (h : m.tick.machine.Stops keepGoing budget n)
    (h0 : keepGoing = true ∨ m.result 0 = none) : m.Stops keepGoing (budget + 1) (n + 1) := by
  cases h with
  | spent h =>
    refine .spent ?_
    rcases h0 with hgo | h0
    · exact .inl hgo
    · exact h.imp_right (forall_lt_succ_of_tick h0)
  | failed hgo hk hbefore hf =>
    have h0 : m.result 0 = none := h0.resolve_left (by simp [hgo])
    exact .failed hgo (by omega) (forall_lt_succ_of_tick h0 hbefore) hf

theorem stops_ticks (keepGoing : Bool) (budget : Nat) (m : Machine) :
    m.Stops keepGoing budget (ticks keepGoing budget m).length := by
  induction budget generalizing m with
  | zero => exact .spent (.inr fun i hi => absurd hi (Nat.not_lt_zero i))
  | succ budget ih =>
    rw [ticks, List.length_cons]
    by_cases he : m.tick.ends keepGoing = true
    · obtain ⟨hf, hgo⟩ : m.tick.fault.isSome = true ∧ keepGoing = false := by
        simpa [Tick.ends] using he
      obtain ⟨f, hf⟩ := Option.isSome_iff_exists.1 hf
      rw [if_pos he, List.length_nil]
      exact .failed hgo (Nat.zero_lt_succ budget) (fun i hi => absurd hi (Nat.not_lt_zero i)) hf
    · rw [if_neg he]
      refine (ih m.tick.machine).of_tick ?_
      have hnot : m.tick.fault.isSome = true → keepGoing = true := by
        simpa [Tick.ends] using he
      by_cases hf : m.tick.fault.isSome = true
      · exact .inl (hnot hf)
      · exact .inr (Option.not_isSome_iff_eq_none.1 hf)

/-- The first tick that fails is the last. -/
theorem Stops.eq_succ {k : Nat} {f : Fault} (h : m.Stops false budget n) (hk : k < budget)
    (hbefore : ∀ i < k, m.result i = none) (hf : m.result k = some f) : n = k + 1 := by
  cases h with
  | spent h =>
    have hnone := h.resolve_left Bool.false_ne_true k hk
    rw [hnone] at hf
    cases hf
  | @failed k' f' _ _ hbefore' hf' =>
    rcases Nat.lt_trichotomy k k' with hlt | rfl | hlt
    · rw [hbefore' k hlt] at hf
      cases hf
    · rfl
    · rw [hbefore k' hlt] at hf'
      cases hf'

/-- A longer run begins with the ticks of a shorter one. -/
theorem ticks_isPrefix (keepGoing : Bool) {budget budget' : Nat} (h : budget ≤ budget')
    (m : Machine) : ticks keepGoing budget m <+: ticks keepGoing budget' m := by
  induction budget generalizing budget' m with
  | zero => exact List.nil_prefix
  | succ budget ih =>
    cases budget' with
    | zero => exact absurd h (Nat.not_succ_le_zero budget)
    | succ budget' =>
      rw [ticks, ticks]
      refine List.cons_prefix_cons.2 ⟨rfl, ?_⟩
      by_cases he : m.tick.ends keepGoing = true
      · simp only [if_pos he, List.nil_prefix]
      · rw [if_neg he, if_neg he]
        exact ih (Nat.le_of_succ_le_succ h) m.tick.machine

theorem Stops.eq_budget (h : m.Stops keepGoing budget n)
    (hgo : keepGoing = true ∨ ∀ i < budget, m.result i = none) : n = budget := by
  cases h with
  | spent _ => rfl
  | failed hstop hk _ hf =>
    have hnone := hgo.resolve_left (by simp [hstop]) _ hk
    rw [hnone] at hf
    cases hf

theorem Stops.unique {n' : Nat} (h : m.Stops keepGoing budget n)
    (h' : m.Stops keepGoing budget n') : n = n' := by
  cases h with
  | spent hgo => exact (h'.eq_budget hgo).symm
  | failed hstop hk hbefore hf =>
    subst hstop
    exact (h'.eq_succ hk hbefore hf).symm

/-- A run that ends early ends there whatever it might have gone on to. -/
theorem Stops.of_haltAfter {budget' : Nat} {f : Fault} (h : m.Stops keepGoing budget n)
    (hf : m.haltAfter keepGoing n = some f) (hle : budget ≤ budget') :
    m.Stops keepGoing budget' n := by
  cases h with
  | spent hgo =>
    rw [haltAfter_of_quiet hgo] at hf
    cases hf
  | failed hstop hk hbefore hresult =>
    exact .failed hstop (Nat.lt_of_lt_of_le hk hle) hbefore hresult

end Chip8.Machine
