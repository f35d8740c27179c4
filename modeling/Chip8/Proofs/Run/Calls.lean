import Chip8.Machine.Setup
import Chip8.Proofs.Machine.Course
import Chip8.Proofs.Run.Operations

/-! # Calls and their returns

A subroutine that was called when `d` slots were taken is left only by the return that goes back
behind the call. Until then more than `d` slots are taken, and nothing writes to the lowest `d + 1`.

* `CallStack.AgreeTo`: two stacks with the same addresses in the slots up to one.
* `Machine.Inside`: the machine has not left the subroutine yet; `Machine.Leaves`: the operation
  leaves it. `inside_or_leaves`: every operation does one or the other.
* `inside_upTo`: the machine has not left the subroutine as long as its depth was not back at `d`.
* `call_returns`: the statement above, along any row of operations. -/

namespace Chip8

namespace CallStack

/-- The same addresses in the slots up to `d`, taken or not. -/
def AgreeTo (d : Nat) (s t : CallStack) : Prop :=
  ∀ k (_ : k < 16), k ≤ d → s.slots[k] = t.slots[k]

variable {d : Nat} {s t u : CallStack} {a : UInt16}

theorem AgreeTo.trans (h : AgreeTo d s t) (h' : AgreeTo d t u) : AgreeTo d s u :=
  fun k hk hd => (h k hk hd).trans (h' k hk hd)

theorem agreeTo_of_push? (h : s.push? a = some t) (hd : d < s.depth) : AgreeTo d t s := by
  intro k hk hle
  rw [(of_push? h).2.2 k hk, if_neg (by omega)]

theorem agreeTo_of_pop? (h : s.pop? = some (a, t)) : AgreeTo d t s := by
  intro k hk _
  simp only [(of_pop? h).1]

end CallStack

namespace Machine

/-- More than `d` slots are taken, and those up to `d` hold what they hold in `base`. -/
structure Inside (d : Nat) (base : CallStack) (m : Machine) : Prop where
  depth : d + 1 ≤ m.stack.depth
  slots : CallStack.AgreeTo d m.stack base

/-- The operation is the return that gives up the slot `d`. -/
structure Leaves (d : Nat) (base : CallStack) (m : Machine) (op : Operation) : Prop where
  tick : op = .tick
  ret : m.Executes .ret
  depth : (m.after op).stack.depth = d
  slots : CallStack.AgreeTo d (m.after op).stack base
  pc : ∃ _ : d < 16, (m.after op).pc = base.slots[d]

variable {d : Nat} {base : CallStack} {m : Machine}

/-! ## One operation -/

theorem inside_or_leaves_tick (h : m.Inside d base) :
    m.tick.machine.Inside d base ∨ m.Leaves d base .tick := by
  have hc := course_tick m
  generalize hm' : m.tick.machine = m' at hc
  generalize hf : m.tick.fault = f at hc
  cases hc with
  | stuck => exact .inl h
  | refused | passed | cleared | skipped | jumped => exact .inl ⟨h.depth, h.slots⟩
  | called _ hs =>
    obtain ⟨-, hd, -⟩ := CallStack.of_push? hs
    have hlt := h.depth
    refine .inl ⟨?_, (CallStack.agreeTo_of_push? hs hlt).trans h.slots⟩
    dsimp only
    omega
  | @returned a stack hi hs =>
    obtain ⟨-, hd, hlt, ha⟩ := CallStack.of_pop? hs
    have hagree : CallStack.AgreeTo d stack base :=
      (CallStack.agreeTo_of_pop? hs).trans h.slots
    have hle := h.depth
    -- the slot given up is one of a call from within, or it is `d`
    rcases Nat.lt_or_eq_of_le (show d ≤ stack.depth by omega) with hlt' | rfl
    · exact .inl ⟨hlt', hagree⟩
    · refine .inr ⟨rfl, ⟨hi, hf⟩, ?_, ?_, hlt, ?_⟩
      · simp only [after, hm']
      · simpa only [after, hm'] using hagree
      · simp only [after, hm', ha]
        exact h.slots _ hlt (Nat.le_refl _)

theorem inside_or_leaves (h : m.Inside d base) (op : Operation) :
    (m.after op).Inside d base ∨ m.Leaves d base op := by
  cases op with
  | tick => exact inside_or_leaves_tick h
  | timers c | memory c | display c => exact .inl ⟨h.depth, h.slots⟩

/-- The call itself takes the slot `d`, for the address behind it. -/
theorem inside_of_call {target : UInt16} (h : m.Executes (.call target)) :
    m.tick.machine.Inside m.stack.depth m.tick.machine.stack ∧
      m.tick.machine.stack.depth = m.stack.depth + 1 ∧
      ∃ _ : m.stack.depth < 16, m.tick.machine.stack.slots[m.stack.depth] = m.pc + 2 := by
  have he := execute_of_executes h
  simp only [execute] at he
  split at he
  next stack hs =>
    obtain ⟨hlt, hd, hslots⟩ := CallStack.of_push? hs
    have hslot := (hslots m.stack.depth hlt).trans (if_pos rfl)
    rw [← Except.ok.inj he]
    exact ⟨⟨Nat.le_of_eq hd.symm, fun _ _ _ => rfl⟩, hd, hlt, hslot⟩
  · cases he

/-! ## Rows of operations -/

variable {ops : List Operation} {i j k : Nat}

theorem inside_upTo (h : (m.upTo ops i).Inside d base) (hk : i ≤ k) (hlen : k ≤ ops.length)
    (hne : ∀ l, i < l → l ≤ k → (m.upTo ops l).stack.depth ≠ d) :
    (m.upTo ops k).Inside d base := by
  induction k, hk using Nat.le_induction with
  | base => exact h
  | succ k hk ih =>
    have hin := ih (by omega) fun l hl hle => hne l hl (by omega)
    have hop := List.getElem?_eq_getElem (l := ops) (i := k) (by omega)
    rw [upTo_succ hop]
    rcases inside_or_leaves hin ops[k] with hin' | hleave
    · exact hin'
    · have := hne (k + 1) (by omega) (Nat.le_refl _)
      rw [upTo_succ hop] at this
      exact absurd hleave.depth this

/-- **A call is left by the return behind it.** -/
theorem call_returns {p target : UInt16} (hij : i < j) (hj : j ≤ ops.length)
    (hp : (m.upTo ops i).pc = p) (hd : (m.upTo ops i).stack.depth = d)
    (htick : ops[i]? = some .tick) (hcall : (m.upTo ops i).Executes (.call target))
    (hback : (m.upTo ops j).stack.depth = d)
    (hfirst : ∀ k, i < k → k < j → (m.upTo ops k).stack.depth ≠ d) :
    ops[j - 1]? = some .tick ∧ (m.upTo ops (j - 1)).Executes .ret ∧
      (m.upTo ops j).pc = p + 2 ∧ (p + 2).toNat = p.toNat + 2 ∧
      (∀ k, i < k → k < j → d + 1 ≤ (m.upTo ops k).stack.depth) ∧
      (∀ k, i < k → k ≤ j →
        CallStack.AgreeTo d (m.upTo ops k).stack (m.upTo ops (i + 1)).stack) ∧
      ∃ _ : d < 16, (m.upTo ops j).stack.slots[d] = p + 2 := by
  obtain ⟨hin, hdepth, hlt, hslot⟩ := inside_of_call hcall
  have hnext : m.upTo ops (i + 1) = (m.upTo ops i).tick.machine := upTo_succ htick
  rw [← hnext] at hin hdepth
  simp only [← hnext, hd, hp] at hin hdepth hlt hslot
  have hinside : ∀ k, i < k → k < j → (m.upTo ops k).Inside d (m.upTo ops (i + 1)).stack :=
    fun k hk hkj => inside_upTo hin hk (by omega) fun l hl hle => hfirst l (by omega) (by omega)
  -- the state behind the call is not the one that is back, so an operation lies between the two
  have hne : j ≠ i + 1 := by
    rintro rfl
    omega
  have hlast : i < j - 1 := by omega
  have hop := List.getElem?_eq_getElem (l := ops) (i := j - 1) (by omega)
  have hj' : m.upTo ops j = (m.upTo ops (j - 1)).after ops[j - 1] := by
    rw [← upTo_succ hop, Nat.sub_add_cancel (by omega)]
  rcases inside_or_leaves (hinside (j - 1) hlast (by omega)) ops[j - 1] with hstill | hleaves
  · rw [← hj'] at hstill
    have := hstill.depth
    omega
  · obtain ⟨ht, hret, -, hslots, hlt, hpc⟩ := hleaves
    rw [← hj'] at hslots hpc
    have hagree : ∀ k, i < k → k ≤ j →
        CallStack.AgreeTo d (m.upTo ops k).stack (m.upTo ops (i + 1)).stack := by
      intro k hk hkj
      rcases Nat.lt_or_eq_of_le hkj with h | rfl
      · exact (hinside k hk h).slots
      · exact hslots
    have hnowrap := toNat_advance_pc hcall.1.1
    refine ⟨hop.trans (congrArg some ht), hret, hpc.trans hslot, ?_, ?_, hagree, hlt, ?_⟩
    · simpa only [advance, hp] using hnowrap
    · exact fun k hk hkj => (hinside k hk hkj).depth
    · exact (hslots d hlt (Nat.le_refl d)).trans hslot

/-- A call from within the subroutine, and a write to the word behind the first call. -/
theorem nested_call_returns :
    ∃ (m : Machine) (ops : List Operation),
      Setup.build { rom := [0x22, 0x04, 0, 0, 0x22, 0x08, 0x00, 0xEE, 0x00, 0xEE] } = .ok m ∧
      ops = [.tick, .tick, .memory (.write8 0x202 0xFF), .tick, .tick] ∧
      (m.upTo ops 0).Executes (.call 0x204) ∧ (m.upTo ops 4).Executes .ret ∧
      (m.upTo ops 5).pc = 0x202 := by
  have hrun : ∃ (m : Machine) (ops : List Operation),
      Setup.build { rom := [0x22, 0x04, 0, 0, 0x22, 0x08, 0x00, 0xEE, 0x00, 0xEE] } = .ok m ∧
      ops = [.tick, .tick, .memory (.write8 0x202 0xFF), .tick, .tick] ∧
      (m.upTo ops 0).pc = 0x200 ∧ (m.upTo ops 0).stack.depth = 0 ∧
      (m.upTo ops 0).Executes (.call 0x204) ∧ (m.upTo ops 5).stack.depth = 0 ∧
      ∀ k < 5, 0 < k → (m.upTo ops k).stack.depth ≠ 0 := by
    refine ⟨_, _, rfl, rfl, rfl, rfl, ⟨⟨?_, ?_⟩, ?_⟩, ?_, ?_⟩ <;> decide +kernel
  obtain ⟨m, ops, hb, rfl, hp, hd, hcall, hback, hfirst⟩ := hrun
  obtain ⟨-, hret, hpc, -⟩ := call_returns (i := 0) (j := 5) (by decide) (by decide) hp hd rfl hcall
    hback fun k h0 h5 => hfirst k h5 h0
  exact ⟨m, _, hb, rfl, hcall, hret, hpc⟩

end Machine

end Chip8
