import Chip8.Machine.Operation

/-! # Ticks among other operations

Between two ticks a host may do other things to a machine. What becomes of the ticks is read off the
machines that were about to tick.

* `upTo k`: the machine after the first `k` operations of a row; `upTo_succ`.
* `atTicks`: the machine before each tick of a row of operations, in order; `faults`: what each of
  the ticks came to. `exists_of_mem_atTicks`: these are machines along the row.
* `afterAll_filter`, `atTicks_filter`: a row from a machine in which something was replaced, without
  the operations that are about nothing else.
* `exists_of_infix_faults`: ticks that follow each other somewhere in a row are the first ticks of
  another row, from a machine further on. -/

namespace Chip8.Machine

/-- The machine after the first `k` operations. -/
def upTo (m : Machine) (ops : List Operation) (k : Nat) : Machine :=
  m.afterAll (ops.take k)

/-- The machine before each tick, in order. -/
def atTicks (m : Machine) : List Operation → List Machine
  | [] => []
  | .tick :: ops => m :: m.tick.machine.atTicks ops
  | op :: ops => (m.after op).atTicks ops

/-- What each tick came to, in order. -/
def faults (m : Machine) (ops : List Operation) : List (Option Fault) :=
  (m.atTicks ops).map fun s => s.tick.fault

variable {m s : Machine} {ops : List Operation}

theorem faults_tick (m : Machine) (ops : List Operation) :
    m.faults (.tick :: ops) = m.tick.fault :: m.tick.machine.faults ops := rfl

theorem length_faults_replicate (m : Machine) (n : Nat) :
    (m.faults (List.replicate n .tick)).length = n := by
  induction n generalizing m with
  | zero => rfl
  | succ n ih => exact congrArg Nat.succ (ih m.tick.machine)

theorem upTo_succ {op : Operation} {k : Nat} (h : ops[k]? = some op) :
    m.upTo ops (k + 1) = (m.upTo ops k).after op := by
  simp [upTo, afterAll, List.take_add_one, h]

theorem exists_of_mem_atTicks (h : s ∈ m.atTicks ops) :
    ∃ before, before ++ [.tick] <+: ops ∧ s = m.afterAll before := by
  induction ops generalizing m with
  | nil => cases h
  | cons op ops ih =>
    have hlater : s ∈ (m.after op).atTicks ops →
        ∃ before, before ++ [.tick] <+: op :: ops ∧ s = m.afterAll before := by
      intro hs
      obtain ⟨before, hpre, rfl⟩ := ih hs
      exact ⟨op :: before, List.cons_prefix_cons.2 ⟨rfl, hpre⟩, rfl⟩
    cases op with
    | tick =>
      rcases List.mem_cons.1 h with rfl | hs
      · exact ⟨[], ⟨ops, rfl⟩, rfl⟩
      · exact hlater hs
    | timers c | memory c | display c => exact hlater h

theorem exists_of_mem_faults {r : Option Fault} (h : r ∈ m.faults ops) :
    ∃ before, before ++ [.tick] <+: ops ∧ r = (m.afterAll before).tick.fault := by
  obtain ⟨s, hs, rfl⟩ := List.mem_map.1 h
  obtain ⟨before, hpre, rfl⟩ := exists_of_mem_atTicks hs
  exact ⟨before, hpre, rfl⟩

section

variable {g : Machine → Machine} {keep : Operation → Bool}
  (hkeep : ∀ m op, keep op = true → (g m).after op = g (m.after op))
  (hdrop : ∀ m op, keep op = false → g (m.after op) = g m)

include hkeep hdrop

theorem afterAll_filter (m : Machine) (ops : List Operation) :
    (g m).afterAll (ops.filter keep) = g (m.afterAll ops) := by
  induction ops generalizing m with
  | nil => rfl
  | cons op ops ih =>
    have hrest : (g (m.after op)).afterAll (ops.filter keep) = g (m.afterAll (op :: ops)) :=
      ih (m.after op)
    cases hk : keep op with
    | true => rwa [List.filter_cons_of_pos hk, afterAll, List.foldl_cons, hkeep m op hk]
    | false => rwa [List.filter_cons_of_neg (by simp [hk]), ← hdrop m op hk]

theorem atTicks_filter (htick : keep .tick = true) (m : Machine) (ops : List Operation) :
    (g m).atTicks (ops.filter keep) = (m.atTicks ops).map g := by
  induction ops generalizing m with
  | nil => rfl
  | cons op ops ih =>
    have hrest := ih (m.after op)
    cases hk : keep op with
    | true =>
      rw [← hkeep m op hk] at hrest
      rw [List.filter_cons_of_pos hk]
      cases op with
      | tick => exact congrArg (g m :: ·) hrest
      | timers c | memory c | display c => exact hrest
    | false =>
      rw [hdrop m op hk] at hrest
      rw [List.filter_cons_of_neg (by simp [hk])]
      cases op with
      | tick => cases htick.symm.trans hk
      | timers c | memory c | display c => exact hrest

end

theorem exists_of_infix_faults {l : List (Option Fault)} (h : l <:+: m.faults ops) :
    ∃ s later, l <+: faults s later := by
  induction ops generalizing m with
  | nil =>
    rw [List.infix_nil.1 h]
    exact ⟨m, [], List.nil_prefix⟩
  | cons op ops ih =>
    cases op with
    | tick =>
      rcases List.infix_cons_iff.1 h with hpre | hlater
      · exact ⟨m, .tick :: ops, hpre⟩
      · exact ih hlater
    | timers c | memory c | display c => exact ih h

end Chip8.Machine
