/-! # What happened last

A value that some steps of a run set, and that all others keep, is what the latest of these steps
has set it to.

* `Latest`: the latest step before a given one at which something happens; `Latest.unique`.
* `latest_or_never`: the statement above, for a value that was never set as well. -/

namespace Chip8

/-- Of the steps before `n`, step `k` is the latest at which `P` happens. -/
structure Latest (P : Nat → Prop) (n k : Nat) : Prop where
  lt : k < n
  holds : P k
  latest : ∀ j, k < j → j < n → ¬P j

variable {P : Nat → Prop} {n k k' : Nat}

theorem Latest.unique (h : Latest P n k) (h' : Latest P n k') : k = k' := by
  rcases Nat.lt_trichotomy k k' with hlt | heq | hgt
  · exact absurd h'.holds (h.latest k' hlt h'.lt)
  · exact heq
  · exact absurd h.holds (h'.latest k hgt h.lt)

theorem latest_self (hn : P n) : Latest P (n + 1) n where
  lt := Nat.lt_succ_self n
  holds := hn
  latest j hnj hj := by omega

theorem Latest.succ (h : Latest P n k) (hn : ¬P n) : Latest P (n + 1) k where
  lt := Nat.lt_succ_of_lt h.lt
  holds := h.holds
  latest j hkj hj := by
    rcases Nat.lt_succ_iff_lt_or_eq.1 hj with hj | rfl
    · exact h.latest j hkj hj
    · exact hn

/-- `Sets k v`: step `k` sets the value to `v`, if it sets it at all. -/
theorem latest_or_never {α : Type} (value : Nat → α) (Sets : Nat → α → Prop)
    (hset : ∀ i < n, P i → Sets i (value (i + 1)))
    (hkeep : ∀ i < n, ¬P i → value (i + 1) = value i) :
    (∃ k, Latest P n k ∧ Sets k (value n)) ∨ (∀ k < n, ¬P k) ∧ value n = value 0 := by
  induction n with
  | zero => exact .inr ⟨nofun, rfl⟩
  | succ n ih =>
    have hrest := ih (fun i hi => hset i (Nat.lt_succ_of_lt hi))
      fun i hi => hkeep i (Nat.lt_succ_of_lt hi)
    -- the last step is the latest to set the value, or the latest one is among the others
    by_cases hn : P n
    · exact .inl ⟨n, latest_self hn, hset n (Nat.lt_succ_self n) hn⟩
    · rw [hkeep n (Nat.lt_succ_self n) hn]
      rcases hrest with ⟨k, hk, hv⟩ | ⟨hnever, hv⟩
      · exact .inl ⟨k, hk.succ hn, hv⟩
      · refine .inr ⟨fun k hlt => ?_, hv⟩
        rcases Nat.lt_succ_iff_lt_or_eq.1 hlt with hlt | rfl
        · exact hnever k hlt
        · exact hn

end Chip8
