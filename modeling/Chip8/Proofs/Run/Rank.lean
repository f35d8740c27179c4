import Chip8.Proofs.Run.Ticks
import Mathlib.Data.Nat.Digits.Defs

/-! # The rank of a machine

A number that every tick raises unless it cannot fetch or jumps back. Its digits are, from the
highest on, the return addresses from the oldest on, the program counter, and the greatest digit for
each slot that is not taken.

* A call puts the address behind it where its own was and starts a new digit; a return takes the
  last address up as it is and frees the digit behind it; any other tick raises the program counter.
* `rank_lt`: the step; `rank_add_le`: a run; `rank_lt_rankBound`: no machine ranks higher.
* `exists_fetchFails_or_jumpsBack`: so one bound holds for the runs of all machines. -/

namespace Chip8.Machine

/-- One more than the greatest digit, which no address reaches. -/
def radix : Nat := 0x10001

/-- The digits from the lowest on. -/
def trail (m : Machine) : List Nat :=
  List.replicate (16 - m.stack.depth) 0x10000 ++
    m.pc.toNat :: (m.stack.occupied.map UInt16.toNat).reverse

def rank (m : Machine) : Nat := Nat.ofDigits radix m.trail

/-- One more than any rank: a digit for each slot and one for the program counter. -/
def rankBound : Nat := radix ^ 17

theorem length_trail (m : Machine) : m.trail.length = 17 := by
  have := m.stack.depth_le
  simp [trail, CallStack.length_occupied]
  omega

theorem lt_radix_of_mem_trail {m : Machine} {d : Nat} (h : d ∈ m.trail) : d < radix := by
  simp only [trail, List.mem_append, List.mem_replicate, List.mem_cons, List.mem_reverse,
    List.mem_map] at h
  unfold radix
  rcases h with ⟨-, rfl⟩ | rfl | ⟨a, -, rfl⟩
  · decide
  · have := m.pc.toNat_lt
    omega
  · have := a.toNat_lt
    omega

theorem rank_lt_rankBound (m : Machine) : m.rank < rankBound := by
  have h := Nat.ofDigits_lt_base_pow_length (b := radix) (by decide)
    (fun d hd => lt_radix_of_mem_trail (m := m) hd)
  rwa [length_trail] at h

/-- A number with a higher digit at one place and the same digits above it is higher. -/
theorem ofDigits_lt_ofDigits {b : Nat} {q q' p : List Nat} {x y : Nat}
    (hlen : q.length = q'.length) (hq : Nat.ofDigits b q < b ^ q.length) (hxy : x < y) :
    Nat.ofDigits b (q ++ x :: p) < Nat.ofDigits b (q' ++ y :: p) := by
  rw [Nat.ofDigits_append, Nat.ofDigits_append, Nat.ofDigits_cons, Nat.ofDigits_cons, ← hlen]
  calc Nat.ofDigits b q + b ^ q.length * (x + b * Nat.ofDigits b p)
      < b ^ q.length + b ^ q.length * (x + b * Nat.ofDigits b p) := Nat.add_lt_add_right hq _
    _ = b ^ q.length * (x + 1 + b * Nat.ofDigits b p) := by ring
    _ ≤ b ^ q.length * (y + b * Nat.ofDigits b p) := Nat.mul_le_mul_left _ (by omega)
    _ ≤ Nat.ofDigits b q' + b ^ q.length * (y + b * Nat.ofDigits b p) := Nat.le_add_left _ _

/-- The free slots alone. -/
theorem ofDigits_free_lt (k : Nat) :
    Nat.ofDigits radix (List.replicate k 0x10000) <
      radix ^ (List.replicate k 0x10000).length := by
  refine Nat.ofDigits_lt_base_pow_length (by decide) fun d hd => ?_
  rw [List.eq_of_mem_replicate hd]
  decide

/-! ## One tick -/

variable {m m' : Machine}

theorem rank_lt_of_pc (hs : m'.stack = m.stack) (hpc : m.pc.toNat < m'.pc.toNat) :
    m.rank < m'.rank := by
  unfold rank trail
  rw [hs]
  exact ofDigits_lt_ofDigits rfl (ofDigits_free_lt _) hpc

theorem rank_lt_of_next (hm : m.pc.toNat ≤ 0xFFE) (hs : m'.stack = m.stack)
    (hpc : m'.pc = m.advance.pc) : m.rank < m'.rank := by
  refine rank_lt_of_pc hs ?_
  rw [hpc, toNat_advance_pc hm]
  omega

theorem rank_lt_of_push? {target : UInt16} {stack : CallStack} (hpc : m.pc.toNat ≤ 0xFFE)
    (hs : m.stack.push? (m.pc + 2) = some stack) :
    m.rank < rank { m with pc := target, stack := stack } := by
  obtain ⟨hlt, hd, -⟩ := CallStack.of_push? hs
  have hpc2 : (m.pc + 2).toNat = m.pc.toNat + 2 := toNat_advance_pc hpc
  have htrail : trail { m with pc := target, stack := stack } =
      (List.replicate (16 - stack.depth) 0x10000 ++ [target.toNat]) ++
        (m.pc + 2).toNat :: (m.stack.occupied.map UInt16.toNat).reverse := by
    simp [trail, CallStack.occupied_of_push? hs]
  unfold rank
  rw [htrail]
  refine ofDigits_lt_ofDigits ?_ (ofDigits_free_lt _) (by omega)
  simp
  omega

theorem rank_lt_of_pop? {a : UInt16} {stack : CallStack} (hs : m.stack.pop? = some (a, stack)) :
    m.rank < rank { m with pc := a, stack := stack } := by
  obtain ⟨-, hd, hlt, -⟩ := CallStack.of_pop? hs
  have hpc := m.pc.toNat_lt
  have hfree : 16 - stack.depth = 16 - m.stack.depth + 1 := by omega
  have htrail : trail { m with pc := a, stack := stack } =
      List.replicate (16 - m.stack.depth) 0x10000 ++
        0x10000 :: (m.stack.occupied.map UInt16.toNat).reverse := by
    simp [trail, CallStack.occupied_of_pop? hs, hfree, List.replicate_succ']
  unfold rank
  rw [htrail]
  exact ofDigits_lt_ofDigits rfl (ofDigits_free_lt _) hpc

theorem Course.rank_lt {f : Option Fault} (h : Course m m' f)
    (hf : ∀ a, f ≠ some (.memoryOutOfBounds a))
    (hj : ∀ target, m.Fetches (.jp target) → f = none → m.pc.toNat < target.toNat) :
    m.rank < m'.rank := by
  cases h with
  | stuck hpc => exact absurd rfl (hf _)
  | refused hpc _ => exact rank_lt_of_next hpc rfl rfl
  | passed hi _ _ => exact rank_lt_of_next hi.1 rfl rfl
  | cleared hi => exact rank_lt_of_next hi.1 rfl rfl
  | skipped hi _ => exact rank_lt_of_pc rfl (by rw [toNat_advance_advance_pc hi.1]; omega)
  | jumped hi _ => exact rank_lt_of_pc rfl (hj _ hi rfl)
  | called hi hs => exact rank_lt_of_push? hi.1 hs
  | returned hi hs => exact rank_lt_of_pop? hs

theorem rank_lt (hf : ¬m.FetchFails) (hj : ¬m.JumpsBack) : m.rank < m.tick.machine.rank := by
  refine (course_tick m).rank_lt (fun a ha => hf ⟨a, ha⟩) fun target hi hn => ?_
  by_contra hle
  exact hj ⟨target, ⟨hi, hn⟩, Nat.le_of_not_lt hle⟩

/-! ## Runs -/

theorem rank_add_le {n : Nat} (h : ∀ k < n, ¬(m.afterTicks k).FetchFails ∧
    ¬(m.afterTicks k).JumpsBack) : m.rank + n ≤ (m.afterTicks n).rank := by
  induction n with
  | zero => exact Nat.le_refl _
  | succ n ih =>
    have hn := ih fun k hk => h k (Nat.lt_succ_of_lt hk)
    obtain ⟨hf, hj⟩ := h n (Nat.lt_succ_self n)
    have hlt := rank_lt hf hj
    rw [afterTicks_succ]
    omega

theorem exists_fetchFails_or_jumpsBack (m : Machine) :
    ∃ n < rankBound, (m.afterTicks n).FetchFails ∨ (m.afterTicks n).JumpsBack := by
  by_contra h
  have hk : ∀ k < rankBound, ¬(m.afterTicks k).FetchFails ∧ ¬(m.afterTicks k).JumpsBack := by
    intro k hk
    exact not_or.1 fun hor => h ⟨k, hk, hor⟩
  have hle := rank_add_le hk
  have hlt := rank_lt_rankBound (m.afterTicks rankBound)
  omega

end Chip8.Machine
