import Chip8.Machine.Operation
import Chip8.Machine.Setup
import Chip8.Proofs.Machine.Course

/-! # The range of the program counter

The program counter of a machine that was set up and then run stays at most two words behind the
last address at which a word can be fetched. The bound has to be kept together with one on the call
stack, since a return puts a slot into the program counter.

* `IsReturn`: an address just behind a word that can be fetched; `CallStack.Plausible`: every slot,
  taken or not, holds such an address or was never taken.
* `InRange`: the bound on both; `inRange_of_build`, `inRange_after`, `inRange_afterAll`. -/

namespace Chip8

/-- The address behind a word that can be fetched. -/
def IsReturn (a : UInt16) : Prop := 2 ≤ a.toNat ∧ a.toNat ≤ 0x1000

namespace CallStack

def Plausible (s : CallStack) : Prop :=
  ∀ k (_ : k < 16), s.slots[k] = 0 ∨ IsReturn s.slots[k]

theorem plausible_empty : empty.Plausible := by
  intro k hk
  left
  simp [empty]

theorem Plausible.push? {s t : CallStack} {a : UInt16} (hs : s.Plausible) (ha : IsReturn a)
    (h : s.push? a = some t) : t.Plausible := by
  intro k hk
  rw [(of_push? h).2.2 k hk]
  split
  · exact .inr ha
  · exact hs k hk

theorem Plausible.pop? {s t : CallStack} {a : UInt16} (hs : s.Plausible)
    (h : s.pop? = some (a, t)) : t.Plausible ∧ a.toNat ≤ 0x1000 := by
  obtain ⟨hslots, -, hd, rfl⟩ := of_pop? h
  constructor
  · intro k hk
    rw [hslots]
    exact hs k hk
  · rcases hs t.depth hd with h0 | ha
    · rw [h0]
      decide
    · exact ha.2

end CallStack

namespace Machine

structure InRange (m : Machine) : Prop where
  pc_le : m.pc.toNat ≤ 0x1002
  stack : m.stack.Plausible

variable {m m' : Machine}

theorem inRange_new : new.InRange where
  pc_le := by decide
  stack := CallStack.plausible_empty

theorem inRange_of_build {s : Setup} (h : s.build = .ok m) : m.InRange := by
  obtain ⟨memory, -, rfl⟩ := Setup.of_build h
  exact ⟨inRange_new.pc_le, inRange_new.stack⟩

/-! ## Ticks -/

theorem call_target_lt {target : UInt16} (h : m.Fetches (.call target)) :
    target.toNat < 0x1000 :=
  (Instruction.decode_eq_ok_iff.1 h.2).1

theorem isReturn_advance_pc (h : m.pc.toNat ≤ 0xFFE) : IsReturn m.advance.pc := by
  have := toNat_advance_pc h
  unfold IsReturn
  omega

theorem inRange_advance (hpc : m.pc.toNat ≤ 0xFFE) (hm : m.InRange) : m.advance.InRange := by
  have := toNat_advance_pc hpc
  exact ⟨by omega, hm.stack⟩

theorem Course.inRange {f : Option Fault} (h : Course m m' f) (hm : m.InRange) : m'.InRange := by
  cases h with
  | stuck hpc => exact hm
  | refused hpc _ => exact inRange_advance hpc hm
  | passed hi _ r => exact ⟨(inRange_advance hi.1 hm).pc_le, hm.stack⟩
  | cleared hi => exact ⟨(inRange_advance hi.1 hm).pc_le, hm.stack⟩
  | skipped hi _ =>
    have hpc := hi.1
    have := toNat_advance_advance_pc hpc
    exact ⟨by omega, hm.stack⟩
  | jumped hi ht => exact ⟨by dsimp only; omega, hm.stack⟩
  | called hi hs =>
    have := call_target_lt hi
    exact ⟨by dsimp only; omega, hm.stack.push? (isReturn_advance_pc hi.1) hs⟩
  | returned hi hs =>
    obtain ⟨hp, ha⟩ := hm.stack.pop? hs
    exact ⟨by dsimp only; omega, hp⟩

/-! ## Runs -/

theorem inRange_after (hm : m.InRange) (op : Operation) : (m.after op).InRange := by
  cases op with
  | tick => exact (course_tick m).inRange hm
  | timers c | memory c | display c => exact ⟨hm.pc_le, hm.stack⟩

theorem inRange_afterAll (hm : m.InRange) (ops : List Operation) : (m.afterAll ops).InRange := by
  induction ops generalizing m with
  | nil => exact hm
  | cons op ops ih => exact ih (inRange_after hm op)

end Machine

end Chip8
