import Chip8.Machine.Setup
import Chip8.Proofs.Run.Ticks
import Mathlib.Data.Set.Defs

/-! # The flow of control

Where a tick can go, as far as memory alone tells. A return can go anywhere in that sense, so what
bounds a run is a set that holds the program counter and every return address in a taken slot.

* `Memory.successors`: the address behind the word, the one behind the next, the target of a jump
  or a call. `Memory.Closed`: a set of addresses that no successor leaves; a list can be checked.
* `Machine.Confined`: the program counter and the taken slots are in a set. A tick keeps this if the
  set is closed (`Course.confined`), and so does a run (`confined_afterTicks`);
  `confined_of_build`.
* `flow_sound`: from its start on, a program is confined to every closed set that holds the start. -/

namespace Chip8

namespace Memory

/-- Where a tick can go from an address at which a word can be fetched, if it does not return. -/
def successors (memory : Memory) (p : UInt16) : List UInt16 :=
  let w := memory.wordAt p.toNat
  match Word.kind w with
  | 1 => if (Word.address w).toNat ≤ 0xFFE then [Word.address w] else [p + 2]
  | 2 => [p + 2, Word.address w]
  | 3 | 4 => [p + 2, p + 4]
  | 5 => if Word.variant w = 0 then [p + 2, p + 4] else [p + 2]
  | _ => [p + 2]

/-- No successor of an address in the set is outside of it. -/
def Closed (memory : Memory) (S : Set UInt16) : Prop :=
  ∀ p ∈ S, p.toNat ≤ 0xFFE → ∀ q ∈ memory.successors p, q ∈ S

/-- By looking at each address once. -/
instance decidableClosed (memory : Memory) (l : List UInt16) :
    Decidable (memory.Closed {p | p ∈ l}) :=
  decidable_of_iff
    (l.all fun p => p.toNat ≤ 0xFFE → (memory.successors p).all fun q => q ∈ l)
    (by simp only [Closed, List.all_eq_true, decide_eq_true_eq, Set.mem_ofPred_eq])

section

variable {memory : Memory} {p w : UInt16} (hw : memory.wordAt p.toNat = w)

include hw

/-- Only a jump that cannot be refused does not go on behind the word. -/
theorem next_mem_successors (h : ¬(Word.kind w = 1 ∧ (Word.address w).toNat ≤ 0xFFE)) :
    p + 2 ∈ memory.successors p := by
  simp only [successors, hw]
  split
  next hk =>
    rw [if_neg fun ht => h ⟨hk, ht⟩]
    exact List.mem_cons_self
  · exact List.mem_cons_self
  · exact List.mem_cons_self
  · exact List.mem_cons_self
  · split <;> exact List.mem_cons_self
  · exact List.mem_cons_self

theorem skip_mem_successors
    (h : Word.kind w = 3 ∨ Word.kind w = 4 ∨ Word.kind w = 5 ∧ Word.variant w = 0) :
    p + 4 ∈ memory.successors p := by
  rcases h with hk | hk | ⟨hk, hv⟩
  · simp [successors, hw, hk]
  · simp [successors, hw, hk]
  · simp [successors, hw, hk, hv]

theorem jump_mem_successors (hk : Word.kind w = 1) (ht : (Word.address w).toNat ≤ 0xFFE) :
    Word.address w ∈ memory.successors p := by
  simp [successors, hw, hk, ht]

theorem call_mem_successors (hk : Word.kind w = 2) : Word.address w ∈ memory.successors p := by
  simp [successors, hw, hk]

end

end Memory

namespace Instruction

variable {w : UInt16} {inst : Instruction}

theorem kind_ne_one_of_straight (h : decode w = .ok inst) (hi : inst.Straight) :
    Word.kind w ≠ 1 := by
  intro hk
  have hj := decode_eq_jp_iff.2 ⟨hk, rfl⟩
  obtain rfl := Except.ok.inj (h.symm.trans hj)
  exact hi

theorem kind_of_skips (h : decode w = .ok inst) (hi : inst.Skips) :
    Word.kind w = 3 ∨ Word.kind w = 4 ∨ Word.kind w = 5 ∧ Word.variant w = 0 := by
  obtain ⟨-, rfl⟩ := decode_eq_ok_iff.1 h
  cases inst with
  | seByte x byte => exact .inl (Word.kind_ofRegisterByte (by decide) x byte)
  | sneByte x byte => exact .inr (.inl (Word.kind_ofRegisterByte (by decide) x byte))
  | seReg x y =>
    refine .inr (.inr ⟨?_, ?_⟩)
    · exact Word.kind_ofRegisters (by decide) (by decide) x y
    · exact Word.variant_ofRegisters (by decide) (by decide) x y
  | _ => exact hi.elim

end Instruction

namespace Machine

structure Confined (m : Machine) (S : Set UInt16) : Prop where
  pc : m.pc ∈ S
  returns : ∀ a ∈ m.stack.occupied, a ∈ S

variable {m m' : Machine} {S : Set UInt16}

theorem confined_of_build {s : Setup} (h : s.build = .ok m) (hS : Memory.programStart ∈ S) :
    m.Confined S := by
  obtain ⟨memory, -, rfl⟩ := Setup.of_build h
  exact ⟨hS, fun a ha => by simp [new, CallStack.occupied, CallStack.empty] at ha⟩

/-! ## One tick -/

theorem fault_tick_of_jump {target : UInt16} (h : m.Fetches (.jp target))
    (ht : target.toNat ≤ 0xFFE) : m.tick.fault = none := by
  rw [fault_tick_of_le h.1]
  simp [step, h.2, execute, le_maxJumpTarget_iff, ht]

theorem next_mem_of_straight {inst : Instruction} (h : m.Fetches inst) (hi : inst.Straight) :
    m.advance.pc ∈ m.memory.successors m.pc :=
  Memory.next_mem_successors rfl fun hj => Instruction.kind_ne_one_of_straight h.2 hi hj.1

theorem next_mem_of_holds (hpc : m.pc.toNat ≤ 0xFFE) {c : Cause} (hc : c.Holds m) :
    m.advance.pc ∈ m.memory.successors m.pc := by
  refine Memory.next_mem_successors rfl ?_
  rintro ⟨hk, ht⟩
  have hn := fault_tick_of_jump ⟨hpc, Instruction.decode_eq_jp_iff.2 ⟨hk, rfl⟩⟩ ht
  have hf : m.tick.fault = some (c.fault m) := fault_tick_iff.2 ⟨c, hc, rfl⟩
  rw [hn] at hf
  cases hf

theorem skip_mem_of_skips {inst : Instruction} (h : m.Fetches inst) (hi : inst.Skips) :
    m.advance.advance.pc ∈ m.memory.successors m.pc := by
  have hpc : m.advance.advance.pc = m.pc + 4 := UInt16.add_assoc m.pc 2 2
  rw [hpc]
  exact Memory.skip_mem_successors rfl (Instruction.kind_of_skips h.2 hi)

theorem target_mem_of_jp {target : UInt16} (h : m.Fetches (.jp target))
    (ht : target.toNat ≤ 0xFFE) : target ∈ m.memory.successors m.pc := by
  obtain ⟨hk, rfl⟩ := Instruction.decode_eq_jp_iff.1 h.2
  exact Memory.jump_mem_successors rfl hk ht

theorem target_mem_of_call {target : UInt16} (h : m.Fetches (.call target)) :
    target ∈ m.memory.successors m.pc := by
  obtain ⟨hk, rfl⟩ := Instruction.decode_eq_call_iff.1 h.2
  exact Memory.call_mem_successors rfl hk

theorem next_mem_of_call {target : UInt16} (h : m.Fetches (.call target)) :
    m.pc + 2 ∈ m.memory.successors m.pc := by
  refine Memory.next_mem_successors rfl fun hj => ?_
  have hk := (Instruction.decode_eq_call_iff.1 h.2).1
  exact absurd (hk.symm.trans hj.1) (by decide)

/-- A call leaves a return address behind and a return takes one up, so neither half of `Confined`
is kept without the other. -/
theorem Course.confined {f : Option Fault} (h : Course m m' f) (hS : m.memory.Closed S)
    (hm : m.Confined S) : m'.Confined S := by
  have hnext : ∀ {q}, m.pc.toNat ≤ 0xFFE → q ∈ m.memory.successors m.pc → q ∈ S :=
    fun hpc hq => hS m.pc hm.pc hpc _ hq
  cases h with
  | stuck => exact hm
  | refused hpc hc => exact ⟨hnext hpc (next_mem_of_holds hpc hc), hm.returns⟩
  | passed hi hs r => exact ⟨hnext hi.1 (next_mem_of_straight hi hs), hm.returns⟩
  | cleared hi => exact ⟨hnext hi.1 (next_mem_of_straight hi trivial), hm.returns⟩
  | skipped hi hs => exact ⟨hnext hi.1 (skip_mem_of_skips hi hs), hm.returns⟩
  | jumped hi ht => exact ⟨hnext hi.1 (target_mem_of_jp hi ht), hm.returns⟩
  | called hi hs =>
    refine ⟨hnext hi.1 (target_mem_of_call hi), fun a ha => ?_⟩
    rw [CallStack.occupied_of_push? hs, List.mem_append, List.mem_singleton] at ha
    rcases ha with ha | rfl
    · exact hm.returns a ha
    · exact hnext hi.1 (next_mem_of_call hi)
  | returned hi hs =>
    have hocc := CallStack.occupied_of_pop? hs
    exact ⟨hm.returns _ (by simp [hocc]), fun a ha => hm.returns a (by simp [hocc, ha])⟩

/-! ## Runs -/

theorem confined_afterTicks (hS : m.memory.Closed S) (hm : m.Confined S) (n : Nat) :
    (m.afterTicks n).Confined S := by
  induction n with
  | zero => exact hm
  | succ n ih =>
    rw [afterTicks_succ]
    refine (course_tick _).confined ?_ ih
    rwa [memory_afterTicks]

/-- **A closed set bounds every run from its start**: control stays in the set, and so do the
addresses that it is to return to. -/
theorem flow_sound {s : Setup} (hb : s.build = .ok m) (hstart : Memory.programStart ∈ S)
    (hclosed : m.memory.Closed S) (n : Nat) :
    (m.afterTicks n).pc ∈ S ∧ ∀ a ∈ (m.afterTicks n).stack.occupied, a ∈ S := by
  have h := confined_afterTicks hclosed (confined_of_build hb hstart) n
  exact ⟨h.pc, h.returns⟩

/-- A subroutine that skips, and two bytes of data between it and its caller. -/
theorem data_not_reached :
    ∃ m, Setup.build { rom := [0x22, 0x06, 0x12, 0x02, 0xFF, 0xFF, 0x30, 0x00, 0x12, 0x02,
        0x00, 0xEE, 0x12, 0x02] } = .ok m ∧
      m.memory.Closed {p | p ∈ [0x200, 0x202, 0x206, 0x208, 0x20A, 0x20C]} ∧
      ∀ n, (m.afterTicks n).pc ≠ 0x204 := by
  have hbuilt : ∃ m, Setup.build { rom := [0x22, 0x06, 0x12, 0x02, 0xFF, 0xFF, 0x30, 0x00, 0x12,
        0x02, 0x00, 0xEE, 0x12, 0x02] } = .ok m ∧
      m.memory.Closed {p | p ∈ [0x200, 0x202, 0x206, 0x208, 0x20A, 0x20C]} :=
    ⟨_, rfl, by decide +kernel⟩
  obtain ⟨m, hb, hclosed⟩ := hbuilt
  refine ⟨m, hb, hclosed, fun n hn => ?_⟩
  have hmem := (flow_sound hb (by decide) hclosed n).1
  rw [hn] at hmem
  exact absurd hmem (by decide)

end Machine

end Chip8
