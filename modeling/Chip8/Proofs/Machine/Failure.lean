import Chip8.Proofs.Instruction.Pattern
import Chip8.Proofs.Machine.Fetch

/-! # The failures of a tick

A tick fails for one of six causes, and no two of them can hold at once.

* `Refusal`: what executing an instruction can refuse; `execute_eq_error_iff`,
  `fault_tick_of_fetches`.
* `Cause`: the causes, with the condition (`Cause.Holds`) and the fault (`Cause.fault`) of each,
  both read off the word at the program counter; `cause_unique`.
* `fault_tick_iff`: a tick fails with a fault exactly if the fault is that of a cause that holds.
  `machine_of_holds`: unless the fetch failed, the program counter was moved by two and nothing else
  has changed. -/

namespace Chip8.Machine

open Instruction (Listed)

/-! ## Executing -/

/-- The instructions that are refused by a machine that was already moved past them. -/
inductive Refusal (m : Machine) : Instruction → Fault → Prop where
  | ret (h : m.stack.depth = 0) : Refusal m .ret (.stackUnderflow (m.pc - 2))
  | sys (target : UInt16) : Refusal m (.sys target) (.notImplemented target)
  | jp {target : UInt16} (h : 0xFFE < target.toNat) :
    Refusal m (.jp target) (.invalidJumpTarget target)
  | call (target : UInt16) (h : m.stack.depth = 16) :
    Refusal m (.call target) (.stackOverflow (m.pc - 2))

theorem le_maxJumpTarget_iff {target : UInt16} :
    target ≤ maxJumpTarget ↔ target.toNat ≤ 0xFFE := by
  simp [maxJumpTarget, UInt16.le_iff_toNat_le]

theorem execute_eq_error_iff {m : Machine} {inst : Instruction} {f : Fault} :
    m.execute inst = .error f ↔ Refusal m inst f := by
  constructor
  · intro h
    cases inst with
    | ret =>
      simp only [execute] at h
      split at h
      · cases h
      next hp => cases h; exact .ret (CallStack.pop?_eq_none_iff.1 hp)
    | sys target => cases h; exact .sys target
    | jp target =>
      simp only [execute, le_maxJumpTarget_iff] at h
      split at h
      · cases h
      next ht => cases h; exact .jp (by omega)
    | call target =>
      simp only [execute] at h
      split at h
      · cases h
      next hp => cases h; exact .call target (CallStack.push?_eq_none_iff.1 hp)
    | _ => cases h
  · intro h
    cases h with
    | ret h => simp [execute, CallStack.pop?_eq_none_iff.2 h]
    | sys target => rfl
    | jp h => simp [execute, le_maxJumpTarget_iff, Nat.not_le.2 h]
    | call target h => simp [execute, CallStack.push?_eq_none_iff.2 h]

theorem step_eq_error_iff {m : Machine} {f : Fault} :
    m.step = .error f ↔ Instruction.decode m.word = .error f ∨
      ∃ inst, Instruction.decode m.word = .ok inst ∧ Refusal m.advance inst f := by
  unfold step
  cases Instruction.decode m.word with
  | error g => simp
  | ok inst => simp [execute_eq_error_iff]

/-- A tick that fetches an instruction fails exactly if the instruction is refused. -/
theorem fault_tick_of_fetches {m : Machine} {inst : Instruction} (h : m.Fetches inst) {f : Fault} :
    m.tick.fault = some f ↔ Refusal m.advance inst f := by
  rw [fault_tick_of_le h.1, h.step_eq, ← execute_eq_error_iff]
  cases m.advance.execute inst <;> simp

/-! ## Causes -/

inductive Cause where
  | outOfBounds
  | unknownOpcode
  | notImplemented
  | stackUnderflow
  | stackOverflow
  | invalidJumpTarget
  deriving DecidableEq

namespace Cause

def Holds (m : Machine) : Cause → Prop
  | outOfBounds => 0xFFF ≤ m.pc.toNat
  | unknownOpcode => m.pc.toNat ≤ 0xFFE ∧ ¬Listed m.word
  | notImplemented =>
    m.pc.toNat ≤ 0xFFE ∧ Word.kind m.word = 0 ∧ m.word ≠ 0x00E0 ∧ m.word ≠ 0x00EE
  | stackUnderflow => m.pc.toNat ≤ 0xFFE ∧ m.word = 0x00EE ∧ m.stack.depth = 0
  | stackOverflow => m.pc.toNat ≤ 0xFFE ∧ Word.kind m.word = 2 ∧ m.stack.depth = 16
  | invalidJumpTarget => m.pc.toNat ≤ 0xFFE ∧ m.word = 0x1FFF

/-- The stack faults name the address of the instruction, which the program counter has left by
then. -/
def fault (m : Machine) : Cause → Fault
  | outOfBounds => .memoryOutOfBounds (max m.pc.toNat 0x1000)
  | unknownOpcode => .unknownOpcode m.word
  | notImplemented => .notImplemented m.word
  | stackUnderflow => .stackUnderflow m.pc
  | stackOverflow => .stackOverflow m.pc
  | invalidJumpTarget => .invalidJumpTarget 0xFFF

end Cause

variable {m : Machine}

theorem jump_out_of_range_iff {w : UInt16} :
    Word.kind w = 1 ∧ 0xFFE < (Word.address w).toNat ↔ w = 0x1FFF := by
  rw [Word.toNat_address, Word.kind, ← UInt16.toNat_inj]
  have : (0x1FFF : UInt16).toNat = 0x1FFF := rfl
  omega

theorem step_eq_error_iff_cause (hpc : m.pc.toNat ≤ 0xFFE) {f : Fault} :
    m.step = .error f ↔ ∃ c : Cause, c.Holds m ∧ f = c.fault m := by
  rw [step_eq_error_iff, Instruction.decode_eq_error_iff]
  constructor
  · rintro (⟨hw, rfl⟩ | ⟨inst, hd, hr⟩)
    · exact ⟨.unknownOpcode, ⟨hpc, hw⟩, rfl⟩
    · cases hr with
      | ret h =>
        refine ⟨.stackUnderflow, ⟨hpc, Instruction.decode_eq_ret_iff.1 hd, h⟩, ?_⟩
        rw [advance_pc_sub]
        rfl
      | sys target =>
        obtain ⟨hw, rfl⟩ := Instruction.decode_eq_sys_iff.1 hd
        exact ⟨.notImplemented, ⟨hpc, hw⟩, rfl⟩
      | jp h =>
        obtain ⟨hk, rfl⟩ := Instruction.decode_eq_jp_iff.1 hd
        have hw := jump_out_of_range_iff.1 ⟨hk, h⟩
        refine ⟨.invalidJumpTarget, ⟨hpc, hw⟩, ?_⟩
        rw [hw]
        rfl
      | call target h =>
        refine ⟨.stackOverflow, ⟨hpc, (Instruction.decode_eq_call_iff.1 hd).1, h⟩, ?_⟩
        rw [advance_pc_sub]
        rfl
  · rintro ⟨c, hc, rfl⟩
    cases c with
    | outOfBounds => exact absurd hpc (Nat.not_le.2 hc)
    | unknownOpcode => exact .inl ⟨hc.2, rfl⟩
    | notImplemented =>
      exact .inr ⟨_, Instruction.decode_eq_sys_iff.2 ⟨hc.2, rfl⟩, .sys _⟩
    | stackUnderflow =>
      refine .inr ⟨_, Instruction.decode_eq_ret_iff.2 hc.2.1, ?_⟩
      have := Refusal.ret (m := m.advance) hc.2.2
      rwa [advance_pc_sub] at this
    | stackOverflow =>
      refine .inr ⟨_, Instruction.decode_eq_call_iff.2 ⟨hc.2.1, rfl⟩, ?_⟩
      have := Refusal.call (m := m.advance) (Word.address m.word) hc.2.2
      rwa [advance_pc_sub] at this
    | invalidJumpTarget =>
      obtain ⟨hk, ht⟩ := jump_out_of_range_iff.2 hc.2
      refine .inr ⟨_, Instruction.decode_eq_jp_iff.2 ⟨hk, rfl⟩, ?_⟩
      have := Refusal.jp (m := m.advance) ht
      rwa [hc.2] at this ⊢

theorem fault_tick_iff {f : Fault} :
    m.tick.fault = some f ↔ ∃ c : Cause, c.Holds m ∧ f = c.fault m := by
  rcases Nat.lt_or_ge 0xFFE m.pc.toNat with hpc | hpc
  · rw [fault_tick_of_gt hpc, Option.some.injEq]
    constructor
    · rintro rfl
      exact ⟨.outOfBounds, hpc, rfl⟩
    · rintro ⟨c, hc, rfl⟩
      cases c with
      | outOfBounds => rfl
      | _ => exact absurd hc.1 (Nat.not_le.2 hpc)
  · rw [← step_eq_error_iff_cause hpc, fault_tick_of_le hpc]
    cases m.step <;> simp

/-- The faults tell the causes apart. -/
theorem fault_inj {c d : Cause} (h : c.fault m = d.fault m) : c = d := by
  cases c <;> cases d <;> first | rfl | cases h

theorem cause_unique {c d : Cause} (hc : c.Holds m) (hd : d.Holds m) : c = d := by
  have h : m.tick.fault = some (c.fault m) := fault_tick_iff.2 ⟨c, hc, rfl⟩
  have h' : m.tick.fault = some (d.fault m) := fault_tick_iff.2 ⟨d, hd, rfl⟩
  exact fault_inj (Option.some.inj (h.symm.trans h'))

/-! ## What a failed tick leaves behind -/

theorem le_of_holds {c : Cause} (hc : c.Holds m) (h : c ≠ .outOfBounds) : m.pc.toNat ≤ 0xFFE := by
  cases c with
  | outOfBounds => exact absurd rfl h
  | _ => exact hc.1

theorem machine_of_fault (hpc : m.pc.toNat ≤ 0xFFE) {f : Fault} (h : m.tick.fault = some f) :
    m.tick.machine = m.advance := by
  rw [fault_tick_of_le hpc] at h
  rw [machine_tick_of_le hpc]
  cases hs : m.step with
  | ok m' => rw [hs] at h; cases h
  | error f => rfl

theorem machine_of_holds {c : Cause} (hne : c ≠ .outOfBounds) (hc : c.Holds m) :
    m.tick.machine = { m with pc := m.pc + 2 } :=
  machine_of_fault (le_of_holds hc hne) (fault_tick_iff.2 ⟨c, hc, rfl⟩)

end Chip8.Machine
