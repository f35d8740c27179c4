import Chip8.Proofs.Instruction.Encoding
import Mathlib.Tactic.IntervalCases

/-! # Opcode patterns

Which words stand for instructions, written as in a table of opcodes: four digits, some of them
fixed and the others left to the operands.

* `Pattern`, `Pattern.Matches`, `opcodeTable`: the table; `Listed`: a word matches a pattern of it;
  `listed_iff`: the same by kind and variant.
* `decode_eq_error_iff`: a word is refused exactly if it is not listed. -/

namespace Chip8.Instruction

/-! ## The table -/

/-- The four digits of a word from the highest on; `none` is a digit of an operand. -/
structure Pattern where
  kind : Option Nat
  x : Option Nat
  y : Option Nat
  variant : Option Nat
  deriving DecidableEq

def Pattern.Matches (p : Pattern) (w : UInt16) : Prop :=
  (∀ d ∈ p.kind, w.toNat / 0x1000 = d) ∧ (∀ d ∈ p.x, w.toNat / 0x100 % 0x10 = d) ∧
    (∀ d ∈ p.y, w.toNat / 0x10 % 0x10 = d) ∧ ∀ d ∈ p.variant, w.toNat % 0x10 = d

def opcodeTable : List Pattern :=
  [⟨some 0x0, some 0x0, some 0xE, some 0x0⟩, -- cls
   ⟨some 0x0, some 0x0, some 0xE, some 0xE⟩, -- ret
   ⟨some 0x0, none, none, none⟩, -- sys
   ⟨some 0x1, none, none, none⟩, -- jp
   ⟨some 0x2, none, none, none⟩, -- call
   ⟨some 0x3, none, none, none⟩, -- seByte
   ⟨some 0x4, none, none, none⟩, -- sneByte
   ⟨some 0x5, none, none, some 0x0⟩, -- seReg
   ⟨some 0x6, none, none, none⟩, -- ldByte
   ⟨some 0x7, none, none, none⟩, -- addByte
   ⟨some 0x8, none, none, some 0x0⟩, -- ldReg
   ⟨some 0x8, none, none, some 0x1⟩, -- orReg
   ⟨some 0x8, none, none, some 0x2⟩, -- andReg
   ⟨some 0x8, none, none, some 0x3⟩, -- xorReg
   ⟨some 0x8, none, none, some 0x4⟩] -- addReg

/-- The word stands for an instruction. -/
def Listed (w : UInt16) : Prop := ∃ p ∈ opcodeTable, p.Matches w

/-- The table by kind. The two patterns of fixed words say nothing new beside the third. -/
theorem listed_iff {w : UInt16} :
    Listed w ↔ Word.kind w ≤ 4 ∨ Word.kind w = 5 ∧ Word.variant w = 0 ∨ Word.kind w = 6 ∨
      Word.kind w = 7 ∨ Word.kind w = 8 ∧ Word.variant w ≤ 4 := by
  simp only [Listed, opcodeTable, Pattern.Matches, Word.kind, Word.variant, List.mem_cons,
    List.not_mem_nil, or_false, exists_eq_or_imp, exists_eq_left, Option.mem_def, Option.some.injEq,
    forall_eq', reduceCtorEq, false_imp_iff, implies_true, true_and, and_true]
  generalize w.toNat / 0x1000 = kind, w.toNat % 0x10 = variant
  constructor
  · rintro (⟨h, -⟩ | ⟨h, -⟩ | h | h | h | h | h | ⟨h, hv⟩ | h | h | ⟨h, hv⟩ | ⟨h, hv⟩ | ⟨h, hv⟩ |
      ⟨h, hv⟩ | ⟨h, hv⟩) <;> simp [*]
  · rintro (h | ⟨h, hv⟩ | h | h | ⟨h, hv⟩)
    · interval_cases kind <;> simp
    · simp [h, hv]
    · simp [h]
    · simp [h]
    · interval_cases variant <;> simp [h]

theorem listed_of_decode {w : UInt16} {inst : Instruction} (h : decode w = .ok inst) :
    Listed w := by
  obtain ⟨-, rfl⟩ := decode_eq_ok_iff.1 h
  rw [listed_iff]
  cases inst with
  | cls | ret => decide
  | sys target | jp target | call target => simp [encode, Word.kind_ofAddress]
  | seByte x byte | sneByte x byte | ldByte x byte | addByte x byte =>
    simp [encode, Word.kind_ofRegisterByte]
  | seReg x y | ldReg x y | orReg x y | andReg x y | xorReg x y | addReg x y =>
    simp [encode, Word.kind_ofRegisters, Word.variant_ofRegisters]

theorem not_listed_of_decode {w : UInt16} {f : Fault} (h : decode w = .error f) :
    ¬Listed w ∧ f = .unknownOpcode w := by
  rw [listed_iff]
  unfold decode at h
  split at h
  case h_1 => split at h <;> (try split at h) <;> cases h
  case h_6 hk =>
    split at h
    case h_1 => cases h
    case h_2 hv => cases h; exact ⟨by grind, rfl⟩
  case h_9 hk =>
    split at h
    case h_6 => cases h; exact ⟨by grind, rfl⟩
    all_goals cases h
  case h_10 => cases h; exact ⟨by grind, rfl⟩
  all_goals cases h

/-- **The words that are refused** are those outside the table. -/
theorem decode_eq_error_iff {w : UInt16} {f : Fault} :
    decode w = .error f ↔ ¬Listed w ∧ f = .unknownOpcode w := by
  constructor
  · exact not_listed_of_decode
  · rintro ⟨h, rfl⟩
    cases hd : decode w with
    | ok inst => exact absurd (listed_of_decode hd) h
    | error f => rw [(not_listed_of_decode hd).2]

end Chip8.Instruction
