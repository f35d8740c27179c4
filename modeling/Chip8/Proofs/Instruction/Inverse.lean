import Chip8.Proofs.Instruction.Masking
import Chip8.Proofs.Instruction.Pattern

/-! # Decoding against encoding

The words that stand for an instruction and the instructions whose operands fit are two names of the
same things, and `decode` and `encode` lead from one to the other. An instruction whose operands do
not fit has the word of its masked form.

* `listed_iff_digits`: the words that stand for an instruction, by their first and last digits.
  `decode_listed_or_refused`: every other word is refused.
* `decode_encode_iff_fits`: an instruction comes back from its word exactly if it fits.
  `encode_eq_iff`: instructions share a word exactly if they are masked to the same.
* `decode_inverts_encode`: the statement above. -/

namespace Chip8.Instruction

theorem listed_iff_digits {w : UInt16} :
    Listed w ↔ Word.kind w ∈ [0, 1, 2, 3, 4, 6, 7] ∨ Word.kind w = 5 ∧ Word.variant w = 0 ∨
      Word.kind w = 8 ∧ Word.variant w ≤ 4 := by
  rw [listed_iff]
  simp only [List.mem_cons, List.not_mem_nil, or_false]
  omega

/-- A word stands for one instruction, which is written as that word, or is refused as it is. -/
theorem decode_listed_or_refused (w : UInt16) :
    (Listed w ∧ ∃ inst, decode w = .ok inst ∧ inst.encode = w ∧ inst.Fits) ∨
      (¬Listed w ∧ decode w = .error (.unknownOpcode w)) := by
  cases hd : decode w with
  | ok inst =>
    obtain ⟨hfits, hencode⟩ := decode_eq_ok_iff.1 hd
    exact .inl ⟨listed_of_decode hd, inst, rfl, hencode, hfits⟩
  | error f =>
    obtain ⟨hlisted, rfl⟩ := decode_eq_error_iff.1 hd
    exact .inr ⟨hlisted, rfl⟩

theorem decode_encode_iff_fits {inst : Instruction} :
    decode inst.encode = .ok inst ↔ inst.Fits := by
  rw [decode_eq_ok_iff]
  exact and_iff_left rfl

theorem encode_eq_iff {i j : Instruction} : i.encode = j.encode ↔ i.masked = j.masked := by
  constructor
  · intro h
    have hdecode := congrArg decode h
    rw [decode_encode_eq_masked, decode_encode_eq_masked] at hdecode
    exact Except.ok.inj hdecode
  · intro h
    rw [← encode_masked i, h, encode_masked]

/-- **Decoding undoes encoding and encoding undoes decoding**, but for what the operands have beyond
their width. -/
theorem decode_inverts_encode :
    (∀ w : UInt16,
      let inFormat := Word.kind w ∈ [0, 1, 2, 3, 4, 6, 7] ∨ Word.kind w = 5 ∧ Word.variant w = 0 ∨
        Word.kind w = 8 ∧ Word.variant w ≤ 4
      (inFormat ∧ ∃ inst, decode w = .ok inst ∧ inst.encode = w ∧ inst.Fits) ∨
        (¬inFormat ∧ decode w = .error (.unknownOpcode w))) ∧
    (∀ inst : Instruction, decode inst.encode = .ok inst.masked ∧
      (decode inst.encode = .ok inst ↔ inst.Fits)) ∧
    ∀ i j : Instruction, i.encode = j.encode ↔ i.masked = j.masked := by
  refine ⟨fun w => ?_, fun inst => ?_, fun i j => encode_eq_iff⟩
  · have hw := decode_listed_or_refused w
    rwa [listed_iff_digits] at hw
  · exact ⟨decode_encode_eq_masked inst, decode_encode_iff_fits⟩

/-- The target of a host routine is cut to the word of a return. -/
example : (sys 0xF0EE).encode = ret.encode := by decide

end Chip8.Instruction
