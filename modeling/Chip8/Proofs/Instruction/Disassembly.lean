import Chip8.Instruction.Text
import Chip8.Proofs.Instruction.Encoding
import Chip8.Proofs.Text.Parts

/-! # Disassembly tells instructions apart

A disassembly is a mnemonic and, behind a blank, the operands. Several instructions share a mnemonic,
but not with operands of one form, and the form can be told from how the operands begin.

* `Operands`: what an instruction works on, by form. `mnemonic`, `operands`: an instruction in two
  parts; `text_eq`. `ofParts?_mnemonic_operands`: the parts determine the instruction.
* `parts_of_text_eq`: no mnemonic has a blank, so a disassembly tells where the operands begin.
* `registerText_ne_number`, `registerText_append_inj`: what a register is told by, and where it ends;
  `operandsText_inj`: so operands can be told from their text.
* `disassembly_unambiguous`: the statement above. -/

namespace Chip8

/-- What an instruction works on. -/
inductive Operands where
  | nothing
  | target (a : UInt16)
  | registerByte (x byte : UInt8)
  | registers (x y : UInt8)

namespace Instruction

/-! ## Two parts -/

def mnemonic : Instruction → String
  | cls => "CLS"
  | ret => "RET"
  | sys _ => "SYS"
  | jp _ => "JP"
  | call _ => "CALL"
  | seByte .. | seReg .. => "SE"
  | sneByte .. => "SNE"
  | ldByte .. | ldReg .. => "LD"
  | addByte .. | addReg .. => "ADD"
  | orReg .. => "OR"
  | andReg .. => "AND"
  | xorReg .. => "XOR"

def operands : Instruction → Operands
  | cls | ret => .nothing
  | sys target | jp target | call target => .target target
  | seByte x byte | sneByte x byte | ldByte x byte | addByte x byte => .registerByte x byte
  | seReg x y | ldReg x y | orReg x y | andReg x y | xorReg x y | addReg x y => .registers x y

/-- The operands as they follow a mnemonic. -/
def operandsText : Operands → String
  | .nothing => ""
  | .target a => " " ++ targetText a
  | .registerByte x byte => " " ++ (registerText x ++ (", " ++ byteText byte))
  | .registers x y => " " ++ (registerText x ++ (", " ++ registerText y))

/-- The instruction with a mnemonic and operands. -/
def ofParts? : String → Operands → Option Instruction
  | "CLS", .nothing => some cls
  | "RET", .nothing => some ret
  | "SYS", .target a => some (sys a)
  | "JP", .target a => some (jp a)
  | "CALL", .target a => some (call a)
  | "SE", .registerByte x byte => some (seByte x byte)
  | "SNE", .registerByte x byte => some (sneByte x byte)
  | "LD", .registerByte x byte => some (ldByte x byte)
  | "ADD", .registerByte x byte => some (addByte x byte)
  | "SE", .registers x y => some (seReg x y)
  | "LD", .registers x y => some (ldReg x y)
  | "OR", .registers x y => some (orReg x y)
  | "AND", .registers x y => some (andReg x y)
  | "XOR", .registers x y => some (xorReg x y)
  | "ADD", .registers x y => some (addReg x y)
  | _, _ => none

variable {i j : Instruction}

theorem text_eq (inst : Instruction) : inst.text = inst.mnemonic ++ operandsText inst.operands := by
  cases inst with
  | cls | ret => rfl
  | _ =>
    simp only [mnemonic, operands, operandsText, ← String.append_assoc]
    rfl

theorem ofParts?_mnemonic_operands (inst : Instruction) :
    ofParts? inst.mnemonic inst.operands = some inst := by
  cases inst <;> rfl

theorem eq_of_parts (hm : i.mnemonic = j.mnemonic) (ho : i.operands = j.operands) : i = j := by
  have hi := ofParts?_mnemonic_operands i
  rw [hm, ho, ofParts?_mnemonic_operands j] at hi
  exact (Option.some.inj hi).symm

/-! ## Where the operands begin -/

theorem mnemonic_no_blank (inst : Instruction) :
    ∀ c ∈ inst.mnemonic.toList, (c != ' ') = true := by
  cases inst <;> simp [mnemonic]

theorem opensWithout_operandsText (o : Operands) : OpensWithout (· != ' ') (operandsText o) := by
  cases o with
  | nothing => nofun
  | target a | registerByte x byte | registers x y => exact opensWithout_append rfl rfl

theorem parts_of_text_eq (h : i.text = j.text) :
    i.mnemonic = j.mnemonic ∧ operandsText i.operands = operandsText j.operands := by
  rw [text_eq, text_eq] at h
  exact append_inj_of_opens i.mnemonic_no_blank j.mnemonic_no_blank
    (opensWithout_operandsText i.operands) (opensWithout_operandsText j.operands) h

/-! ## Telling operands apart -/

section

variable {a b : UInt16} {x y k l : UInt8} {s t : String}

theorem targetText_inj (h : targetText a = targetText b) : a = b :=
  UInt16.toNat_inj.1 (Hex.lower_inj ((String.append_right_inj _).1 h))

theorem byteText_inj (h : byteText k = byteText l) : k = l :=
  UInt8.toNat_inj.1 (Hex.lower_inj ((String.append_right_inj _).1 h))

theorem registerText_inj (h : registerText x = registerText y) : x = y :=
  UInt8.toNat_inj.1 (Hex.upper_inj ((String.append_right_inj _).1 h))

/-- A register may have one digit or two, but the comma behind it is not one of them. -/
theorem registerText_append_inj
    (h : registerText x ++ (", " ++ s) = registerText y ++ (", " ++ t)) : x = y ∧ s = t := by
  unfold registerText at h
  rw [String.append_assoc, String.append_assoc, String.append_right_inj] at h
  obtain ⟨hnumber, hrest⟩ := Hex.upper_append_inj h
  exact ⟨UInt8.toNat_inj.1 hnumber, hrest⟩

theorem registerText_ne_number : registerText x ++ s ≠ "0x" ++ t := by
  unfold registerText
  rw [String.append_assoc]
  exact append_ne_append (k := 0) rfl rfl (by decide)

theorem registerText_ne_byteText : registerText x ≠ byteText k :=
  append_ne_append (k := 0) rfl rfl (by decide)

end

theorem operandsText_inj {o o' : Operands} (h : operandsText o = operandsText o') : o = o' := by
  cases o with
  | nothing =>
    cases o' with
    | nothing => rfl
    | target _ | registerByte _ _ | registers _ _ => exact absurd h.symm (append_ne_empty rfl)
  | target a =>
    cases o' with
    | nothing => exact absurd h (append_ne_empty rfl)
    | target b => rw [targetText_inj ((String.append_right_inj _).1 h)]
    | registerByte _ _ | registers _ _ =>
      exact absurd ((String.append_right_inj _).1 h).symm registerText_ne_number
  | registerByte x k =>
    cases o' with
    | nothing => exact absurd h (append_ne_empty rfl)
    | target b => exact absurd ((String.append_right_inj _).1 h) registerText_ne_number
    | registerByte y l =>
      obtain ⟨rfl, hbyte⟩ := registerText_append_inj ((String.append_right_inj _).1 h)
      rw [byteText_inj hbyte]
    | registers y l =>
      obtain ⟨-, hsecond⟩ := registerText_append_inj ((String.append_right_inj _).1 h)
      exact absurd hsecond.symm registerText_ne_byteText
  | registers x k =>
    cases o' with
    | nothing => exact absurd h (append_ne_empty rfl)
    | target b => exact absurd ((String.append_right_inj _).1 h) registerText_ne_number
    | registerByte y l =>
      obtain ⟨-, hsecond⟩ := registerText_append_inj ((String.append_right_inj _).1 h)
      exact absurd hsecond registerText_ne_byteText
    | registers y l =>
      obtain ⟨rfl, hsecond⟩ := registerText_append_inj ((String.append_right_inj _).1 h)
      rw [registerText_inj hsecond]

theorem text_eq_iff : i.text = j.text ↔ i = j := by
  constructor
  · intro h
    obtain ⟨hmnemonic, htext⟩ := parts_of_text_eq h
    exact eq_of_parts hmnemonic (operandsText_inj htext)
  · rintro rfl
    rfl

/-- **A disassembly is of one instruction only**, whether or not the operands fit a word, and so of
one word only. -/
theorem disassembly_unambiguous :
    (∀ i j : Instruction, i.text = j.text ↔ i = j) ∧
    ∀ (v w : UInt16) (i j : Instruction), decode v = .ok i → decode w = .ok j →
      (i.text = j.text ↔ v = w) := by
  refine ⟨fun i j => text_eq_iff, fun v w i j hv hw => ?_⟩
  rw [text_eq_iff]
  constructor
  · rintro rfl
    exact (decode_eq_ok_iff.1 hv).2.symm.trans (decode_eq_ok_iff.1 hw).2
  · rintro rfl
    exact Except.ok.inj (hv.symm.trans hw)

/-- A register and a byte whose digits are the same, and targets that a word would have cut to the
same. -/
theorem alike_operands_told_apart :
    decode 0x8120 = .ok (.ldReg 1 2) ∧ decode 0x6112 = .ok (.ldByte 1 0x12) ∧
      (ldReg 1 2).text ≠ (ldByte 1 0x12).text ∧
      (jp 0xF234).encode = (jp 0x0234).encode ∧ (jp 0xF234).text ≠ (jp 0x0234).text := by
  obtain ⟨htext, hwords⟩ := disassembly_unambiguous
  have hreg : decode 0x8120 = .ok (.ldReg 1 2) := rfl
  have hbyte : decode 0x6112 = .ok (.ldByte 1 0x12) := rfl
  refine ⟨hreg, hbyte, ?_, rfl, ?_⟩
  · rw [Ne, hwords _ _ _ _ hreg hbyte]
    decide
  · rw [Ne, htext]
    decide

end Instruction

end Chip8
