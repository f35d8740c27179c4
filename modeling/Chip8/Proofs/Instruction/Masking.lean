import Chip8.Proofs.Instruction.Encoding
import Mathlib.Tactic.SplitIfs

/-! # Operands cut to their width

A word has four bits for a register and twelve for a target. What an operand has beyond that is lost
when the instruction is encoded.

* `masked`: the instruction that is left, with its operands cut. It fits (`fits_masked`) and has the
  same word (`encode_masked`).
* `decode_encode_eq_masked`: it is what the word of an instruction stands for. -/

namespace Chip8.Instruction

def maskRegister (x : UInt8) : UInt8 := x &&& 0xF

def maskTarget (target : UInt16) : UInt16 := target &&& 0xFFF

/-- The instruction with its operands cut. A call of a host routine may then be the word for
clearing the display or for a return, and is that instruction. -/
def masked : Instruction → Instruction
  | cls => cls
  | ret => ret
  | sys target =>
    if maskTarget target = 0x0E0 then cls
    else if maskTarget target = 0x0EE then ret
    else sys (maskTarget target)
  | jp target => jp (maskTarget target)
  | call target => call (maskTarget target)
  | seByte x byte => seByte (maskRegister x) byte
  | sneByte x byte => sneByte (maskRegister x) byte
  | seReg x y => seReg (maskRegister x) (maskRegister y)
  | ldByte x byte => ldByte (maskRegister x) byte
  | addByte x byte => addByte (maskRegister x) byte
  | ldReg x y => ldReg (maskRegister x) (maskRegister y)
  | orReg x y => orReg (maskRegister x) (maskRegister y)
  | andReg x y => andReg (maskRegister x) (maskRegister y)
  | xorReg x y => xorReg (maskRegister x) (maskRegister y)
  | addReg x y => addReg (maskRegister x) (maskRegister y)

/-! ## Masks -/

theorem toNat_maskRegister (x : UInt8) : (maskRegister x).toNat = x.toNat % 0x10 := by
  rw [maskRegister, UInt8.toNat_and]
  exact Nat.and_two_pow_sub_one_eq_mod x.toNat 4

theorem toNat_maskTarget (target : UInt16) : (maskTarget target).toNat = target.toNat % 0x1000 := by
  rw [maskTarget, UInt16.toNat_and]
  exact Nat.and_two_pow_sub_one_eq_mod target.toNat 12

theorem maskRegister_lt (x : UInt8) : (maskRegister x).toNat < 16 := by
  rw [toNat_maskRegister]
  omega

theorem maskTarget_lt (target : UInt16) : (maskTarget target).toNat < 0x1000 := by
  rw [toNat_maskTarget]
  omega

theorem ofAddress_maskTarget (kind : Nat) (target : UInt16) :
    Word.ofAddress kind (maskTarget target) = Word.ofAddress kind target := by
  rw [Word.ofAddress, toNat_maskTarget, Nat.mod_mod, Word.ofAddress]

theorem ofRegisterByte_maskRegister (kind : Nat) (x byte : UInt8) :
    Word.ofRegisterByte kind (maskRegister x) byte = Word.ofRegisterByte kind x byte := by
  rw [Word.ofRegisterByte, toNat_maskRegister, Nat.mod_mod, Word.ofRegisterByte]

theorem ofRegisters_maskRegister (kind : Nat) (x y : UInt8) (variant : Nat) :
    Word.ofRegisters kind (maskRegister x) (maskRegister y) variant =
      Word.ofRegisters kind x y variant := by
  rw [Word.ofRegisters, toNat_maskRegister, toNat_maskRegister, Nat.mod_mod, Nat.mod_mod,
    Word.ofRegisters]

/-- The word for a call of a host routine is its target, cut. -/
theorem encode_sys (target : UInt16) : (sys target).encode = maskTarget target := by
  apply UInt16.toNat_inj.1
  rw [encode, Word.toNat_ofAddress (by decide), toNat_maskTarget]
  omega

/-! ## Masked instructions -/

theorem fits_masked (inst : Instruction) : inst.masked.Fits := by
  cases inst with
  | cls | ret => trivial
  | sys target =>
    rw [masked]
    split_ifs with h1 h2
    · trivial
    · trivial
    · exact ⟨maskTarget_lt target, h1, h2⟩
  | jp target | call target => exact maskTarget_lt target
  | seByte x byte | sneByte x byte | ldByte x byte | addByte x byte => exact maskRegister_lt x
  | seReg x y | ldReg x y | orReg x y | andReg x y | xorReg x y | addReg x y =>
    exact ⟨maskRegister_lt x, maskRegister_lt y⟩

theorem encode_masked (inst : Instruction) : inst.masked.encode = inst.encode := by
  cases inst with
  | cls | ret => rfl
  | sys target =>
    rw [encode_sys, masked]
    split_ifs with h1 h2
    · exact h1.symm
    · exact h2.symm
    · exact (ofAddress_maskTarget 0x0 target).trans (encode_sys target)
  | jp target => exact ofAddress_maskTarget 0x1 target
  | call target => exact ofAddress_maskTarget 0x2 target
  | seByte x byte | sneByte x byte | ldByte x byte | addByte x byte =>
    exact ofRegisterByte_maskRegister _ x byte
  | seReg x y | ldReg x y | orReg x y | andReg x y | xorReg x y | addReg x y =>
    exact ofRegisters_maskRegister _ x y _

/-- **The word of an instruction stands for the masked instruction.** -/
theorem decode_encode_eq_masked (inst : Instruction) : decode inst.encode = .ok inst.masked := by
  rw [← encode_masked]
  exact decode_encode (fits_masked inst)

end Chip8.Instruction
