import Chip8.Instruction.Basic

/-! # Words and instructions

`decode` undoes `encode` on the instructions whose operands have their width, and these are the
instructions that it gives.

* `Fits`: the operands of an instruction have the width that a word has room for, and a call of a
  host routine is not the word of another instruction.
* `decode_eq_ok_iff`: a word stands for an instruction exactly if the instruction fits and is
  encoded as that word. `decode_eq_ret_iff`, `decode_eq_sys_iff`, `decode_eq_jp_iff` and
  `decode_eq_call_iff` read it off the digits of the word. -/

namespace Chip8.Instruction

def Fits : Instruction → Prop
  | cls | ret => True
  | sys target => target.toNat < 0x1000 ∧ target ≠ 0x0E0 ∧ target ≠ 0x0EE
  | jp target | call target => target.toNat < 0x1000
  | seByte x _ | sneByte x _ | ldByte x _ | addByte x _ => x.toNat < 16
  | seReg x y | ldReg x y | orReg x y | andReg x y | xorReg x y | addReg x y =>
    x.toNat < 16 ∧ y.toNat < 16

/-! ## From words -/

theorem x_lt (w : UInt16) : (Word.x w).toNat < 16 := by
  rw [Word.toNat_x]
  omega

theorem y_lt (w : UInt16) : (Word.y w).toNat < 16 := by
  rw [Word.toNat_y]
  omega

theorem address_lt (w : UInt16) : (Word.address w).toNat < 0x1000 := by
  rw [Word.toNat_address]
  omega

theorem address_eq_self {w : UInt16} (h : Word.kind w = 0) : Word.address w = w := by
  apply UInt16.toNat_inj.1
  rw [Word.toNat_address]
  unfold Word.kind at h
  omega

theorem fits_and_encode_of_decode {w : UInt16} {inst : Instruction} (h : decode w = .ok inst) :
    inst.Fits ∧ inst.encode = w := by
  have ha := Word.ofAddress_kind_address w
  have hb := Word.ofRegisterByte_kind_x_low w
  have hr := Word.ofRegisters_kind_x_y_variant w
  unfold decode at h
  split at h
  next hk =>
    rw [hk] at ha
    split at h
    · cases h
      exact ⟨trivial, by simp [encode, *]⟩
    · split at h
      · cases h
        exact ⟨trivial, by simp [encode, *]⟩
      · cases h
        rw [address_eq_self hk] at ha ⊢
        refine ⟨⟨?_, by assumption, by assumption⟩, ha⟩
        unfold Word.kind at hk
        omega
  next hk => cases h; rw [hk] at ha; exact ⟨address_lt w, ha⟩
  next hk => cases h; rw [hk] at ha; exact ⟨address_lt w, ha⟩
  next hk => cases h; rw [hk] at hb; exact ⟨x_lt w, hb⟩
  next hk => cases h; rw [hk] at hb; exact ⟨x_lt w, hb⟩
  next hk =>
    split at h
    · next hv => cases h; rw [hk, hv] at hr; exact ⟨⟨x_lt w, y_lt w⟩, hr⟩
    · cases h
  next hk => cases h; rw [hk] at hb; exact ⟨x_lt w, hb⟩
  next hk => cases h; rw [hk] at hb; exact ⟨x_lt w, hb⟩
  next hk =>
    rw [hk] at hr
    split at h
    next hv => cases h; rw [hv] at hr; exact ⟨⟨x_lt w, y_lt w⟩, hr⟩
    next hv => cases h; rw [hv] at hr; exact ⟨⟨x_lt w, y_lt w⟩, hr⟩
    next hv => cases h; rw [hv] at hr; exact ⟨⟨x_lt w, y_lt w⟩, hr⟩
    next hv => cases h; rw [hv] at hr; exact ⟨⟨x_lt w, y_lt w⟩, hr⟩
    next hv => cases h; rw [hv] at hr; exact ⟨⟨x_lt w, y_lt w⟩, hr⟩
    · cases h
  · cases h

/-! ## To words -/

theorem decode_encode {inst : Instruction} (h : inst.Fits) : decode inst.encode = .ok inst := by
  have h0 : (0 : Nat) < 16 := by decide
  cases inst with
  | cls | ret => rfl
  | sys target =>
    obtain ⟨ht, h1, h2⟩ := h
    have he : Word.ofAddress 0x0 target = target := by
      apply UInt16.toNat_inj.1
      rw [Word.toNat_ofAddress (by decide)]
      omega
    have hk : Word.kind target = 0 := by
      unfold Word.kind
      omega
    simp [encode, decode, he, hk, h1, h2, address_eq_self hk]
  | jp target | call target =>
    simp [encode, decode, Word.kind_ofAddress, Word.address_ofAddress _ h]
  | seByte x byte | sneByte x byte | ldByte x byte | addByte x byte =>
    simp [encode, decode, Word.kind_ofRegisterByte, Word.x_ofRegisterByte _ h,
      Word.low_ofRegisterByte]
  | seReg x y | ldReg x y | orReg x y | andReg x y | xorReg x y | addReg x y =>
    simp [encode, decode, Word.kind_ofRegisters, Word.variant_ofRegisters,
      Word.x_ofRegisters _ _ h.1, Word.y_ofRegisters _ _ _ h.2]

/-- **Decoding and encoding undo each other** on the instructions that fit. -/
theorem decode_eq_ok_iff {w : UInt16} {inst : Instruction} :
    decode w = .ok inst ↔ inst.Fits ∧ inst.encode = w := by
  constructor
  · exact fits_and_encode_of_decode
  · rintro ⟨h, rfl⟩
    exact decode_encode h

/-! ## By the digits of the word -/

theorem ofAddress_eq_iff {k : Nat} (hk : k < 16) {w target : UInt16} :
    target.toNat < 0x1000 ∧ Word.ofAddress k target = w ↔
      Word.kind w = k ∧ target = Word.address w := by
  constructor
  · rintro ⟨ht, rfl⟩
    exact ⟨Word.kind_ofAddress hk target, (Word.address_ofAddress hk ht).symm⟩
  · rintro ⟨rfl, rfl⟩
    exact ⟨address_lt w, Word.ofAddress_kind_address w⟩

theorem decode_eq_ret_iff {w : UInt16} : decode w = .ok .ret ↔ w = 0x00EE := by
  rw [decode_eq_ok_iff]
  simp [Fits, encode, eq_comm]

theorem decode_eq_sys_iff {w target : UInt16} :
    decode w = .ok (.sys target) ↔
      (Word.kind w = 0 ∧ w ≠ 0x00E0 ∧ w ≠ 0x00EE) ∧ target = w := by
  have key : target.toNat < 0x1000 ∧ Word.ofAddress 0x0 target = w ↔
      Word.kind w = 0x0 ∧ target = Word.address w := ofAddress_eq_iff (by decide)
  rw [decode_eq_ok_iff]
  constructor
  · rintro ⟨⟨ht, h1, h2⟩, he⟩
    obtain ⟨hk, rfl⟩ := key.1 ⟨ht, he⟩
    rw [address_eq_self hk] at h1 h2
    exact ⟨⟨hk, h1, h2⟩, address_eq_self hk⟩
  · rintro ⟨⟨hk, h1, h2⟩, rfl⟩
    obtain ⟨ht, he⟩ := key.2 ⟨hk, (address_eq_self hk).symm⟩
    exact ⟨⟨ht, h1, h2⟩, he⟩

theorem decode_eq_jp_iff {w target : UInt16} :
    decode w = .ok (.jp target) ↔ Word.kind w = 1 ∧ target = Word.address w := by
  rw [decode_eq_ok_iff]
  exact ofAddress_eq_iff (by decide)

theorem decode_eq_call_iff {w target : UInt16} :
    decode w = .ok (.call target) ↔ Word.kind w = 2 ∧ target = Word.address w := by
  rw [decode_eq_ok_iff]
  exact ofAddress_eq_iff (by decide)

end Chip8.Instruction
