import Chip8.Proofs.Machine.Start
import Chip8.Proofs.Raw.Parts

/-! # What a write puts where

Whether it is of a byte, a word or a row of bytes, a write lays bytes over memory one after the
other. It is refused exactly if one of them would lie past the end, and then it puts none.

* `FitsAt`: a row of bytes does not run past the end; `fitsAt_iff`, `fitsAt_cons_iff`.
* `Command.start`, `Command.data`: the bytes of a write and the address of the first of them;
  `Command.Puts`: the write puts a byte at an address.
* `Command.Fits`, `Command.refusal`: when a write is done, and how it is refused otherwise;
  `Command.fits_write8`, `fits_write16`, `fits_loadRom`, `apply_eq`. `Command.exists_apply_iff`: it
  is done if each of its bytes exists.
* `read8_after_of_puts`, `read8_after_of_not_puts`: what is read after a write. -/

namespace Chip8.Memory

/-! ## Rows of bytes -/

/-- There is room for the bytes from `a` on. Where there are none, the address does not count. -/
def FitsAt (a : Nat) (data : List UInt8) : Prop := data = [] ∨ a + data.length ≤ 4096

instance (a : Nat) (data : List UInt8) : Decidable (FitsAt a data) := by
  unfold FitsAt; infer_instance

section

variable {a : Nat} {b : UInt8} {data : List UInt8}

theorem fitsAt_cons_iff : FitsAt a (b :: data) ↔ a < 4096 ∧ FitsAt (a + 1) data := by
  unfold FitsAt
  rw [List.length_cons]
  constructor
  · rintro (hnil | hle)
    · cases hnil
    · exact ⟨by omega, .inr (by omega)⟩
  · rintro ⟨ha, rfl | hle⟩
    · exact .inr (by rw [List.length_nil]; omega)
    · exact .inr (by omega)

theorem fitsAt_iff : FitsAt a data ↔ ∀ i < data.length, a + i < 4096 := by
  constructor
  · rintro (rfl | hle) i hi
    · cases hi
    · omega
  · intro h
    rcases Nat.eq_zero_or_pos data.length with h0 | hpos
    · exact .inl (List.eq_nil_of_length_eq_zero h0)
    · have hlast := h (data.length - 1) (by omega)
      exact .inr (by omega)

end

/-! ## Writes -/

namespace Command

/-- The address of the first byte. -/
def start : Command → Nat
  | write8 a _ | write16 a _ | load a _ => a.toNat
  | loadRom _ => programStart.toNat

def data : Command → List UInt8
  | write8 _ b => [b]
  | write16 _ w => Word.bytes w
  | load _ data => data
  | loadRom rom => rom

/-- The write puts `b` at address `a`, if it is done. -/
def Puts (c : Command) (a : Nat) (b : UInt8) : Prop :=
  ∃ i, c.data[i]? = some b ∧ a = c.start + i

def Fits (c : Command) : Prop := FitsAt c.start c.data

instance (c : Command) : Decidable c.Fits :=
  inferInstanceAs (Decidable (FitsAt c.start c.data))

def refusal : Command → Fault
  | write8 a _ | write16 a _ | load a _ => missing a
  | loadRom rom => .romTooLarge rom.length 3584

variable {c : Command} {a : Nat} {b b' : UInt8}

theorem Puts.unique (h : c.Puts a b) (h' : c.Puts a b') : b = b' := by
  obtain ⟨i, hi, rfl⟩ := h
  obtain ⟨j, hj, hij⟩ := h'
  obtain rfl : i = j := by omega
  exact Option.some.inj (hi.symm.trans hj)

theorem fits_iff : c.Fits ↔ ∀ a b, c.Puts a b → a < 4096 := by
  rw [Fits, fitsAt_iff]
  constructor
  · rintro h a b ⟨i, hi, rfl⟩
    exact h i (List.getElem?_eq_some_iff.1 hi).1
  · intro h i hi
    exact h _ _ ⟨i, List.getElem?_eq_getElem hi, rfl⟩

theorem fits_write8 {a : UInt16} : (write8 a b).Fits ↔ a.toNat < 4096 :=
  or_iff_right (List.cons_ne_nil _ _)

theorem fits_write16 {a w : UInt16} : (write16 a w).Fits ↔ a.toNat + 1 < 4096 :=
  or_iff_right (List.cons_ne_nil _ _)

theorem fits_loadRom {rom : List UInt8} : (loadRom rom).Fits ↔ rom.length ≤ 3584 := by
  have hstart : (loadRom rom).start = 512 := rfl
  rw [Fits, FitsAt, hstart, data]
  constructor
  · rintro (rfl | hle)
    · exact Nat.zero_le _
    · omega
  · intro hle
    exact .inr (by omega)

/-- **A write lays its bytes over memory or is refused.** -/
theorem apply_eq (c : Command) (m : Memory) :
    c.apply m = if c.Fits then .ok ⟨overlay m.bytes c.start c.data⟩ else .error c.refusal := by
  cases c with
  | write8 a b =>
    by_cases h : a.toNat < 4096
    · have hset : overlay m.bytes a.toNat [b] = m.bytes.set a.toNat b := by
        apply Vector.toList_inj.1
        rw [Vector.toList_set]
        simp [overlay]
      rw [if_pos (fits_write8.2 h), apply, Memory.write8, dif_pos h, start, data, hset]
    · rw [if_neg (mt fits_write8.1 h), apply, Memory.write8, dif_neg h, refusal]
  | write16 a w =>
    by_cases h : a.toNat + 1 < 4096
    · rw [if_pos (fits_write16.2 h), apply, Memory.write16, dif_pos h, start, data,
        overlay_bytes m w h]
    · rw [if_neg (mt fits_write16.1 h), apply, Memory.write16, dif_neg h, refusal]
  | load a data =>
    by_cases hnil : data = []
    · rw [if_pos (.inl hnil), hnil]
      rfl
    have hfits : (load a data).Fits ↔ a.toNat + data.length ≤ 4096 := or_iff_right hnil
    by_cases h : a.toNat + data.length ≤ 4096
    · rw [if_pos (hfits.2 h), apply, Memory.load, if_neg hnil, size, if_pos h]
      rfl
    · rw [if_neg (mt hfits.1 h), apply, Memory.load, if_neg hnil, size, if_neg h, refusal]
  | loadRom rom =>
    rw [apply, loadRom_eq]
    by_cases h : rom.length ≤ 3584
    · rw [if_pos h, if_pos (fits_loadRom.2 h)]
      rfl
    · rw [if_neg h, if_neg (mt fits_loadRom.1 h), refusal]

theorem exists_apply_iff_fits (m : Memory) : (∃ m', c.apply m = .ok m') ↔ c.Fits := by
  rw [apply_eq]
  by_cases h : c.Fits
  · rw [if_pos h]
    exact iff_of_true ⟨_, rfl⟩ h
  · rw [if_neg h]
    exact iff_of_false nofun h

/-- A write is done if each of the bytes that it puts exists. -/
theorem exists_apply_iff (m : Memory) :
    (∃ m', c.apply m = .ok m') ↔ ∀ a b, c.Puts a b → a < 4096 :=
  (exists_apply_iff_fits m).trans fits_iff

end Command

/-! ## Reading after a write -/

variable {m m' : Memory} {c : Command} {a : UInt16} {b : UInt8}

theorem read8_of_lt (m : Memory) (h : a.toNat < 4096) : m.read8 a = .ok m.bytes[a.toNat] :=
  dif_pos h

theorem eq_overlay_of_apply (h : c.apply m = .ok m') : m' = ⟨overlay m.bytes c.start c.data⟩ := by
  rw [Command.apply_eq] at h
  split at h
  · exact (Except.ok.inj h).symm
  · cases h

theorem read8_after_of_puts (ha : a.toNat < 4096) (h : c.apply m = .ok m') (hb : c.Puts a.toNat b) :
    (m.after c).read8 a = .ok b := by
  obtain ⟨i, hi, hai⟩ := hb
  rw [after_of_ok h, eq_overlay_of_apply h, read8_of_lt _ ha, getElem_overlay _ _ _ ha,
    if_pos (by omega), show a.toNat - c.start = i by omega, hi, Option.getD_some]

theorem read8_after_of_not_puts (ha : a.toNat < 4096)
    (h : ∀ m' b, c.apply m = .ok m' → ¬c.Puts a.toNat b) :
    (m.after c).read8 a = m.read8 a := by
  cases hc : c.apply m with
  | error f => rw [after_of_error hc]
  | ok m' =>
    rw [after_of_ok hc, eq_overlay_of_apply hc, read8_of_lt _ ha, read8_of_lt _ ha,
      getElem_overlay _ _ _ ha]
    split
    next hle =>
      cases hb : c.data[a.toNat - c.start]? with
      | none => rfl
      | some b => exact absurd ⟨_, hb, by omega⟩ (h m' b hc)
    next => rfl

end Chip8.Memory
