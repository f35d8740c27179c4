import Chip8.Color.Text

/-! # Hexadecimal digits

A digit is one of sixteen characters, or one of sixteen others for the same numbers with the letters
in capitals. A byte takes two of them and a colour six.

* `Hex.IsDigit`: a character is a digit for a number; `Hex.digit?_eq_some_iff`: these are the digits
  that are read. `Hex.digit?_toLower`: it does not count whether a letter is a capital.
  `Hex.IsDigit.utf8Size`: a digit takes up one byte of a text.
* `Hex.PairOf`: two digits for a byte; `Hex.byte?_eq_some_iff`. `Hex.pairOf_of_toLower`: a byte is
  written so.
* `Color.SixDigits`: the texts that are six digits; `Color.Spells`: six digits for a colour.
  `Color.ofDigits?_eq_some_iff`: these are the texts that are read as a colour;
  `Color.exists_spells_iff`: every text of six digits is. -/

namespace Chip8

namespace Hex

/-- The character is the digit for `n`. -/
def IsDigit (c : Char) (n : Nat) : Prop :=
  "0123456789abcdef".toList[n]? = some c ∨ "0123456789ABCDEF".toList[n]? = some c

instance (c : Char) (n : Nat) : Decidable (IsDigit c n) := by
  unfold IsDigit; infer_instance

variable {c last high low : Char} {n : Nat} {b : UInt8}

/-! ## Reading a digit -/

/-- What holds of each of the first 128 characters. -/
theorem forall_ascii {P : Char → Prop} (h : ∀ k : Fin 128, P (Char.ofNat k)) (hc : c.toNat < 128) :
    P c := by
  have hk := h ⟨c.toNat, hc⟩
  rwa [Char.ofNat_toNat] at hk

theorem not_le_of_ge (h : 128 ≤ c.toNat) (hlast : last.toNat < 128) : ¬c ≤ last := by
  intro hle
  have hval : c.toNat ≤ last.toNat := hle
  omega

theorem digit?_of_ge (h : 128 ≤ c.toNat) : digit? c = none := by
  unfold digit?
  rw [if_neg fun hc => not_le_of_ge h (by decide) hc.2,
    if_neg fun hc => not_le_of_ge h (by decide) hc.2,
    if_neg fun hc => not_le_of_ge h (by decide) hc.2]

theorem isDigit_of_digit? (h : digit? c = some n) : IsDigit c n := by
  have hascii : ∀ k : Fin 128,
      (digit? (Char.ofNat k)).all (fun n => IsDigit (Char.ofNat k) n) = true := by decide
  rcases Nat.lt_or_ge c.toNat 128 with hc | hc
  · have hall := forall_ascii (P := fun c => (digit? c).all (fun n => IsDigit c n) = true) hascii hc
    rw [h] at hall
    exact of_decide_eq_true hall
  · rw [digit?_of_ge hc] at h
    cases h

theorem digit?_of_isDigit (h : IsDigit c n) : digit? c = some n := by
  have hboth : ∀ k : Fin 16, digit? "0123456789abcdef".toList[k] = some k.val ∧
      digit? "0123456789ABCDEF".toList[k] = some k.val := by decide
  rcases h with h | h
  · obtain ⟨hn, rfl⟩ := List.getElem?_eq_some_iff.1 h
    exact (hboth ⟨n, hn⟩).1
  · obtain ⟨hn, rfl⟩ := List.getElem?_eq_some_iff.1 h
    exact (hboth ⟨n, hn⟩).2

theorem digit?_eq_some_iff : digit? c = some n ↔ IsDigit c n :=
  ⟨isDigit_of_digit?, digit?_of_isDigit⟩

theorem IsDigit.lt (h : IsDigit c n) : n < 16 := by
  rcases h with h | h
  · exact (List.getElem?_eq_some_iff.1 h).1
  · exact (List.getElem?_eq_some_iff.1 h).1

theorem IsDigit.utf8Size (h : IsDigit c n) : c.utf8Size = 1 := by
  rcases Nat.lt_or_ge c.toNat 128 with hc | hc
  · exact Char.utf8Size_eq_one_iff.2 (Nat.lt_succ_iff.1 hc)
  · rw [← digit?_eq_some_iff, digit?_of_ge hc] at h
    cases h

theorem digit?_toLower (c : Char) : digit? c.toLower = digit? c := by
  have hascii : ∀ k : Fin 128, digit? (Char.ofNat k).toLower = digit? (Char.ofNat k) := by decide
  rcases Nat.lt_or_ge c.toNat 128 with hc | hc
  · exact forall_ascii (P := fun c => digit? c.toLower = digit? c) hascii hc
  · exact congrArg digit? (dif_neg fun h => not_le_of_ge hc (by decide) h.2)

/-! ## Bytes -/

/-- The characters are the digits for the byte. -/
def PairOf (high low : Char) (b : UInt8) : Prop :=
  ∃ h l, IsDigit high h ∧ IsDigit low l ∧ b.toNat = 16 * h + l

theorem byte?_of_isDigit {h l : Nat} (hh : IsDigit high h) (hl : IsDigit low l) :
    byte? high low = some (UInt8.ofNat (16 * h + l)) ∧
      (UInt8.ofNat (16 * h + l)).toNat = 16 * h + l := by
  have := hh.lt
  have := hl.lt
  refine ⟨?_, by simp; omega⟩
  rw [byte?, digit?_eq_some_iff.2 hh, digit?_eq_some_iff.2 hl]
  rfl

theorem byte?_eq_some_iff : byte? high low = some b ↔ PairOf high low b := by
  constructor
  · intro hb
    cases hh : digit? high with
    | none => simp [byte?, hh] at hb
    | some h =>
      cases hl : digit? low with
      | none => simp [byte?, hh, hl] at hb
      | some l =>
        rw [digit?_eq_some_iff] at hh hl
        obtain ⟨hbyte, htoNat⟩ := byte?_of_isDigit hh hl
        obtain rfl := Option.some.inj (hbyte.symm.trans hb)
        exact ⟨h, l, hh, hl, htoNat⟩
  · rintro ⟨h, l, hh, hl, hb⟩
    obtain ⟨hbyte, htoNat⟩ := byte?_of_isDigit hh hl
    rw [hbyte, UInt8.toNat_inj.1 (htoNat.trans hb.symm)]

theorem digits_two (b : UInt8) :
    digits 2 b.toNat = [(b.toNat / 16).digitChar, (b.toNat % 16).digitChar] := by
  have hlt := b.toNat_lt
  unfold digits
  by_cases h : b.toNat < 16
  · rw [Nat.toDigits_of_lt_base h, Nat.div_eq_of_lt h, Nat.mod_eq_of_lt h]
    rfl
  · rw [Nat.toDigits_of_base_le (by decide) (Nat.not_lt.1 h),
      Nat.toDigits_of_lt_base (show b.toNat / 16 < 16 by omega)]
    rfl

theorem pairOf_of_toLower (hhigh : high.toLower = (b.toNat / 16).digitChar)
    (hlow : low.toLower = (b.toNat % 16).digitChar) : PairOf high low b := by
  have hlt := b.toNat_lt
  have hh := digit?_digitChar (d := b.toNat / 16) (by omega)
  have hl := digit?_digitChar (d := b.toNat % 16) (Nat.mod_lt _ (by decide))
  rw [← hhigh, digit?_toLower, digit?_eq_some_iff] at hh
  rw [← hlow, digit?_toLower, digit?_eq_some_iff] at hl
  exact ⟨_, _, hh, hl, by omega⟩

end Hex

/-! ## Colours -/

namespace Color

open Hex

def SixDigits (text : List Char) : Prop :=
  text.length = 6 ∧ ∀ d ∈ text, ∃ n, IsDigit d n

/-- The text is six digits, two each for red, green and blue. -/
def Spells (text : List Char) (c : Color) : Prop :=
  ∃ r r' g g' b b', text = [r, r', g, g', b, b'] ∧ PairOf r r' c.r ∧ PairOf g g' c.g ∧
    PairOf b b' c.b

variable {text : List Char} {c : Color}

theorem Spells.sixDigits (h : Spells text c) : SixDigits text := by
  obtain ⟨r, r', g, g', b, b', rfl, ⟨_, _, hr, hr', -⟩, ⟨_, _, hg, hg', -⟩, _, _, hb, hb', -⟩ := h
  refine ⟨rfl, ?_⟩
  simp only [List.forall_mem_cons]
  exact ⟨⟨_, hr⟩, ⟨_, hr'⟩, ⟨_, hg⟩, ⟨_, hg'⟩, ⟨_, hb⟩, ⟨_, hb'⟩, nofun⟩

theorem exists_pairOf {high low : Char} (hh : ∃ n, IsDigit high n) (hl : ∃ n, IsDigit low n) :
    ∃ b, PairOf high low b := by
  obtain ⟨h, hh⟩ := hh
  obtain ⟨l, hl⟩ := hl
  exact ⟨_, h, l, hh, hl, (byte?_of_isDigit hh hl).2⟩

theorem exists_spells_iff : (∃ c, Spells text c) ↔ SixDigits text := by
  constructor
  · rintro ⟨c, h⟩
    exact h.sixDigits
  · rintro ⟨hlength, hdigits⟩
    match text, hlength with
    | [r, r', g, g', b, b'], _ =>
      simp only [List.forall_mem_cons] at hdigits
      obtain ⟨hr, hr', hg, hg', hb, hb', -⟩ := hdigits
      obtain ⟨red, hred⟩ := exists_pairOf hr hr'
      obtain ⟨green, hgreen⟩ := exists_pairOf hg hg'
      obtain ⟨blue, hblue⟩ := exists_pairOf hb hb'
      exact ⟨⟨red, green, blue⟩, r, r', g, g', b, b', rfl, hred, hgreen, hblue⟩

theorem ofDigits?_eq_some_iff : ofDigits? text = some c ↔ Spells text c := by
  constructor
  · intro h
    unfold ofDigits? at h
    split at h
    next r r' g g' b b' =>
      simp only [Option.bind_eq_bind, Option.bind_eq_some_iff, byte?_eq_some_iff] at h
      obtain ⟨red, hred, green, hgreen, blue, hblue, hc⟩ := h
      cases hc
      exact ⟨r, r', g, g', b, b', rfl, hred, hgreen, hblue⟩
    · cases h
  · rintro ⟨r, r', g, g', b, b', rfl, hr, hg, hb⟩
    simp only [ofDigits?, byte?_eq_some_iff.2 hr, byte?_eq_some_iff.2 hg, byte?_eq_some_iff.2 hb]
    rfl

end Color

end Chip8
