import Chip8.Proofs.Color.Digit

/-! # Colours cut out of a text

A text is kept in bytes, of which a character takes up one to four. The digits of a colour are cut
out of it at fixed bytes, and a cut inside of a character, or past the end, aborts (`none`).

* `byteLength`: the bytes of a text; `split?`, `cut?`: a text in two, and a part of it.
  `split?_of_narrow`: where every character takes up one byte, this is `take` and `drop`.
* `radix16?`: a byte in hexadecimal, perhaps after a plus sign.
* `parseColor?`: the colour that a text writes; `raw_parse`: reading it never aborts. -/

namespace Chip8

namespace Raw

def byteLength : List Char → Nat
  | [] => 0
  | c :: text => c.utf8Size + byteLength text

/-- The first `n` bytes and the rest. -/
def split? : List Char → Nat → Option (List Char × List Char)
  | text, 0 => some ([], text)
  | [], _ + 1 => none
  | c :: text, n + 1 =>
    if c.utf8Size ≤ n + 1 then
      (split? text (n + 1 - c.utf8Size)).map fun (front, rest) => (c :: front, rest)
    else none

/-- The bytes from `start` to `stop`. -/
def cut? (text : List Char) (start stop : Nat) : Option (List Char) := do
  let (front, _) ← split? text stop
  let (_, part) ← split? front start
  return part

/-- The byte that a text writes, if it writes one. -/
def radix16? (text : List Char) : Option UInt8 :=
  let digits := match text with
    | '+' :: digits => digits
    | _ => text
  if digits = [] then none
  else match Hex.value? digits with
    | some n => if n < 256 then some (UInt8.ofNat n) else none
    | none => none

/-- The colour in three parts of two bytes. -/
def cutColor? (digits : List Char) (e : Color.ParseError) :
    Option (Except Color.ParseError Color) := do
  let some r := radix16? (← cut? digits 0 2) | return .error e
  let some g := radix16? (← cut? digits 2 4) | return .error e
  let some b := radix16? (← cut? digits 4 6) | return .error e
  return .ok ⟨r, g, b⟩

def parseColor? (text : String) : Option (Except Color.ParseError Color) :=
  let digits := Color.unmarked text.toList
  if byteLength digits = 6 ∧ digits.all (fun d => (Hex.digit? d).isSome) then
    cutColor? digits ⟨text⟩
  else some (.error ⟨text⟩)

/-! ## Texts of narrow characters -/

variable {text : List Char} {n : Nat}

theorem split?_of_narrow (h : ∀ c ∈ text, c.utf8Size = 1) (hn : n ≤ text.length) :
    split? text n = some (text.take n, text.drop n) := by
  induction text generalizing n with
  | nil =>
    obtain rfl := Nat.le_zero.1 hn
    rfl
  | cons c text ih =>
    cases n with
    | zero => rfl
    | succ n =>
      have hc : c.utf8Size = 1 := h c (List.mem_cons_self)
      have hrest := ih (fun d hd => h d (List.mem_cons_of_mem c hd)) (Nat.le_of_succ_le_succ hn)
      rw [split?, hc, if_pos (Nat.le_add_left 1 n), Nat.add_sub_cancel, hrest]
      rfl

theorem cut?_append (front part rest : List Char)
    (h : ∀ c ∈ front ++ part ++ rest, c.utf8Size = 1) :
    cut? (front ++ part ++ rest) front.length (front.length + part.length) = some part := by
  have hfront : ∀ c ∈ front ++ part, c.utf8Size = 1 := fun c hc => h c (List.mem_append_left _ hc)
  have hstop : split? (front ++ part ++ rest) (front.length + part.length) =
      some (front ++ part, rest) := by
    rw [← List.length_append, split?_of_narrow h (by simp), List.take_left, List.drop_left]
  have hstart : split? (front ++ part) front.length = some (front, part) := by
    rw [split?_of_narrow hfront (by simp), List.take_left, List.drop_left]
  simp only [cut?, hstop, hstart, Option.bind_eq_bind, Option.bind_some]
  rfl

theorem byteLength_of_narrow (h : ∀ c ∈ text, c.utf8Size = 1) : byteLength text = text.length := by
  induction text with
  | nil => rfl
  | cons c text ih =>
    have hc : c.utf8Size = 1 := h c (List.mem_cons_self)
    have hrest := ih fun d hd => h d (List.mem_cons_of_mem c hd)
    rw [byteLength, hrest, hc, List.length_cons, Nat.add_comm]

theorem radix16?_of_pairOf {high low : Char} {b : UInt8} (h : Hex.PairOf high low b) :
    radix16? [high, low] = some b := by
  obtain ⟨h, l, hh, hl, hb⟩ := h
  have hsign : high ≠ '+' := by
    rintro rfl
    cases Hex.digit?_of_isDigit hh
  have hvalue : Hex.value? [high, low] = some (16 * h + l) := by
    simp [Hex.value?, Hex.digit?_of_isDigit hh, Hex.digit?_of_isDigit hl]
  have hlt : 16 * h + l < 256 := hb ▸ b.toNat_lt
  unfold radix16?
  split
  next heq => exact absurd (List.cons.inj heq).1 hsign
  next =>
    rw [if_neg (List.cons_ne_nil _ _), hvalue]
    simp only [if_pos hlt]
    rw [← hb, UInt8.ofNat_toNat]

/-! ## Colours -/

theorem narrow_of_digits (h : ∀ d ∈ text, ∃ n, Hex.IsDigit d n) : ∀ c ∈ text, c.utf8Size = 1 := by
  intro c hc
  obtain ⟨n, hn⟩ := h c hc
  exact hn.utf8Size

theorem passes_iff_sixDigits :
    (byteLength text = 6 ∧ text.all (fun d => (Hex.digit? d).isSome)) ↔ Color.SixDigits text := by
  simp only [List.all_eq_true, Option.isSome_iff_exists, Hex.digit?_eq_some_iff, Color.SixDigits]
  refine and_congr_left fun hdigits => ?_
  rw [byteLength_of_narrow (narrow_of_digits hdigits)]

theorem cutColor?_of_spells {c : Color} (h : Color.Spells text c) (e : Color.ParseError) :
    cutColor? text e = some (.ok c) := by
  have hnarrow := narrow_of_digits h.sixDigits.2
  obtain ⟨r, r', g, g', b, b', rfl, hr, hg, hb⟩ := h
  have hred : cut? [r, r', g, g', b, b'] 0 2 = some [r, r'] :=
    cut?_append [] [r, r'] [g, g', b, b'] hnarrow
  have hgreen : cut? [r, r', g, g', b, b'] 2 4 = some [g, g'] :=
    cut?_append [r, r'] [g, g'] [b, b'] hnarrow
  have hblue : cut? [r, r', g, g', b, b'] 4 6 = some [b, b'] :=
    cut?_append [r, r', g, g'] [b, b'] [] hnarrow
  simp [cutColor?, hred, hgreen, hblue, radix16?_of_pairOf hr, radix16?_of_pairOf hg,
    radix16?_of_pairOf hb]

theorem raw_parse (text : String) : parseColor? text = some (Color.parse text) := by
  unfold parseColor? Color.parse
  by_cases h : Color.SixDigits (Color.unmarked text.toList)
  · obtain ⟨c, hc⟩ := Color.exists_spells_iff.2 h
    rw [if_pos (passes_iff_sixDigits.2 h), cutColor?_of_spells hc,
      Color.ofDigits?_eq_some_iff.2 hc]
  · have hnone : Color.ofDigits? (Color.unmarked text.toList) = none := by
      cases hc : Color.ofDigits? (Color.unmarked text.toList) with
      | none => rfl
      | some c => exact absurd (Color.ofDigits?_eq_some_iff.1 hc).sixDigits h
    rw [if_neg (mt passes_iff_sixDigits.1 h), hnone]

end Raw

end Chip8
