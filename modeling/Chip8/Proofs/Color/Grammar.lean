import Chip8.Proofs.Raw.Color

/-! # The grammar of colours

A text writes a colour if it is one of three marks and six digits behind it, and nothing else.
Everything else is refused as it was given.

* `marks`, `InGrammar`: the texts that write a colour; `Writes`: a text and the colour that it
  writes. `exists_writes_iff`: every text of the grammar writes one.
* `mark_append_unmarked`, `unmarked_append`: taking the mark off a text.
* `parse_eq_ok_iff`, `parse_of_not_inGrammar`: which texts are read. `spells_of_toLower`: the digits
  of a colour, in any letter case.
* `parse_follows_grammar`: the statement above. -/

namespace Chip8.Color

def marks : List String := ["", "0x", "#"]

/-- The text is a mark and six digits. -/
def InGrammar (text : String) : Prop :=
  ∃ mark ∈ marks, ∃ digits, text = mark ++ String.ofList digits ∧ SixDigits digits

/-- The text is a mark and the six digits of the colour. -/
def Writes (text : String) (c : Color) : Prop :=
  ∃ mark ∈ marks, ∃ digits, text = mark ++ String.ofList digits ∧ Spells digits c

variable {text mark : String} {digits : List Char} {c : Color}

theorem exists_writes_iff : (∃ c, Writes text c) ↔ InGrammar text := by
  constructor
  · rintro ⟨c, mark, hmark, digits, htext, hc⟩
    exact ⟨mark, hmark, digits, htext, hc.sixDigits⟩
  · rintro ⟨mark, hmark, digits, htext, hdigits⟩
    obtain ⟨c, hc⟩ := exists_spells_iff.2 hdigits
    exact ⟨c, mark, hmark, digits, htext, hc⟩

/-! ## Marks -/

theorem exists_mark (text : List Char) : ∃ mark ∈ marks, text = mark.toList ++ unmarked text := by
  unfold unmarked
  split
  · exact ⟨"0x", by decide, rfl⟩
  · exact ⟨"#", by decide, rfl⟩
  · exact ⟨"", by decide, rfl⟩

theorem mark_append_unmarked (text : String) :
    ∃ mark ∈ marks, text = mark ++ String.ofList (unmarked text.toList) := by
  obtain ⟨mark, hmark, htext⟩ := exists_mark text.toList
  refine ⟨mark, hmark, String.toList_inj.1 ?_⟩
  rw [String.toList_append, String.toList_ofList]
  exact htext

/-- No mark begins like digits do. -/
theorem unmarked_of_sixDigits (h : SixDigits digits) : unmarked digits = digits := by
  unfold unmarked
  split
  next rest =>
    obtain ⟨n, hn⟩ := h.2 'x' (by simp)
    cases Hex.digit?_of_isDigit hn
  next rest =>
    obtain ⟨n, hn⟩ := h.2 '#' (by simp)
    cases Hex.digit?_of_isDigit hn
  · rfl

theorem unmarked_append (hmark : mark ∈ marks) (h : SixDigits digits) :
    unmarked (mark ++ String.ofList digits).toList = digits := by
  rw [String.toList_append, String.toList_ofList]
  simp only [marks, List.mem_cons, List.not_mem_nil, or_false] at hmark
  rcases hmark with rfl | rfl | rfl
  · exact unmarked_of_sixDigits h
  · rfl
  · rfl

/-! ## Reading -/

theorem parse_eq_ok_iff : parse text = .ok c ↔ Writes text c := by
  constructor
  · intro h
    unfold parse at h
    split at h
    next c' hc =>
      obtain rfl := Except.ok.inj h
      obtain ⟨mark, hmark, htext⟩ := mark_append_unmarked text
      exact ⟨mark, hmark, _, htext, ofDigits?_eq_some_iff.1 hc⟩
    · cases h
  · rintro ⟨mark, hmark, digits, rfl, hc⟩
    rw [parse, unmarked_append hmark hc.sixDigits, ofDigits?_eq_some_iff.2 hc]

theorem input_of_parse {e : ParseError} (h : parse text = .error e) : e = ⟨text⟩ := by
  unfold parse at h
  split at h
  · cases h
  · exact (Except.error.inj h).symm

theorem parse_of_not_inGrammar (h : ¬InGrammar text) : parse text = .error ⟨text⟩ := by
  cases hp : parse text with
  | ok c => exact absurd (exists_writes_iff.1 ⟨c, parse_eq_ok_iff.1 hp⟩) h
  | error e => rw [input_of_parse hp]

theorem toList_ofBytes (c : Color) :
    (Hex.ofBytes [c.r, c.g, c.b]).toList =
      [(c.r.toNat / 16).digitChar, (c.r.toNat % 16).digitChar, (c.g.toNat / 16).digitChar,
        (c.g.toNat % 16).digitChar, (c.b.toNat / 16).digitChar, (c.b.toNat % 16).digitChar] := by
  rw [Hex.ofBytes, String.toList_ofList]
  simp only [List.flatMap_cons, List.flatMap_nil, Hex.digits_two]
  rfl

/-- The digits of a colour in any letter case. -/
theorem spells_of_toLower (h : digits.map Char.toLower = (Hex.ofBytes [c.r, c.g, c.b]).toList) :
    Spells digits c := by
  rw [toList_ofBytes] at h
  simp only [List.map_eq_cons_iff, List.map_eq_nil_iff] at h
  obtain ⟨r, -, rfl, hr, r', -, rfl, hr', g, -, rfl, hg, g', -, rfl, hg', b, -, rfl, hb, b', -, rfl,
    hb', rfl⟩ := h
  exact ⟨r, r', g, g', b, b', rfl, Hex.pairOf_of_toLower hr hr', Hex.pairOf_of_toLower hg hg',
    Hex.pairOf_of_toLower hb hb'⟩

/-- **A text is read as a colour exactly if it is in the grammar**, and then as the colour that it
writes. Everything else is refused as it was given, and no character is cut. -/
theorem parse_follows_grammar :
    (∀ text, (∃ c, parse text = .ok c) ↔ InGrammar text) ∧
    (∀ text c, parse text = .ok c ↔ Writes text c) ∧
    (∀ text, ¬InGrammar text → parse text = .error ⟨text⟩) ∧
    (∀ text, Raw.parseColor? text = some (parse text)) ∧
    ∀ (c : Color) (mark : String) (digits : List Char), mark ∈ marks →
      digits.map Char.toLower = (Hex.ofBytes [c.r, c.g, c.b]).toList →
      parse (mark ++ String.ofList digits) = .ok c := by
  refine ⟨fun text => ?_, fun text c => parse_eq_ok_iff, fun text => parse_of_not_inGrammar,
    Raw.raw_parse, fun c mark digits hmark hdigits => ?_⟩
  · rw [← exists_writes_iff]
    exact exists_congr fun c => parse_eq_ok_iff
  · exact parse_eq_ok_iff.2 ⟨mark, hmark, digits, rfl, spells_of_toLower hdigits⟩

/-- Three characters of two bytes each are no six digits, and digits may be in both cases. -/
theorem wide_characters_refused :
    ¬InGrammar "ééé" ∧ parse "ééé" = .error ⟨"ééé"⟩ ∧ "#" ∈ marks ∧
      ['f', 'F', '0', '0', 'a', 'A'].map Char.toLower = (Hex.ofBytes [0xFF, 0x00, 0xAA]).toList ∧
      parse "#fF00aA" = .ok ⟨0xFF, 0x00, 0xAA⟩ := by
  obtain ⟨hok, -, hrefused, -, hread⟩ := parse_follows_grammar
  have hwide : ¬InGrammar "ééé" := by
    rw [← hok]
    rintro ⟨c, hc⟩
    cases hc
  have hdigits : ['f', 'F', '0', '0', 'a', 'A'].map Char.toLower =
      (Hex.ofBytes [0xFF, 0x00, 0xAA]).toList := by decide
  exact ⟨hwide, hrefused _ hwide, by decide, hdigits,
    hread ⟨0xFF, 0x00, 0xAA⟩ "#" _ (by decide) hdigits⟩

end Chip8.Color
