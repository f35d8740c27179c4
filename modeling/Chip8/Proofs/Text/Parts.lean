import Chip8.Hex

/-! # Parts of a text

A text that was put together from parts can be taken apart again if it is known how long the first
part is, as with numbers of a fixed width, or which characters it does not have.

* `OpensWithout p`: a text does not begin with a character of kind `p`; `append_inj_of_opens`: two
  first parts of such characters.
* `Hex.word_append_inj`, `Hex.byte_append_inj`: a word in four digits and a byte in two, and how long
  that is (`Hex.length_word`, `Hex.length_byte`).
  `Hex.comma_notMem_upper`: there is no comma in a number, so `Hex.upper_append_inj`.
* `repr_append_inj`: a decimal number. -/

namespace Chip8

variable {p : Char → Bool} {u v s t : String}

/-- The text does not begin with a character of kind `p`. -/
def OpensWithout (p : Char → Bool) (s : String) : Prop :=
  ∀ c ∈ s.toList.head?, p c = false

theorem opensWithout_append {mid : String} {c : Char} {cs : List Char} (hmid : mid.toList = c :: cs)
    (hc : p c = false) : OpensWithout p (mid ++ s) := by
  unfold OpensWithout
  rw [String.toList_append, hmid]
  intro a ha
  obtain rfl := Option.some.inj ha
  exact hc

/-- The first part is as long as its kind of characters goes on. -/
theorem takeWhile_append (hu : ∀ c ∈ u.toList, p c = true) (hs : OpensWithout p s) :
    (u ++ s).toList.takeWhile p = u.toList := by
  unfold OpensWithout at hs
  rw [String.toList_append, List.takeWhile_append_of_pos hu]
  cases hlist : s.toList with
  | nil => simp
  | cons c cs =>
    have hc := hs c (by simp [hlist])
    rw [List.takeWhile_cons_of_neg (by simp [hc]), List.append_nil]

theorem append_inj_of_opens (hu : ∀ c ∈ u.toList, p c = true) (hv : ∀ c ∈ v.toList, p c = true)
    (hs : OpensWithout p s) (ht : OpensWithout p t) (h : u ++ s = v ++ t) : u = v ∧ s = t := by
  have hfirst := takeWhile_append hu hs
  rw [h, takeWhile_append hv ht] at hfirst
  obtain rfl := String.toList_inj.1 hfirst
  exact ⟨rfl, (String.append_right_inj _).1 h⟩

theorem append_ne_empty {c : Char} {cs : List Char} (hu : u.toList = c :: cs) : u ++ s ≠ "" := by
  intro h
  have hlist := congrArg String.toList h
  rw [String.toList_append, hu] at hlist
  cases hlist

/-- Both first parts have a character at place `k`, and not the same. -/
theorem append_ne_append {k : Nat} {c d : Char} (hu : u.toList[k]? = some c)
    (hv : v.toList[k]? = some d) (hne : c ≠ d) : u ++ s ≠ v ++ t := by
  intro h
  have hlu : k < u.toList.length := (List.getElem?_eq_some_iff.1 hu).1
  have hlv : k < v.toList.length := (List.getElem?_eq_some_iff.1 hv).1
  have hplace := congrArg (fun text => text.toList[k]?) h
  simp only [String.toList_append, List.getElem?_append_left hlu, List.getElem?_append_left hlv, hu,
    hv, Option.some.injEq] at hplace
  exact hne hplace

/-! ## Hexadecimal numbers -/

namespace Hex

theorem length_word (w : UInt16) : (lower 4 w.toNat).length = 4 :=
  length_lower_of_lt (by decide) w.toNat_lt

theorem length_byte (b : UInt8) : (lower 2 b.toNat).length = 2 :=
  length_lower_of_lt (by decide) b.toNat_lt

theorem word_append_inj {v w : UInt16} (h : lower 4 v.toNat ++ s = lower 4 w.toNat ++ t) :
    v = w ∧ s = t := by
  obtain ⟨hnat, hrest⟩ := lower_append_inj (by decide) v.toNat_lt w.toNat_lt h
  exact ⟨UInt16.toNat_inj.1 hnat, hrest⟩

theorem word_inj {v w : UInt16} (h : lower 4 v.toNat = lower 4 w.toNat) : v = w :=
  UInt16.toNat_inj.1 (lower_inj h)

theorem byte_append_inj {b c : UInt8} (h : lower 2 b.toNat ++ s = lower 2 c.toNat ++ t) :
    b = c ∧ s = t := by
  obtain ⟨hnat, hrest⟩ := lower_append_inj (by decide) b.toNat_lt c.toNat_lt h
  exact ⟨UInt8.toNat_inj.1 hnat, hrest⟩

theorem isSome_digit?_of_mem {cs : List Char} {c : Char} {start n : Nat} (hc : c ∈ cs)
    (h : cs.foldlM (fun n c => (digit? c).map (16 * n + ·)) start = some n) :
    (digit? c).isSome := by
  induction cs generalizing start with
  | nil => cases hc
  | cons a cs ih =>
    rw [List.foldlM_cons, Option.bind_eq_bind, Option.bind_eq_some_iff] at h
    obtain ⟨next, hnext, hrest⟩ := h
    rcases List.mem_cons.1 hc with rfl | hc
    · rw [← Option.isSome_map, hnext]
      rfl
    · exact ih hc hrest

theorem comma_notMem_upper (n : Nat) : ',' ∉ (upper n).toList := by
  intro hc
  have hdigit := isSome_digit?_of_mem hc (value?_upper n)
  cases hdigit

/-- A number in capital digits ends where a text goes on with a comma. -/
theorem upper_append_inj {m n : Nat}
    (h : upper m ++ (", " ++ s) = upper n ++ (", " ++ t)) : m = n ∧ s = t := by
  have hdigits : ∀ k, ∀ c ∈ (upper k).toList, (c != ',') = true := by
    rintro k c hc
    rw [bne_iff_ne]
    rintro rfl
    exact comma_notMem_upper k hc
  have hcomma : ∀ u, OpensWithout (· != ',') (", " ++ u) := fun u => opensWithout_append rfl rfl
  obtain ⟨hupper, hrest⟩ :=
    append_inj_of_opens (hdigits m) (hdigits n) (hcomma s) (hcomma t) h
  exact ⟨upper_inj hupper, (String.append_right_inj _).1 hrest⟩

end Hex

/-! ## Decimal numbers -/

theorem eq_of_repr {m n : Nat} (h : m.repr = n.repr) : m = n := by
  have hvalue : ∀ k : Nat, Nat.ofDigitChars 10 k.repr.toList 0 = k := by
    intro k
    rw [Nat.toList_repr, Nat.ofDigitChars_toDigits (by decide) (by decide)]
  rw [← hvalue m, h, hvalue n]

/-- A decimal number ends where a text goes on with anything but a digit. -/
theorem repr_append_inj {m n : Nat} {mid s t : String} {c : Char} {cs : List Char}
    (hmid : mid.toList = c :: cs) (hc : c.isDigit = false)
    (h : m.repr ++ (mid ++ s) = n.repr ++ (mid ++ t)) : m = n ∧ s = t := by
  have hdigits : ∀ k : Nat, ∀ a ∈ k.repr.toList, a.isDigit = true := by
    intro k a ha
    rw [Nat.toList_repr] at ha
    exact Nat.isDigit_of_mem_toDigits (by decide) (by decide) ha
  obtain ⟨hrepr, hrest⟩ := append_inj_of_opens (hdigits m) (hdigits n)
    (opensWithout_append hmid hc) (opensWithout_append hmid hc) h
  exact ⟨eq_of_repr hrepr, (String.append_right_inj _).1 hrest⟩

end Chip8
