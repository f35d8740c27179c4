import Mathlib.Algebra.BigOperators.Intervals
import Chip8.Proofs.Display.Layout

/-! # Views of a display

A display can be read pixel by pixel, in characters, as the bytes of a texture and as a count, and
all of these say the same. Characters and bytes leave nothing out.

* `exists_get_iff`, `exists_set_iff`: the pixels that there are.
* `litPlaces`: where the pixels that are on are; `litCount_eq_card`: the count.
* `text_inj`, `frame_inj`: displays that look the same are the same.
* `views_agree`: the statement above. -/

namespace Chip8.Display

variable {d d' : Display} {x y : Nat} {on : Bool} {fg bg : Color}

/-! ## Which pixels there are -/

theorem exists_ok_iff {α : Type} {p : Prop} [Decidable p] {v : p → α} {f : Fault} :
    (∃ a, (if h : p then .ok (v h) else .error f) = (.ok a : Except Fault α)) ↔ p := by
  by_cases h : p
  · rw [dif_pos h]
    exact iff_of_true ⟨_, rfl⟩ h
  · rw [dif_neg h]
    exact iff_of_false nofun h

theorem exists_get_iff : (∃ on, d.get x y = .ok on) ↔ x < 64 ∧ y < 32 :=
  exists_ok_iff

theorem exists_set_iff : (∃ d', d.set x y on = .ok d') ↔ x < 64 ∧ y < 32 :=
  exists_ok_iff

theorem refused_of_out_of_range (d : Display) (h : ¬(x < 64 ∧ y < 32)) (on : Bool) :
    d.get x y = .error (.pixelOutOfRange x y) ∧ d.set x y on = .error (.pixelOutOfRange x y) ∧
      d.after (.set x y on) = d := by
  have hset : d.set x y on = .error (.pixelOutOfRange x y) := dif_neg h
  refine ⟨?_, hset, after_of_error hset⟩
  rw [get_eq, if_neg h]

/-! ## The count -/

theorem count_map_range (f : Nat → Bool) (n : Nat) :
    ((List.range n).map f).count true = ∑ i ∈ Finset.range n, if f i = true then 1 else 0 := by
  induction n with
  | zero => rfl
  | succ n ih =>
    have hlast : [f n].count true = if f n = true then 1 else 0 := by cases f n <;> rfl
    rw [List.range_succ, List.map_append, List.count_append, ih, Finset.sum_range_succ,
      List.map_singleton, hlast]

/-- The columns and rows of the pixels that are on. -/
def litPlaces (d : Display) : Finset (Nat × Nat) :=
  (Finset.range 64 ×ˢ Finset.range 32).filter fun p => d.Lit p.1 p.2

theorem mem_litPlaces {p : Nat × Nat} : p ∈ d.litPlaces ↔ d.get p.1 p.2 = .ok true := by
  rw [litPlaces, Finset.mem_filter, Finset.mem_product, Finset.mem_range, Finset.mem_range]
  exact and_iff_right_of_imp fun h => (lit_iff.1 h).1

theorem litCount_eq_card (d : Display) : d.litCount = d.litPlaces.card := by
  have hrow : ∀ y ∈ Finset.range 32, (d.row y).count true =
      ∑ x ∈ Finset.range 64, if d.Lit x y then 1 else 0 := by
    intro y hy
    rw [row_eq, count_map_range]
    refine Finset.sum_congr rfl fun x hx => ?_
    rw [Finset.mem_range] at hx hy
    simp only [lit_iff, hx, hy, and_self, true_and]
  have hrows : ((List.range 32).map fun y => (d.row y).count true).sum =
      ∑ y ∈ Finset.range 32, (d.row y).count true := rfl
  rw [litCount, toList_pixels, List.count_flatMap, litPlaces, Finset.card_filter,
    Finset.sum_product_right]
  exact hrows.trans (Finset.sum_congr rfl hrow)

/-! ## Telling displays apart -/

theorem eq_of_ite_eq {α : Type} {a b : α} {p q : Bool} (hne : a ≠ b)
    (h : (if p then a else b) = if q then a else b) : p = q := by
  cases p <;> cases q
  · rfl
  · exact absurd h.symm hne
  · exact absurd h hne
  · rfl

theorem text_inj : d.text = d'.text ↔ d = d' := by
  constructor
  · intro h
    apply ext_pixel
    intro x hx y hy
    have hchar := getElem?_text d hx hy (k := 0) (by decide)
    rw [h, getElem?_text d' hx hy (by decide), Option.some.injEq] at hchar
    exact eq_of_ite_eq (by decide) hchar.symm
  · rintro rfl
    rfl

theorem frame_inj (hne : fg ≠ bg) : d.frame fg bg = d'.frame fg bg ↔ d = d' := by
  constructor
  · intro h
    apply ext_pixel
    intro x hx y hy
    have hbytes := take_drop_frame d fg bg hx hy
    rw [h, take_drop_frame d' fg bg hx hy] at hbytes
    exact eq_of_ite_eq hne (Color.texel_inj hbytes).symm
  · rintro rfl
    rfl

/-- **The views of a display agree** with each other at every pixel, and each of them tells all
displays apart. -/
theorem views_agree (d : Display) :
    (∀ x y on, ((∃ on, d.get x y = .ok on) ↔ x < 64 ∧ y < 32) ∧
      ((∃ d', d.set x y on = .ok d') ↔ x < 64 ∧ y < 32) ∧
      (¬(x < 64 ∧ y < 32) → d.get x y = .error (.pixelOutOfRange x y) ∧
        d.set x y on = .error (.pixelOutOfRange x y) ∧ d.after (.set x y on) = d)) ∧
    (d.text.length = 32 * 129 ∧ ∀ y < 32, d.text.toList[129 * y + 128]? = some '\n') ∧
    (∀ fg bg, (d.frame fg bg).length = 8192) ∧
    (∀ x < 64, ∀ y < 32, ∃ on, d.get x y = .ok on ∧
      d.text.toList[129 * y + 2 * x]? = some (if on then '█' else '░') ∧
      d.text.toList[129 * y + 2 * x + 1]? = some (if on then '█' else '░') ∧
      ∀ fg bg c : Color, c = (if on then fg else bg) →
        ((d.frame fg bg).drop (4 * (64 * y + x))).take 4 = [0, c.b, c.g, c.r]) ∧
    (∀ p, p ∈ d.litPlaces ↔ d.get p.1 p.2 = .ok true) ∧
    d.summary = "Display \x7b lit: " ++ toString d.litPlaces.card ++ " \x7d" ∧
    ∀ d' : Display, (d = d' ↔ d.text = d'.text) ∧
      (d = d' ↔ ∃ fg bg, fg ≠ bg ∧ d.frame fg bg = d'.frame fg bg) ∧
      (d = d' ↔ ∀ fg bg, fg ≠ bg → d.frame fg bg = d'.frame fg bg) := by
  have hne : Color.white ≠ Color.black := by decide
  refine ⟨fun x y on => ⟨exists_get_iff, exists_set_iff, fun h => d.refused_of_out_of_range h on⟩,
    ⟨d.length_text, fun y => d.getElem?_text_break⟩, d.length_frame, fun x hx y hy => ?_,
    fun p => mem_litPlaces, ?_, fun d' => ⟨text_inj.symm, ⟨?_, ?_⟩, ⟨?_, ?_⟩⟩⟩
  · refine ⟨d.pixel x y, ?_, d.getElem?_text hx hy (k := 0) (by decide),
      d.getElem?_text hx hy (k := 1) (by decide), ?_⟩
    · rw [get_eq, if_pos ⟨hx, hy⟩]
    · rintro fg bg c rfl
      exact d.take_drop_frame fg bg hx hy
  · rw [← litCount_eq_card]
    rfl
  · rintro rfl
    exact ⟨_, _, hne, rfl⟩
  · rintro ⟨fg, bg, hfb, h⟩
    exact (frame_inj hfb).1 h
  · rintro rfl fg bg -
    rfl
  · intro h
    exact (frame_inj hne).1 (h _ _ hne)

/-- The last pixel is on. The one behind it in its row would be the first of another row. -/
theorem last_pixel_in_every_view :
    ∃ d, new.set 63 31 true = .ok d ∧ d.get 63 31 = .ok true ∧ 63 < 64 ∧ 31 < 32 ∧
      d.text.toList[4125]? = some '█' ∧
      ((d.frame ⟨0x11, 0x22, 0x33⟩ Color.black).drop 8188).take 4 = [0, 0x33, 0x22, 0x11] ∧
      ¬(64 < 64 ∧ 30 < 32) ∧ slot 64 30 = slot 0 31 ∧
      d.get 64 30 = .error (.pixelOutOfRange 64 30) ∧
      Color.white ≠ Color.black ∧
      d.frame Color.white Color.black ≠ new.frame Color.white Color.black := by
  have hset : new.set 63 31 true = .ok _ := dif_pos (by decide)
  generalize hd : (⟨new.pixels.set (slot 63 31) true (slot_lt (by decide))⟩ : Display) = d at hset
  have hget : d.get 63 31 = .ok true := by rw [get_of_set hset, if_pos ⟨rfl, rfl⟩]
  obtain ⟨hrange, -, -, hshown, -, -, hsame⟩ := views_agree d
  obtain ⟨on, hon, hleft, -, hframe⟩ := hshown 63 (by decide) 31 (by decide)
  obtain rfl := Except.ok.inj (hget.symm.trans hon)
  refine ⟨d, hset, hget, by decide, by decide, hleft, hframe _ _ _ rfl, by decide, rfl,
    ((hrange 64 30 true).2.2 (by decide)).1, by decide, fun h => ?_⟩
  have hnew : d = new := (hsame new).2.1.2 ⟨_, _, by decide, h⟩
  have hoff : d.get 63 31 = .ok false := hnew ▸ new.get_clear (by decide)
  cases hoff.symm.trans hget

end Chip8.Display
