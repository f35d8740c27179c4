import Chip8.Display.Picture
import Chip8.Proofs.Blocks
import Chip8.Proofs.Run.Pixels

/-! # Where a pixel is shown

A picture in characters has 129 of them to a row, two to a pixel and the line break, and the bytes
of a texture come four to a pixel. So each pixel has its places in both, and each place belongs to
one pixel.

* `pixel`: whether a pixel is on; `get_eq`: only the pixels in the picture are read. `ext_pixel`:
  displays with the same pixels are the same.
* `length_text`, `getElem?_text`, `getElem?_text_break`: the characters of a picture.
* `toList_pixels`: the pixels row by row; `take_drop_frame`: the bytes of a texture. -/

namespace Chip8.Display

/-! ## Pixels -/

/-- The pixel in column `x` of row `y` is on. There is none outside of the picture. -/
def pixel (d : Display) (x y : Nat) : Bool :=
  d.pixels[slot x y]?.getD false

variable {d d' : Display} {x y k : Nat}

theorem get_eq (d : Display) (x y : Nat) :
    d.get x y = if x < 64 ∧ y < 32 then .ok (d.pixel x y) else .error (.pixelOutOfRange x y) := by
  unfold get
  by_cases h : x < 64 ∧ y < 32
  · rw [dif_pos h, if_pos h, pixel, Vector.getElem?_eq_getElem (slot_lt h), Option.getD_some]
  · rw [dif_neg h, if_neg h]

theorem lit_iff : d.Lit x y ↔ (x < 64 ∧ y < 32) ∧ d.pixel x y = true := by
  rw [Lit, get_eq]
  by_cases h : x < 64 ∧ y < 32
  · rw [if_pos h, Except.ok.injEq, and_iff_right h]
  · rw [if_neg h]
    exact iff_of_false nofun fun hlit => h hlit.1

instance (d : Display) (x y : Nat) : Decidable (d.Lit x y) :=
  decidable_of_iff _ lit_iff.symm

theorem ext_pixel (h : ∀ x < 64, ∀ y < 32, d.pixel x y = d'.pixel x y) : d = d' := by
  have hpixels : d.pixels = d'.pixels := by
    apply Vector.ext
    intro i hi
    have hslot : slot (i % 64) (i / 64) = i := Nat.div_add_mod i 64
    have hi' := h (i % 64) (Nat.mod_lt _ (by decide)) (i / 64) (by omega)
    rwa [pixel, pixel, hslot, Vector.getElem?_eq_getElem hi, Vector.getElem?_eq_getElem hi] at hi'
  cases d
  cases d'
  exact congrArg mk hpixels

/-! ## Characters -/

theorem row_eq (d : Display) (y : Nat) : d.row y = (List.range 64).map fun x => d.pixel x y := rfl

theorem getElem?_row (d : Display) (y : Nat) (hx : x < 64) :
    (d.row y)[x]? = some (d.pixel x y) := by
  rw [row_eq, List.getElem?_map, List.getElem?_range hx, Option.map_some]

theorem length_row (d : Display) (y : Nat) : (d.row y).length = 64 := by
  rw [row_eq, List.length_map, List.length_range]

theorem pixelText_eq (on : Bool) : pixelText on = List.replicate 2 (if on then '█' else '░') := by
  cases on <;> rfl

theorem length_pixelText (on : Bool) : (pixelText on).length = 2 := by
  rw [pixelText_eq, List.length_replicate]

theorem length_pixelTexts (d : Display) (y : Nat) :
    ((d.row y).flatMap pixelText).length = 128 := by
  rw [length_flatMap_of_length fun on _ => length_pixelText on, length_row]

theorem length_rowText (d : Display) (y : Nat) : (d.rowText y).length = 129 := by
  rw [rowText, List.length_append, length_pixelTexts, List.length_singleton]

theorem getElem?_rowText (d : Display) (y : Nat) (hx : x < 64) (hk : k < 2) :
    (d.rowText y)[2 * x + k]? = some (if d.pixel x y then '█' else '░') := by
  have hlength := d.length_pixelTexts y
  have hpixel : ((d.row y).flatMap pixelText)[2 * x + k]? = _ :=
    getElem?_flatMap_of_length (fun on _ => length_pixelText on) hk
  rw [rowText, List.getElem?_append_left (by omega), hpixel, getElem?_row d y hx, Option.bind_some,
    pixelText_eq, List.getElem?_replicate, if_pos hk]

theorem getElem?_rowText_break (d : Display) (y : Nat) : (d.rowText y)[128]? = some '\n' := by
  rw [rowText, ← d.length_pixelTexts y, List.getElem?_concat_length]

theorem toList_text (d : Display) : d.text.toList = (List.range 32).flatMap d.rowText :=
  String.toList_ofList

theorem length_text (d : Display) : d.text.length = 32 * 129 := by
  rw [← String.length_toList, toList_text,
    length_flatMap_of_length fun y _ => d.length_rowText y, List.length_range]

theorem getElem?_text (d : Display) (hx : x < 64) (hy : y < 32) (hk : k < 2) :
    d.text.toList[129 * y + 2 * x + k]? = some (if d.pixel x y then '█' else '░') := by
  rw [toList_text, Nat.add_assoc, getElem?_flatMap_of_length (fun y _ => d.length_rowText y)
    (by omega), List.getElem?_range hy, Option.bind_some, getElem?_rowText d y hx hk]

theorem getElem?_text_break (d : Display) (hy : y < 32) :
    d.text.toList[129 * y + 128]? = some '\n' := by
  rw [toList_text, getElem?_flatMap_of_length (fun y _ => d.length_rowText y) (by decide),
    List.getElem?_range hy, Option.bind_some, getElem?_rowText_break]

/-! ## Bytes -/

theorem getElem?_pixels (d : Display) (hx : x < 64) (hy : y < 32) :
    d.pixels.toList[64 * y + x]? = some (d.pixel x y) := by
  have hlt : 64 * y + x < 2048 := slot_lt ⟨hx, hy⟩
  rw [pixel, slot, Vector.getElem?_eq_getElem hlt]
  simp [hlt]

theorem toList_pixels (d : Display) : d.pixels.toList = (List.range 32).flatMap d.row := by
  apply List.ext_getElem?
  intro i
  rcases Nat.lt_or_ge i 2048 with hi | hi
  · have hx : i % 64 < 64 := Nat.mod_lt _ (by decide)
    have hy : i / 64 < 32 := by omega
    rw [← Nat.div_add_mod i 64, getElem?_pixels d hx hy,
      getElem?_flatMap_of_length (fun y _ => d.length_row y) hx, List.getElem?_range hy,
      Option.bind_some, getElem?_row d _ hx]
  · rw [List.getElem?_eq_none (by simpa using hi), List.getElem?_eq_none]
    rw [length_flatMap_of_length fun y _ => d.length_row y, List.length_range]
    exact hi

theorem take_drop_frame (d : Display) (fg bg : Color) (hx : x < 64) (hy : y < 32) :
    ((d.frame fg bg).drop (4 * (64 * y + x))).take 4 = (if d.pixel x y then fg else bg).texel := by
  have hcolor : (d.colors fg bg)[64 * y + x]? = some (if d.pixel x y then fg else bg) := by
    rw [colors, List.getElem?_map, getElem?_pixels d hx hy, Option.map_some]
  exact block_flatMap_of_length (fun c _ => Color.length_texel c) hcolor

end Chip8.Display
