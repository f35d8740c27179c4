import Chip8.Fault

/-! # The display

A picture of 64 by 32 pixels, each on or off, kept row by row. Pixels are named by column and row;
a name outside the picture is refused as it was given.

* `get`, `set`, `clear`: one pixel, and all of them at once; `get_of_set`, `get_clear`.
* `litCount`: how many pixels are on.
* `slot`: where a pixel is kept; `slot_lt`, `slot_inj`: no two pixels share a slot. -/

namespace Chip8

structure Display where
  pixels : Vector Bool 2048
  deriving DecidableEq

namespace Display

def width : Nat := 64

def height : Nat := 32

def new : Display := ⟨Vector.replicate 2048 false⟩

instance : Inhabited Display := ⟨new⟩

/-- Where the pixel in column `x` of row `y` is kept. -/
def slot (x y : Nat) : Nat := 64 * y + x

theorem slot_lt {x y : Nat} (h : x < 64 ∧ y < 32) : slot x y < 2048 := by
  unfold slot; omega

theorem slot_inj {x y x' y' : Nat} (hx : x < 64) (hx' : x' < 64) (h : slot x y = slot x' y') :
    x = x' ∧ y = y' := by
  unfold slot at h; omega

def get (d : Display) (x y : Nat) : Except Fault Bool :=
  if h : x < 64 ∧ y < 32 then
    have := slot_lt h
    .ok d.pixels[slot x y]
  else .error (.pixelOutOfRange x y)

def set (d : Display) (x y : Nat) (on : Bool) : Except Fault Display :=
  if h : x < 64 ∧ y < 32 then .ok ⟨d.pixels.set (slot x y) on (slot_lt h)⟩
  else .error (.pixelOutOfRange x y)

/-- Every pixel off. -/
def clear (_ : Display) : Display := new

/-- The pixels of row `y`, from the left. -/
def row (d : Display) (y : Nat) : List Bool :=
  (List.range width).map fun x => d.pixels[slot x y]?.getD false

def litCount (d : Display) : Nat :=
  d.pixels.toList.count true

/-- One line about the display as a whole. -/
def summary (d : Display) : String :=
  s!"Display \x7b lit: {d.litCount} \x7d"

theorem get_of_set {d d' : Display} {x y : Nat} {on : Bool} (h : d.set x y on = .ok d')
    (x' y' : Nat) : d'.get x' y' = if x' = x ∧ y' = y then .ok on else d.get x' y' := by
  unfold set at h
  split at h
  · rename_i hxy
    obtain rfl := Except.ok.inj h
    unfold get
    by_cases h' : x' < 64 ∧ y' < 32
    · simp only [dif_pos h', Vector.getElem_set]
      by_cases he : slot x y = slot x' y'
      · obtain ⟨rfl, rfl⟩ := slot_inj hxy.1 h'.1 he
        simp
      · rw [if_neg he, if_neg]
        rintro ⟨rfl, rfl⟩
        exact he rfl
    · rw [dif_neg h', dif_neg h', if_neg]
      rintro ⟨rfl, rfl⟩
      exact h' hxy
  · cases h

theorem get_clear (d : Display) {x y : Nat} (h : x < 64 ∧ y < 32) :
    d.clear.get x y = .ok false := by
  simp [get, clear, new, h]

end Display

end Chip8
