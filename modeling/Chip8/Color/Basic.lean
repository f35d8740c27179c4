/-! # Colours

A colour is a byte each of red, green and blue. In a texture a pixel takes four bytes, a padding
byte and then blue, green and red.

* `texel`: the four bytes of a pixel; `texel_inj`.
* `texture`: the bytes of a row of pixels; `length_texture`. -/

namespace Chip8

structure Color where
  r : UInt8
  g : UInt8
  b : UInt8
  deriving DecidableEq

namespace Color

def black : Color := ⟨0, 0, 0⟩

def white : Color := ⟨255, 255, 255⟩

instance : Inhabited Color := ⟨black⟩

def texel (c : Color) : List UInt8 :=
  [0, c.b, c.g, c.r]

def texture (pixels : List Color) : List UInt8 :=
  pixels.flatMap texel

theorem length_texel (c : Color) : (texel c).length = 4 := rfl

theorem texel_inj {c d : Color} (h : c.texel = d.texel) : c = d := by
  cases c; cases d
  simp_all [texel]

theorem texture_cons (c : Color) (pixels : List Color) :
    texture (c :: pixels) = texel c ++ texture pixels := rfl

theorem length_texture (pixels : List Color) : (texture pixels).length = 4 * pixels.length := by
  induction pixels with
  | nil => rfl
  | cons c pixels ih =>
    rw [texture_cons, List.length_append, ih, length_texel, List.length_cons]
    omega

end Color

end Chip8
