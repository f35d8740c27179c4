/-! # The built-in font

One picture of five rows for each hexadecimal digit, a byte a row, kept in the lowest addresses of
memory.

* `table`: the sixteen pictures in digit order; `length_table`.
* `spriteAddress d`: where the picture of `d` starts; `toNat_spriteAddress`. -/

namespace Chip8.Font

/-- The address of the first picture. -/
def start : UInt16 := 0x000

/-- The rows of a picture. -/
def glyphSize : UInt16 := 5

def table : List UInt8 :=
  [0xF0, 0x90, 0x90, 0x90, 0xF0, -- 0
   0x20, 0x60, 0x20, 0x20, 0x70, -- 1
   0xF0, 0x10, 0xF0, 0x80, 0xF0, -- 2
   0xF0, 0x10, 0xF0, 0x10, 0xF0, -- 3
   0x90, 0x90, 0xF0, 0x10, 0x10, -- 4
   0xF0, 0x80, 0xF0, 0x10, 0xF0, -- 5
   0xF0, 0x80, 0xF0, 0x90, 0xF0, -- 6
   0xF0, 0x10, 0x20, 0x40, 0x40, -- 7
   0xF0, 0x90, 0xF0, 0x90, 0xF0, -- 8
   0xF0, 0x90, 0xF0, 0x10, 0xF0, -- 9
   0xF0, 0x90, 0xF0, 0x90, 0x90, -- A
   0xE0, 0x90, 0xE0, 0x90, 0xE0, -- B
   0xF0, 0x80, 0x80, 0x80, 0xF0, -- C
   0xE0, 0x90, 0x90, 0x90, 0xE0, -- D
   0xF0, 0x80, 0xF0, 0x80, 0xF0, -- E
   0xF0, 0x80, 0xF0, 0x80, 0x80] -- F

theorem length_table : table.length = 80 := rfl

/-- Only the low four bits of the digit count. -/
def spriteAddress (digit : UInt8) : UInt16 :=
  start + (digit % 16).toUInt16 * glyphSize

theorem toNat_spriteAddress (digit : UInt8) :
    (spriteAddress digit).toNat = 5 * (digit.toNat % 16) := by
  simp [spriteAddress, start, glyphSize]
  omega

end Chip8.Font
