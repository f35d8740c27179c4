import Chip8.Color.Basic
import Chip8.Display.Basic

/-! # What a display looks like

* `text`: in characters, two to a pixel so that pixels are about square, and a line break after each
  row.
* `colors`: in two colours, row by row; `frame`: the same as the bytes of a texture. -/

namespace Chip8.Display

/-- A pixel that is on or off, in characters. -/
def pixelText (on : Bool) : List Char :=
  if on then ['█', '█'] else ['░', '░']

def rowText (d : Display) (y : Nat) : List Char :=
  (d.row y).flatMap pixelText ++ ['\n']

def text (d : Display) : String :=
  String.ofList ((List.range height).flatMap d.rowText)

def colors (d : Display) (foreground background : Color) : List Color :=
  d.pixels.toList.map fun on => if on then foreground else background

def frame (d : Display) (foreground background : Color) : List UInt8 :=
  Color.texture (d.colors foreground background)

theorem length_colors (d : Display) (fg bg : Color) : (d.colors fg bg).length = 2048 := by
  simp [colors]

theorem length_frame (d : Display) (fg bg : Color) : (d.frame fg bg).length = 8192 := by
  rw [frame, Color.length_texture, length_colors]

end Chip8.Display
