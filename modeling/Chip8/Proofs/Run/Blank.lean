import Chip8.Display.Picture
import Chip8.Proofs.Run.Pixels
import Chip8.Proofs.Run.Ticks

/-! # Blank displays

No instruction turns a pixel on, so a display that is blank stays blank, however long the machine
runs.

* `Machine.display_tick_of_blank`, `Machine.display_afterTicks_of_blank`: the statement above.
* `Display.text_new`, `Display.frame_new`: a blank display in characters, and as the bytes of a
  texture. The second is the same for every foreground. -/

namespace Chip8

namespace Display

/-- A blank display in characters. -/
def blankText : String :=
  String.join (List.replicate 32 (String.ofList (List.replicate 128 '░') ++ "\n"))

/-- The bytes of a texture that is one colour all over. -/
def plainFrame (c : Color) : List UInt8 :=
  (List.replicate 2048 [0, c.b, c.g, c.r]).flatten

theorem length_plainFrame (c : Color) : (plainFrame c).length = 8192 := by
  rw [plainFrame, List.length_flatten, List.map_replicate, List.sum_replicate_nat]
  rfl

theorem row_new (y : Nat) : new.row y = List.replicate 64 false := by
  have hoff : ∀ i : Nat, (new.pixels[i]?).getD false = false := by
    intro i
    rw [new, Vector.getElem?_replicate]
    split_ifs <;> rfl
  have hrow : new.row y = (List.range 64).map fun _ => false :=
    List.map_congr_left fun x _ => hoff (slot x y)
  rw [hrow, List.map_const', List.length_range]

theorem rowText_new (y : Nat) : new.rowText y = List.replicate 128 '░' ++ ['\n'] := by
  have hpixel : pixelText false = List.replicate 2 '░' := rfl
  rw [rowText, row_new, List.flatMap_replicate, hpixel, List.flatten_replicate_replicate]

theorem text_new : new.text = blankText := by
  have hrows : (List.range 32).flatMap new.rowText =
      (List.replicate 32 (List.replicate 128 '░' ++ ['\n'])).flatten := by
    have hmap : (List.range 32).map new.rowText =
        (List.range 32).map fun _ => List.replicate 128 '░' ++ ['\n'] :=
      List.map_congr_left fun y _ => rowText_new y
    rw [List.flatMap_def, hmap, List.map_const', List.length_range]
  have hline : (String.ofList (List.replicate 128 '░') ++ "\n").toList =
      List.replicate 128 '░' ++ ['\n'] := by
    rw [String.toList_append, String.toList_ofList]
    rfl
  have htext : new.text = String.ofList ((List.range 32).flatMap new.rowText) := rfl
  apply String.toList_inj.1
  rw [htext, hrows, String.toList_ofList, blankText, String.toList_join, List.flatMap_replicate,
    hline]

theorem frame_new (foreground background : Color) :
    new.frame foreground background = plainFrame background := by
  have hcolors : new.colors foreground background = List.replicate 2048 background := by
    rw [colors, new, Vector.toList_replicate, List.map_replicate, if_neg Bool.false_ne_true]
  rw [frame, hcolors, Color.texture, List.flatMap_replicate]
  rfl

end Display

namespace Machine

variable {m : Machine}

theorem display_tick_of_blank (h : m.display = Display.new) :
    m.tick.machine.display = Display.new := by
  by_cases hcls : m.Fetches .cls
  · exact display_tick_of_cls hcls
  · rw [display_tick_of_not_cls hcls, h]

theorem display_afterTicks_of_blank (h : m.display = Display.new) (n : Nat) :
    (m.afterTicks n).display = Display.new := by
  induction n with
  | zero => exact h
  | succ n ih =>
    rw [afterTicks_succ]
    exact display_tick_of_blank ih

end Machine

end Chip8
