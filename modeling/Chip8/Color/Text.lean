import Chip8.Color.Basic
import Chip8.Text.Quoted

/-! # Colours in text

A colour is written as six hexadecimal digits in either case, two each for red, green and blue, after
`0x`, after `#` or after nothing.

* `parse`: the colour that a text writes; anything else is refused with the whole text.
* `ParseError.message`: the refusal in words, with the text quoted. -/

namespace Chip8.Color

/-- A text that writes no colour. -/
structure ParseError where
  input : String
  deriving DecidableEq

def ParseError.message (e : ParseError) : String :=
  "failed to parse hex color: " ++ String.ofList (Text.Quoted.encode e.input.toList)

/-- The text after its mark, if it has one. -/
def unmarked : List Char → List Char
  | '0' :: 'x' :: rest => rest
  | '#' :: rest => rest
  | text => text

/-- The colour of exactly six digits. -/
def ofDigits? : List Char → Option Color
  | [r, r', g, g', b, b'] => do
    return ⟨← Hex.byte? r r', ← Hex.byte? g g', ← Hex.byte? b b'⟩
  | _ => none

def parse (text : String) : Except ParseError Color :=
  match ofDigits? (unmarked text.toList) with
  | some c => .ok c
  | none => .error ⟨text⟩

end Chip8.Color
