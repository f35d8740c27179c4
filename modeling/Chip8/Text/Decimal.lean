/-! # Decimal numbers

A number is written in decimal digits, with any number of leading zeros, perhaps after a plus sign.

* `parse limit text`: the number, if it is below `limit`. Digits are read from the left and the first
  thing that is wrong is what is reported. -/

namespace Chip8.Text.Decimal

/-- What is wrong with a number. -/
inductive ParseError where
  | empty
  | badDigit
  | tooLarge
  deriving DecidableEq

def ParseError.message : ParseError → String
  | empty => "cannot parse integer from empty string"
  | badDigit => "invalid digit found in string"
  | tooLarge => "number too large to fit in target type"

/-- The number whose digits so far write `n`. -/
def digits (limit n : Nat) : List Char → Except ParseError Nat
  | [] => .ok n
  | c :: rest =>
    if c.isDigit then
      let n' := 10 * n + (c.toNat - '0'.toNat)
      if n' < limit then digits limit n' rest else .error .tooLarge
    else .error .badDigit

def parse (limit : Nat) (text : List Char) : Except ParseError Nat :=
  match text with
  | [] => .error .empty
  | ['+'] => .error .badDigit
  | '+' :: rest => digits limit 0 rest
  | text => digits limit 0 text

end Chip8.Text.Decimal
