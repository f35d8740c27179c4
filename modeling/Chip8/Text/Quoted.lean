import Chip8.Hex
import Chip8.Text.Properties

/-! # Quoted text

A text between double quotes, on one line and with nothing invisible in it: the quote and the
backslash get a backslash, tab, line feed, carriage return and the null character have a letter or
digit of their own, and every other character that is not printable, or that would combine with the
character before it, is written as its number in hexadecimal.

* `Plain`: characters that stand for themselves; `escape c`: what is written for `c`.
* `encode`: the whole text with its quotes. -/

namespace Chip8.Text.Quoted

/-- `c` is written as itself. -/
def Plain (c : Char) : Prop :=
  c ≠ '"' ∧ c ≠ '\\' ∧ isPrintable c = true ∧ extendsGrapheme c = false

instance (c : Char) : Decidable (Plain c) := by
  unfold Plain; infer_instance

def escape (c : Char) : List Char :=
  match c with
  | '"' => ['\\', '"']
  | '\\' => ['\\', '\\']
  | '\t' => ['\\', 't']
  | '\n' => ['\\', 'n']
  | '\r' => ['\\', 'r']
  | '\x00' => ['\\', '0']
  | c => if Plain c then [c] else ['\\', 'u', '\x7b'] ++ Hex.digits 1 c.toNat ++ ['\x7d']

def encode (text : List Char) : List Char :=
  '"' :: text.flatMap escape ++ ['"']

end Chip8.Text.Quoted
