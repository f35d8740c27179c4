import Chip8.Memory.Basic

/-! # The dump of memory

All of memory in rows of sixteen bytes. A row is a line break, the address of its first byte in
three digits, a colon and a blank, and then each byte in two digits with a blank after it.

* `rowText bytes r`: row `r`, in characters; `dump` puts the 256 rows together. -/

namespace Chip8.Memory

/-- The bytes of a row. -/
def columns : Nat := 16

/-- The byte at `i` in two digits and a blank. -/
def cellText (m : Memory) (i : Nat) : List Char :=
  Hex.digits 2 (m.bytes[i]?.getD 0).toNat ++ [' ']

def rowText (m : Memory) (r : Nat) : List Char :=
  '\n' :: Hex.digits 3 (columns * r) ++ [':', ' ']
    ++ (List.range columns).flatMap fun k => m.cellText (columns * r + k)

def dumpText (m : Memory) : List Char :=
  (List.range (size / columns)).flatMap m.rowText

def dump (m : Memory) : String :=
  String.ofList m.dumpText

end Chip8.Memory
