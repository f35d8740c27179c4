import Chip8.Memory.Dump
import Chip8.Proofs.Blocks
import Chip8.Proofs.Color.Digit
import Chip8.Proofs.Memory.Coverage

/-! # Where a byte is in the dump

A row of the dump has 54 characters, six for its beginning and three for each of its sixteen bytes.
So the address tells where the digits of a byte are, and the dump leaves no byte out.

* `byteAt`: the byte at an address, and `0` where there is none; `read8_eq_byteAt`, `ext_byteAt`.
* `length_rowText`, `take_rowText`, `take_drop_rowText`: a row; `length_dump`, `take_drop_dump_row`,
  `take_drop_dump_byte`: the same in the whole dump.
* `dump_inj`: memories with the same dump are the same. -/

namespace Chip8

theorem Hex.digits_three {n : Nat} (h : n < 0x1000) :
    Hex.digits 3 n =
      [(n / 256).digitChar, (n / 16 % 16).digitChar, (n % 16).digitChar] := by
  have hlast : ∀ k, 16 ≤ k → Nat.toDigits 16 k = Nat.toDigits 16 (k / 16) ++ [(k % 16).digitChar] :=
    fun k hk => Nat.toDigits_of_base_le (by decide) hk
  unfold digits
  rcases Nat.lt_or_ge n 16 with h16 | h16
  · rw [Nat.toDigits_of_lt_base h16, Nat.div_eq_of_lt (by omega), Nat.div_eq_of_lt h16,
      Nat.mod_eq_of_lt h16]
    rfl
  rcases Nat.lt_or_ge n 256 with h256 | h256
  · rw [hlast n h16, Nat.toDigits_of_lt_base (by omega), Nat.div_eq_of_lt h256,
      Nat.mod_eq_of_lt (show n / 16 < 16 by omega)]
    rfl
  · rw [hlast n h16, hlast (n / 16) (by omega), Nat.toDigits_of_lt_base (by omega),
      Nat.div_div_eq_div_mul]
    rfl

namespace Memory

/-- The byte at an address. There is none past the end. -/
def byteAt (m : Memory) (i : Nat) : UInt8 := m.bytes[i]?.getD 0

variable {m m' : Memory} {r k : Nat}

theorem read8_eq_byteAt (m : Memory) {a : UInt16} (h : a.toNat < 4096) :
    m.read8 a = .ok (m.byteAt a.toNat) := by
  rw [read8_of_lt m h, byteAt, Vector.getElem?_eq_getElem h, Option.getD_some]

theorem ext_byteAt (h : ∀ i < 4096, m.byteAt i = m'.byteAt i) : m = m' := by
  have hbytes : m.bytes = m'.bytes := by
    apply Vector.ext
    intro i hi
    have hbyte := h i hi
    rwa [byteAt, byteAt, Vector.getElem?_eq_getElem hi, Vector.getElem?_eq_getElem hi] at hbyte
  cases m
  cases m'
  exact congrArg mk hbytes

/-! ## Rows -/

theorem cellText_eq (m : Memory) (i : Nat) :
    m.cellText i =
      [((m.byteAt i).toNat / 16).digitChar, ((m.byteAt i).toNat % 16).digitChar, ' '] := by
  rw [byteAt, cellText, Hex.digits_two]
  rfl

theorem length_cellText (m : Memory) (i : Nat) : (m.cellText i).length = 3 := by
  rw [cellText_eq]
  rfl

/-- How a row begins: with a line break and its address. -/
def leadText (r : Nat) : List Char :=
  ['\n', (16 * r / 256).digitChar, (16 * r / 16 % 16).digitChar, (16 * r % 16).digitChar, ':', ' ']

theorem rowText_eq (m : Memory) (hr : r < 256) :
    m.rowText r = leadText r ++ (List.range 16).flatMap fun k => m.cellText (16 * r + k) := by
  have hcolumns : columns = 16 := rfl
  rw [rowText, hcolumns, Hex.digits_three (by omega)]
  rfl

theorem length_cells (m : Memory) (r : Nat) :
    ((List.range 16).flatMap fun k => m.cellText (16 * r + k)).length = 48 := by
  rw [length_flatMap_of_length fun k _ => m.length_cellText (16 * r + k), List.length_range]

theorem length_rowText (m : Memory) (hr : r < 256) : (m.rowText r).length = 54 := by
  rw [rowText_eq m hr, List.length_append, length_cells]
  rfl

theorem take_rowText (m : Memory) (hr : r < 256) : (m.rowText r).take 6 = leadText r := by
  rw [rowText_eq m hr]
  exact List.take_left' rfl

theorem take_drop_rowText (m : Memory) (hr : r < 256) (hk : k < 16) :
    ((m.rowText r).drop (6 + 3 * k)).take 3 = m.cellText (16 * r + k) := by
  rw [rowText_eq m hr, ← List.drop_drop, List.drop_left' (i := 6) rfl]
  exact block_flatMap_of_length (fun k _ => m.length_cellText (16 * r + k)) (List.getElem?_range hk)

/-! ## The whole dump -/

theorem toList_dump (m : Memory) : m.dump.toList = (List.range 256).flatMap m.rowText :=
  String.toList_ofList

theorem length_rows (m : Memory) : ∀ r ∈ List.range 256, (m.rowText r).length = 54 :=
  fun _ hr => m.length_rowText (List.mem_range.1 hr)

theorem length_dump (m : Memory) : m.dump.length = 13824 := by
  rw [← String.length_toList, toList_dump, length_flatMap_of_length m.length_rows, List.length_range]

theorem take_drop_dump_row (m : Memory) (hr : r < 256) :
    (m.dump.toList.drop (54 * r)).take 6 = leadText r := by
  have hrow := take_drop_flatMap_of_length m.length_rows (List.getElem?_range hr) (j := 0) (n := 6)
    (by decide)
  rwa [← toList_dump, List.drop_zero, Nat.add_zero, take_rowText m hr] at hrow

theorem take_drop_dump_byte (m : Memory) (hr : r < 256) (hk : k < 16) :
    (m.dump.toList.drop (54 * r + 6 + 3 * k)).take 3 = m.cellText (16 * r + k) := by
  have hbyte := take_drop_flatMap_of_length m.length_rows (List.getElem?_range hr) (j := 6 + 3 * k)
    (n := 3) (by omega)
  rwa [← toList_dump, ← Nat.add_assoc, take_drop_rowText m hr hk] at hbyte

theorem dump_inj (h : m.dump = m'.dump) : m = m' := by
  apply ext_byteAt
  intro i hi
  have hcell : m.cellText i = m'.cellText i := by
    have hr : i / 16 < 256 := by omega
    have hk : i % 16 < 16 := Nat.mod_lt i (by decide)
    rw [← Nat.div_add_mod i 16, ← take_drop_dump_byte m hr hk, h, take_drop_dump_byte m' hr hk]
  have hdigits := (List.append_left_inj _).1 hcell
  exact UInt8.toNat_inj.1 (Hex.digits_inj hdigits)

end Memory

end Chip8
