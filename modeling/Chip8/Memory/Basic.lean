import Chip8.Fault
import Chip8.Font
import Chip8.Word

/-! # Memory

4096 bytes, with the font in the lowest addresses. Every access names its first address; one that
runs past the end is refused whole, with `missing`, the first address that does not exist.

* `read8`, `read16`, `write8`, `write16`: a byte, and a word with its high byte first.
* `load`: a row of bytes. Nothing is refused if there is nothing to write.
* `loadRom`: a program, at `programStart`; one of more than `maxRomSize` bytes is refused as such.
* `overlay`: a row of bytes laid over memory; `getElem_overlay` says which byte is where after, and
  `read8_overlay` what is read where the row lies. -/

namespace Chip8

structure Memory where
  bytes : Vector UInt8 4096
  deriving DecidableEq

namespace Memory

def size : Nat := 4096

/-- Where programs are loaded and execution starts. -/
def programStart : UInt16 := 0x200

/-- What fits between `programStart` and the end of memory. -/
def maxRomSize : Nat := size - programStart.toNat

/-- The data laid over the bytes from address `a` on; what would lie past the end is dropped. -/
def overlay (bytes : Vector UInt8 4096) (a : Nat) : List UInt8 → Vector UInt8 4096
  | [] => bytes
  | b :: data => overlay (bytes.setIfInBounds a b) (a + 1) data

/-- Nothing but the font. -/
def new : Memory :=
  ⟨overlay (Vector.replicate 4096 0) Font.start.toNat Font.table⟩

instance : Inhabited Memory := ⟨new⟩

/-! ## Access -/

/-- The fault of an access from `a` that runs past the end. -/
def missing (a : UInt16) : Fault :=
  .memoryOutOfBounds (max a.toNat size)

def read8 (m : Memory) (a : UInt16) : Except Fault UInt8 :=
  if h : a.toNat < 4096 then .ok m.bytes[a.toNat] else .error (missing a)

def read16 (m : Memory) (a : UInt16) : Except Fault UInt16 :=
  if h : a.toNat + 1 < 4096 then .ok (Word.ofBytes m.bytes[a.toNat] m.bytes[a.toNat + 1])
  else .error (missing a)

def write8 (m : Memory) (a : UInt16) (b : UInt8) : Except Fault Memory :=
  if h : a.toNat < 4096 then .ok ⟨m.bytes.set a.toNat b⟩ else .error (missing a)

def write16 (m : Memory) (a : UInt16) (w : UInt16) : Except Fault Memory :=
  if h : a.toNat + 1 < 4096 then
    .ok ⟨(m.bytes.set a.toNat (Word.high w)).set (a.toNat + 1) (Word.low w)⟩
  else .error (missing a)

def load (m : Memory) (a : UInt16) (data : List UInt8) : Except Fault Memory :=
  if data = [] then .ok m
  else if a.toNat + data.length ≤ size then .ok ⟨overlay m.bytes a.toNat data⟩
  else .error (missing a)

def loadRom (m : Memory) (rom : List UInt8) : Except Fault Memory :=
  if rom.length > maxRomSize then .error (.romTooLarge rom.length maxRomSize)
  else m.load programStart rom

/-- One line about the memory as a whole. -/
def summary (_ : Memory) : String :=
  s!"Memory \x7b size: {size}, .. \x7d"

/-! ## Which byte is where -/

theorem getElem_overlay (bytes : Vector UInt8 4096) (a : Nat) (data : List UInt8) {i : Nat}
    (hi : i < 4096) :
    (overlay bytes a data)[i] = if a ≤ i then data[i - a]?.getD bytes[i] else bytes[i] := by
  induction data generalizing bytes a with
  | nil => simp [overlay]
  | cons b data ih =>
    rw [overlay, ih, Vector.getElem_setIfInBounds hi]
    rcases Nat.lt_trichotomy i a with h | rfl | h
    · simp [show ¬a + 1 ≤ i by omega, show ¬a ≤ i by omega, show a ≠ i by omega]
    · rw [if_neg (by omega), if_pos rfl, if_pos (Nat.le_refl i), Nat.sub_self]
      rfl
    · rw [if_pos (by omega), if_neg (by omega), if_pos (by omega),
        show i - a = i - (a + 1) + 1 by omega, List.getElem?_cons_succ]

theorem read8_overlay (bytes : Vector UInt8 4096) {start : Nat} {data : List UInt8} {a : UInt16}
    (h : a.toNat < 4096) (hstart : start ≤ a.toNat) (hlt : a.toNat - start < data.length) :
    read8 ⟨overlay bytes start data⟩ a = .ok data[a.toNat - start] := by
  simp [read8, h, getElem_overlay, hstart, hlt]

end Memory

end Chip8
