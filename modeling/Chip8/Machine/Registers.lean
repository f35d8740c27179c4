/-! # Registers

Sixteen registers of a byte. Only the low four bits of a register's name count, so every byte names
a register.

* `get`, `set`: a register by its name; `flag` is the register that a carry goes to. -/

namespace Chip8

structure Registers where
  bytes : Vector UInt8 16
  deriving DecidableEq

namespace Registers

def zero : Registers := ⟨Vector.replicate 16 0⟩

instance : Inhabited Registers := ⟨zero⟩

/-- The register that carries go to. -/
def flag : UInt8 := 0xF

/-- Where the register named `x` is kept. -/
def slot (x : UInt8) : Fin 16 := Fin.ofNat 16 x.toNat

def get (r : Registers) (x : UInt8) : UInt8 :=
  r.bytes[slot x]

def set (r : Registers) (x b : UInt8) : Registers :=
  ⟨r.bytes.set (slot x) b⟩

end Registers

end Chip8
