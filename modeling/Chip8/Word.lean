/-! # Words of two bytes

Words are stored high byte first. An instruction word is read as four digits of four bits, as a
digit and two digits and a byte, or as a digit and an address of twelve bits.

* `ofBytes`, `high`, `low`: a word and its bytes; `ofBytes_high_low`.
* `kind`, `x`, `y`, `variant`, `address`: the fields of an instruction word.
* `ofAddress`, `ofRegisterByte`, `ofRegisters`: a word from its fields, which are first cut to
  their width. A word comes back from its fields (`ofAddress_kind_address`,
  `ofRegisterByte_kind_x_low`, `ofRegisters_kind_x_y_variant`), and fields that have their width come
  back from the word. -/

namespace Chip8.Word

/-! ## Bytes -/

def ofBytes (high low : UInt8) : UInt16 :=
  UInt16.ofNat (256 * high.toNat + low.toNat)

def high (w : UInt16) : UInt8 :=
  UInt8.ofNat (w.toNat / 256)

def low (w : UInt16) : UInt8 :=
  UInt8.ofNat w.toNat

def bytes (w : UInt16) : List UInt8 :=
  [high w, low w]

theorem length_bytes (w : UInt16) : (bytes w).length = 2 := rfl

theorem toNat_ofBytes (high low : UInt8) :
    (ofBytes high low).toNat = 256 * high.toNat + low.toNat := by
  have := high.toNat_lt
  have := low.toNat_lt
  simp [ofBytes]
  omega

theorem toNat_high (w : UInt16) : (high w).toNat = w.toNat / 256 := by
  have := w.toNat_lt
  simp [high]
  omega

theorem toNat_low (w : UInt16) : (low w).toNat = w.toNat % 256 := by
  simp [low]

theorem ofBytes_high_low (w : UInt16) : ofBytes (high w) (low w) = w := by
  apply UInt16.toNat_inj.1
  rw [toNat_ofBytes, toNat_high, toNat_low]
  omega

/-! ## Fields -/

/-- The top digit, which tells the families of instructions apart. -/
def kind (w : UInt16) : Nat := w.toNat / 0x1000

/-- The first register. -/
def x (w : UInt16) : UInt8 := UInt8.ofNat (w.toNat / 0x100 % 0x10)

/-- The second register. -/
def y (w : UInt16) : UInt8 := UInt8.ofNat (w.toNat / 0x10 % 0x10)

/-- The last digit, which tells the operations on two registers apart. -/
def variant (w : UInt16) : Nat := w.toNat % 0x10

/-- The low twelve bits. -/
def address (w : UInt16) : UInt16 := UInt16.ofNat (w.toNat % 0x1000)

theorem toNat_x (w : UInt16) : (x w).toNat = w.toNat / 0x100 % 0x10 := by
  simp [x]
  omega

theorem toNat_y (w : UInt16) : (y w).toNat = w.toNat / 0x10 % 0x10 := by
  simp [y]
  omega

theorem toNat_address (w : UInt16) : (address w).toNat = w.toNat % 0x1000 := by
  simp [address]
  omega

theorem kind_lt (w : UInt16) : kind w < 16 := by
  have := w.toNat_lt
  unfold kind
  omega

theorem variant_lt (w : UInt16) : variant w < 16 :=
  Nat.mod_lt _ (by decide)

/-! ## Words from fields -/

/-- A kind and an address. -/
def ofAddress (kind : Nat) (address : UInt16) : UInt16 :=
  UInt16.ofNat (0x1000 * kind + address.toNat % 0x1000)

/-- A kind, a register and a byte. -/
def ofRegisterByte (kind : Nat) (x byte : UInt8) : UInt16 :=
  UInt16.ofNat (0x1000 * kind + 0x100 * (x.toNat % 0x10) + byte.toNat)

/-- A kind, two registers and a variant. -/
def ofRegisters (kind : Nat) (x y : UInt8) (variant : Nat) : UInt16 :=
  UInt16.ofNat (0x1000 * kind + 0x100 * (x.toNat % 0x10) + 0x10 * (y.toNat % 0x10) + variant)

theorem toNat_ofAddress {kind : Nat} (h : kind < 16) (address : UInt16) :
    (ofAddress kind address).toNat = 0x1000 * kind + address.toNat % 0x1000 := by
  simp [ofAddress]
  omega

theorem toNat_ofRegisterByte {kind : Nat} (h : kind < 16) (x byte : UInt8) :
    (ofRegisterByte kind x byte).toNat
      = 0x1000 * kind + 0x100 * (x.toNat % 0x10) + byte.toNat := by
  have := byte.toNat_lt
  simp [ofRegisterByte]
  omega

theorem toNat_ofRegisters {kind variant : Nat} (h : kind < 16) (hv : variant < 16)
    (x y : UInt8) :
    (ofRegisters kind x y variant).toNat
      = 0x1000 * kind + 0x100 * (x.toNat % 0x10) + 0x10 * (y.toNat % 0x10) + variant := by
  simp [ofRegisters]
  omega

/-! ### Back and forth -/

theorem ofAddress_kind_address (w : UInt16) : ofAddress (kind w) (address w) = w := by
  apply UInt16.toNat_inj.1
  rw [toNat_ofAddress (kind_lt w), toNat_address, kind]
  omega

theorem ofRegisterByte_kind_x_low (w : UInt16) : ofRegisterByte (kind w) (x w) (low w) = w := by
  apply UInt16.toNat_inj.1
  rw [toNat_ofRegisterByte (kind_lt w), toNat_x, toNat_low, kind]
  omega

theorem ofRegisters_kind_x_y_variant (w : UInt16) :
    ofRegisters (kind w) (x w) (y w) (variant w) = w := by
  apply UInt16.toNat_inj.1
  rw [toNat_ofRegisters (kind_lt w) (variant_lt w), toNat_x, toNat_y, kind, variant]
  omega

section

variable {k v : Nat} (hk : k < 16)

include hk

theorem kind_ofAddress (a : UInt16) : kind (ofAddress k a) = k := by
  rw [kind, toNat_ofAddress hk]
  omega

theorem address_ofAddress {a : UInt16} (ha : a.toNat < 0x1000) : address (ofAddress k a) = a := by
  apply UInt16.toNat_inj.1
  rw [toNat_address, toNat_ofAddress hk]
  omega

theorem kind_ofRegisterByte (a b : UInt8) : kind (ofRegisterByte k a b) = k := by
  have := b.toNat_lt
  rw [kind, toNat_ofRegisterByte hk]
  omega

theorem x_ofRegisterByte {a : UInt8} (ha : a.toNat < 16) (b : UInt8) :
    x (ofRegisterByte k a b) = a := by
  have := b.toNat_lt
  apply UInt8.toNat_inj.1
  rw [toNat_x, toNat_ofRegisterByte hk]
  omega

theorem low_ofRegisterByte (a b : UInt8) : low (ofRegisterByte k a b) = b := by
  have := b.toNat_lt
  apply UInt8.toNat_inj.1
  rw [toNat_low, toNat_ofRegisterByte hk]
  omega

variable (hv : v < 16)

include hv

theorem kind_ofRegisters (a b : UInt8) : kind (ofRegisters k a b v) = k := by
  rw [kind, toNat_ofRegisters hk hv]
  omega

theorem variant_ofRegisters (a b : UInt8) : variant (ofRegisters k a b v) = v := by
  rw [variant, toNat_ofRegisters hk hv]
  omega

theorem x_ofRegisters {a : UInt8} (ha : a.toNat < 16) (b : UInt8) :
    x (ofRegisters k a b v) = a := by
  apply UInt8.toNat_inj.1
  rw [toNat_x, toNat_ofRegisters hk hv]
  omega

theorem y_ofRegisters (a : UInt8) {b : UInt8} (hb : b.toNat < 16) :
    y (ofRegisters k a b v) = b := by
  apply UInt8.toNat_inj.1
  rw [toNat_y, toNat_ofRegisters hk hv]
  omega

end

end Chip8.Word
