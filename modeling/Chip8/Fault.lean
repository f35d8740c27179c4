import Chip8.Hex

/-! # Faults

Everything that memory, the display or an instruction can refuse. A fault is data; `message` is the
only place with wording. -/

namespace Chip8

inductive Fault where
  /-- An access that runs past the end of memory; `address` is the first byte that does not exist. -/
  | memoryOutOfBounds (address : Nat)
  | pixelOutOfRange (x y : Nat)
  /-- A call at `pc` with every stack slot taken. -/
  | stackOverflow (pc : UInt16)
  /-- A return at `pc` with no stack slot taken. -/
  | stackUnderflow (pc : UInt16)
  /-- A jump to an address at which no whole word can be fetched. -/
  | invalidJumpTarget (target : UInt16)
  | notImplemented (opcode : UInt16)
  | unknownOpcode (opcode : UInt16)
  | romTooLarge (size limit : Nat)
  deriving DecidableEq

/-- Addresses and words are written with at least four digits, counts in decimal. -/
def Fault.message : Fault → String
  | memoryOutOfBounds address => "memory address out of bounds: 0x" ++ Hex.lower 4 address
  | pixelOutOfRange x y => s!"pixel coordinate out of range: x: {x}, y: {y}"
  | stackOverflow pc => "stack overflow on CALL at 0x" ++ Hex.lower 4 pc.toNat
  | stackUnderflow pc => "stack underflow on RET at 0x" ++ Hex.lower 4 pc.toNat
  | invalidJumpTarget target =>
    "jump target out of range: 0x" ++ Hex.lower 4 target.toNat ++ ", max: 0x0ffe"
  | notImplemented opcode => "instruction 0x" ++ Hex.lower 4 opcode.toNat ++ " is not implemented"
  | unknownOpcode opcode => "unknown opcode: 0x" ++ Hex.lower 4 opcode.toNat
  | romTooLarge size limit => s!"ROM is too large ({size} bytes), max size is {limit} bytes"

end Chip8
