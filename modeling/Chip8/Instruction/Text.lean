import Chip8.Instruction.Basic

/-! # Disassembly

`text` writes a mnemonic and its operands as they are, whether or not they fit an instruction word:
registers in capital digits after a `V`, bytes in two digits and targets in at least three. -/

namespace Chip8.Instruction

def registerText (x : UInt8) : String :=
  "V" ++ Hex.upper x.toNat

def byteText (byte : UInt8) : String :=
  "0x" ++ Hex.lower 2 byte.toNat

def targetText (target : UInt16) : String :=
  "0x" ++ Hex.lower 3 target.toNat

def text : Instruction → String
  | cls => "CLS"
  | ret => "RET"
  | sys target => "SYS " ++ targetText target
  | jp target => "JP " ++ targetText target
  | call target => "CALL " ++ targetText target
  | seByte x byte => "SE " ++ registerText x ++ ", " ++ byteText byte
  | sneByte x byte => "SNE " ++ registerText x ++ ", " ++ byteText byte
  | seReg x y => "SE " ++ registerText x ++ ", " ++ registerText y
  | ldByte x byte => "LD " ++ registerText x ++ ", " ++ byteText byte
  | addByte x byte => "ADD " ++ registerText x ++ ", " ++ byteText byte
  | ldReg x y => "LD " ++ registerText x ++ ", " ++ registerText y
  | orReg x y => "OR " ++ registerText x ++ ", " ++ registerText y
  | andReg x y => "AND " ++ registerText x ++ ", " ++ registerText y
  | xorReg x y => "XOR " ++ registerText x ++ ", " ++ registerText y
  | addReg x y => "ADD " ++ registerText x ++ ", " ++ registerText y

end Chip8.Instruction
