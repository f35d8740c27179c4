import Chip8.Fault
import Chip8.Word

/-! # Instructions

An instruction names its registers by bytes and its target by a word; only the low four bits of a
register and the low twelve of a target count.

* `decode`: the instruction that a word stands for. A word stands for one instruction at most.
* `encode`: the word for an instruction, its operands cut to their width. -/

namespace Chip8

inductive Instruction where
  /-- Clear the display. -/
  | cls
  /-- Return from a subroutine. -/
  | ret
  /-- Call a routine of the host's processor, which no machine here has. -/
  | sys (target : UInt16)
  | jp (target : UInt16)
  /-- Call a subroutine. -/
  | call (target : UInt16)
  /-- Skip the next instruction if the register holds the byte. -/
  | seByte (x byte : UInt8)
  /-- Skip the next instruction unless the register holds the byte. -/
  | sneByte (x byte : UInt8)
  /-- Skip the next instruction if the registers hold the same byte. -/
  | seReg (x y : UInt8)
  | ldByte (x byte : UInt8)
  /-- Add a byte, without a carry. -/
  | addByte (x byte : UInt8)
  | ldReg (x y : UInt8)
  | orReg (x y : UInt8)
  | andReg (x y : UInt8)
  | xorReg (x y : UInt8)
  /-- Add a register, with the carry in the last register. -/
  | addReg (x y : UInt8)
  deriving DecidableEq

namespace Instruction

def decode (w : UInt16) : Except Fault Instruction :=
  match Word.kind w with
  | 0x0 =>
    if w = 0x00E0 then .ok .cls
    else if w = 0x00EE then .ok .ret
    else .ok (.sys (Word.address w))
  | 0x1 => .ok (.jp (Word.address w))
  | 0x2 => .ok (.call (Word.address w))
  | 0x3 => .ok (.seByte (Word.x w) (Word.low w))
  | 0x4 => .ok (.sneByte (Word.x w) (Word.low w))
  | 0x5 =>
    match Word.variant w with
    | 0x0 => .ok (.seReg (Word.x w) (Word.y w))
    | _ => .error (.unknownOpcode w)
  | 0x6 => .ok (.ldByte (Word.x w) (Word.low w))
  | 0x7 => .ok (.addByte (Word.x w) (Word.low w))
  | 0x8 =>
    match Word.variant w with
    | 0x0 => .ok (.ldReg (Word.x w) (Word.y w))
    | 0x1 => .ok (.orReg (Word.x w) (Word.y w))
    | 0x2 => .ok (.andReg (Word.x w) (Word.y w))
    | 0x3 => .ok (.xorReg (Word.x w) (Word.y w))
    | 0x4 => .ok (.addReg (Word.x w) (Word.y w))
    | _ => .error (.unknownOpcode w)
  | _ => .error (.unknownOpcode w)

def encode : Instruction → UInt16
  | cls => 0x00E0
  | ret => 0x00EE
  | sys target => Word.ofAddress 0x0 target
  | jp target => Word.ofAddress 0x1 target
  | call target => Word.ofAddress 0x2 target
  | seByte x byte => Word.ofRegisterByte 0x3 x byte
  | sneByte x byte => Word.ofRegisterByte 0x4 x byte
  | seReg x y => Word.ofRegisters 0x5 x y 0x0
  | ldByte x byte => Word.ofRegisterByte 0x6 x byte
  | addByte x byte => Word.ofRegisterByte 0x7 x byte
  | ldReg x y => Word.ofRegisters 0x8 x y 0x0
  | orReg x y => Word.ofRegisters 0x8 x y 0x1
  | andReg x y => Word.ofRegisters 0x8 x y 0x2
  | xorReg x y => Word.ofRegisters 0x8 x y 0x3
  | addReg x y => Word.ofRegisters 0x8 x y 0x4

end Instruction

end Chip8
