import Chip8.Machine.Event

/-! # Ticks

A tick fetches the word at the program counter, moves the program counter past it, decodes the word
and executes the instruction. A tick fails at the first of these that fails. A failed fetch leaves
the machine as it was, and any later failure leaves it moved past the word and otherwise as it was.

* `execute inst m`: the instruction on a machine that was already moved past it.
* `tick`: the machine after, the fault if there was one, and what was reported. -/

namespace Chip8

namespace Machine

/-- The highest address that a jump may go to: a whole word can still be fetched there. -/
def maxJumpTarget : UInt16 := 0xFFE

/-- Moved past one instruction. -/
def advance (m : Machine) : Machine :=
  { m with pc := m.pc + 2 }

def skipIf (m : Machine) (condition : Bool) : Machine :=
  if condition then m.advance else m

def setRegister (m : Machine) (x b : UInt8) : Machine :=
  { m with registers := m.registers.set x b }

/-- The sum goes to the first register and then the carry to the last, which may be the same. -/
def addRegisters (m : Machine) (x y : UInt8) : Machine :=
  let sum := (m.registers.get x).toNat + (m.registers.get y).toNat
  (m.setRegister x (UInt8.ofNat sum)).setRegister Registers.flag (if sum < 256 then 0 else 1)

/-- **One instruction.** The machine was already moved past it, so the address of the instruction is
two below the program counter. -/
def execute (m : Machine) : Instruction → Except Fault Machine
  | .cls => .ok { m with display := m.display.clear }
  | .ret =>
    match m.stack.pop? with
    | some (a, stack) => .ok { m with pc := a, stack := stack }
    | none => .error (.stackUnderflow (m.pc - 2))
  | .sys target => .error (.notImplemented target)
  | .jp target =>
    if target ≤ maxJumpTarget then .ok { m with pc := target }
    else .error (.invalidJumpTarget target)
  | .call target =>
    match m.stack.push? m.pc with
    | some stack => .ok { m with pc := target, stack := stack }
    | none => .error (.stackOverflow (m.pc - 2))
  | .seByte x byte => .ok (m.skipIf (m.registers.get x == byte))
  | .sneByte x byte => .ok (m.skipIf (m.registers.get x != byte))
  | .seReg x y => .ok (m.skipIf (m.registers.get x == m.registers.get y))
  | .ldByte x byte => .ok (m.setRegister x byte)
  | .addByte x byte => .ok (m.setRegister x (m.registers.get x + byte))
  | .ldReg x y => .ok (m.setRegister x (m.registers.get y))
  | .orReg x y => .ok (m.setRegister x (m.registers.get x ||| m.registers.get y))
  | .andReg x y => .ok (m.setRegister x (m.registers.get x &&& m.registers.get y))
  | .xorReg x y => .ok (m.setRegister x (m.registers.get x ^^^ m.registers.get y))
  | .addReg x y => .ok (m.addRegisters x y)

end Machine

/-- What a tick comes to. -/
structure Tick where
  machine : Machine
  fault : Option Fault
  events : List Event

namespace Tick

/-- A tick that left `m` and failed, after it had reported `earlier`. -/
def failed (pc : UInt16) (fault : Fault) (m : Machine) (earlier : List Event) : Tick where
  machine := m
  fault := some fault
  events := earlier ++ [.failed pc fault, .shown m.snapshot]

def succeeded (m : Machine) (earlier : List Event) : Tick where
  machine := m
  fault := none
  events := earlier

end Tick

namespace Machine

/-- **One tick.** -/
def tick (m : Machine) : Tick :=
  match m.memory.read16 m.pc with
  | .error f => .failed m.pc f m []
  | .ok w =>
    match Instruction.decode w with
    | .error f => .failed m.pc f m.advance []
    | .ok inst =>
      let earlier := if m.tracing then [Event.decoded m.pc w inst] else []
      match m.advance.execute inst with
      | .error f => .failed m.pc f m.advance earlier
      | .ok m' => .succeeded m' earlier

end Machine

end Chip8
