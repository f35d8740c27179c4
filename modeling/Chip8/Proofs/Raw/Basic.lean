import Chip8.Machine.Operation
import Chip8.Machine.Setup

/-! # The machine as plain data

A machine whose parts are lists of any length and whose stack pointer is any byte. As nothing holds
by its type, every index, slice and sum is checked where it is used, and an operation that would go
outside of a list or of a word aborts (`none`). A fault is no abort: from an attempt to change
something it comes with the data as the attempt has left it.

* `result`: an attempt that leaves what was there before if it fails, as plain data.
* `add16?`, `sub16?`, `add8?`, `sub8?`: sums and differences that stay within a word or a byte.
* `put?`, `slice?`, `splice?`: writing an element, reading a part of a list and replacing one.
* `RawMachine`, with `build?`, `tick?`, `perform?`, `performAll?` as for `Machine`, and the ways to
  look at it: `register?`, `occupied?`, `byte?`, `word?`, `pixel?`. -/

namespace Chip8

namespace Raw

/-- What an attempt has left and its fault, if there was one. If it fails it leaves `before`. -/
def result {α β : Type} (raw : α → β) (before : α) : Except Fault α → β × Option Fault
  | .ok after => (raw after, none)
  | .error f => (raw before, some f)

/-! ## Checked steps -/

def add16? (a b : UInt16) : Option UInt16 :=
  if a.toNat + b.toNat < 0x10000 then some (a + b) else none

def sub16? (a b : UInt16) : Option UInt16 :=
  if b.toNat ≤ a.toNat then some (a - b) else none

def add8? (a b : UInt8) : Option UInt8 :=
  if a.toNat + b.toNat < 0x100 then some (a + b) else none

def sub8? (a b : UInt8) : Option UInt8 :=
  if b.toNat ≤ a.toNat then some (a - b) else none

variable {α : Type}

def put? (xs : List α) (i : Nat) (x : α) : Option (List α) :=
  if i < xs.length then some (xs.set i x) else none

def slice? (xs : List α) (start stop : Nat) : Option (List α) :=
  if start ≤ stop ∧ stop ≤ xs.length then some ((xs.take stop).drop start) else none

/-- The elements from `start` to `stop` replaced by as many others. -/
def splice? (xs : List α) (start stop : Nat) (data : List α) : Option (List α) :=
  if start ≤ stop ∧ stop ≤ xs.length ∧ data.length = stop - start then
    some (xs.take start ++ data ++ xs.drop stop)
  else none

/-! ## Memory -/

/-- Where an access starts and stops, or the fault of one that runs past the end. -/
def window (a : UInt16) (length : Nat) : Except Fault (Nat × Nat) :=
  if a.toNat + length > Memory.size then .error (Memory.missing a)
  else .ok (a.toNat, a.toNat + length)

def read8? (bytes : List UInt8) (a : UInt16) : Option (Except Fault UInt8) :=
  match window a 1 with
  | .ok (start, _) => bytes[start]?.map .ok
  | .error f => some (.error f)

def read16? (bytes : List UInt8) (a : UInt16) : Option (Except Fault UInt16) :=
  match window a 2 with
  | .ok (start, stop) =>
    match slice? bytes start stop with
    | some [high, low] => some (.ok (Word.ofBytes high low))
    | _ => none
  | .error f => some (.error f)

/-- The data copied to the window from `a` on. -/
def copy? (bytes : List UInt8) (a : UInt16) (data : List UInt8) :
    Option (List UInt8 × Option Fault) :=
  match window a data.length with
  | .ok (start, stop) => (splice? bytes start stop data).map (·, none)
  | .error f => some (bytes, some f)

def load? (bytes : List UInt8) (a : UInt16) (data : List UInt8) :
    Option (List UInt8 × Option Fault) :=
  if data = [] then some (bytes, none) else copy? bytes a data

def loadRom? (bytes rom : List UInt8) : Option (List UInt8 × Option Fault) :=
  if rom.length > Memory.maxRomSize then
    some (bytes, some (.romTooLarge rom.length Memory.maxRomSize))
  else load? bytes Memory.programStart rom

def write? (bytes : List UInt8) : Memory.Command → Option (List UInt8 × Option Fault)
  | .write8 a b =>
    match window a 1 with
    | .ok (start, _) => (put? bytes start b).map (·, none)
    | .error f => some (bytes, some f)
  | .write16 a w => copy? bytes a (Word.bytes w)
  | .load a data => load? bytes a data
  | .loadRom rom => loadRom? bytes rom

/-! ## Display -/

def pixelIndex (x y : Nat) : Except Fault Nat :=
  if x ≥ Display.width ∨ y ≥ Display.height then .error (.pixelOutOfRange x y)
  else .ok (y * Display.width + x)

def getPixel? (pixels : List Bool) (x y : Nat) : Option (Except Fault Bool) :=
  match pixelIndex x y with
  | .ok i => pixels[i]?.map .ok
  | .error f => some (.error f)

def draw? (pixels : List Bool) : Display.Command → Option (List Bool × Option Fault)
  | .set x y on =>
    match pixelIndex x y with
    | .ok i => (put? pixels i on).map (·, none)
    | .error f => some (pixels, some f)
  | .clear => some (pixels.map fun _ => false, none)

end Raw

open Raw

structure RawMachine where
  registers : List UInt8
  index : UInt16
  pc : UInt16
  slots : List UInt16
  depth : UInt8
  timers : Timers
  memory : List UInt8
  pixels : List Bool
  tracing : Bool

namespace RawMachine

/-! ## Setting up -/

def new? : Option RawMachine := do
  let font := Font.start.toNat
  let memory ← splice? (List.replicate Memory.size 0) font (font + Font.table.length) Font.table
  return {
    registers := List.replicate 16 0
    index := 0
    pc := Memory.programStart
    slots := List.replicate CallStack.size 0
    depth := 0
    timers := Timers.zero
    memory := memory
    pixels := List.replicate (Display.width * Display.height) false
    tracing := false }

def build? (s : Setup) : Option (Except Fault RawMachine) := do
  let r ← new?
  match ← loadRom? r.memory s.rom with
  | (memory, none) => return .ok { r with memory := memory, tracing := s.tracing }
  | (_, some f) => return .error f

/-! ## Ticks -/

def skipIf? (r : RawMachine) (condition : Bool) : Option RawMachine := do
  if condition then return { r with pc := ← add16? r.pc 2 } else return r

def setRegister? (r : RawMachine) (x b : UInt8) : Option RawMachine := do
  return { r with registers := ← put? r.registers x.toNat b }

/-- A register from two registers. -/
def combine? (r : RawMachine) (x y : UInt8) (f : UInt8 → UInt8 → UInt8) : Option RawMachine := do
  r.setRegister? x (f (← r.registers[x.toNat]?) (← r.registers[y.toNat]?))

def addRegisters? (r : RawMachine) (x y : UInt8) : Option RawMachine := do
  let sum := (← r.registers[x.toNat]?).toNat + (← r.registers[y.toNat]?).toNat
  let r ← r.setRegister? x (UInt8.ofNat sum)
  r.setRegister? Registers.flag (if sum < 256 then 0 else 1)

def ret? (r : RawMachine) : Option (RawMachine × Option Fault) := do
  if r.depth = 0 then return (r, some (.stackUnderflow (← sub16? r.pc 2)))
  else
    let depth ← sub8? r.depth 1
    return ({ r with pc := ← r.slots[depth.toNat]?, depth := depth }, none)

def call? (r : RawMachine) (target : UInt16) : Option (RawMachine × Option Fault) := do
  if CallStack.size ≤ r.depth.toNat then return (r, some (.stackOverflow (← sub16? r.pc 2)))
  else
    let slots ← put? r.slots r.depth.toNat r.pc
    return ({ r with pc := target, slots := slots, depth := ← add8? r.depth 1 }, none)

/-- One instruction, which was decoded from `w`, on a machine that was already moved past it. -/
def execute? (r : RawMachine) (w : UInt16) : Instruction → Option (RawMachine × Option Fault)
  | .cls => some ({ r with pixels := r.pixels.map fun _ => false }, none)
  | .ret => r.ret?
  | .sys _ => some (r, some (.notImplemented w))
  | .jp target =>
    if target > Machine.maxJumpTarget then some (r, some (.invalidJumpTarget target))
    else some ({ r with pc := target }, none)
  | .call target => r.call? target
  | .seByte x byte => do return (← r.skipIf? ((← r.registers[x.toNat]?) == byte), none)
  | .sneByte x byte => do return (← r.skipIf? ((← r.registers[x.toNat]?) != byte), none)
  | .seReg x y => do
    return (← r.skipIf? ((← r.registers[x.toNat]?) == (← r.registers[y.toNat]?)), none)
  | .ldByte x byte => do return (← r.setRegister? x byte, none)
  | .addByte x byte => do return (← r.setRegister? x ((← r.registers[x.toNat]?) + byte), none)
  | .ldReg x y => do return (← r.setRegister? x (← r.registers[y.toNat]?), none)
  | .orReg x y => do return (← r.combine? x y (· ||| ·), none)
  | .andReg x y => do return (← r.combine? x y (· &&& ·), none)
  | .xorReg x y => do return (← r.combine? x y (· ^^^ ·), none)
  | .addReg x y => do return (← r.addRegisters? x y, none)

/-- **One tick**: the machine after it and the fault, if there was one. -/
def tick? (r : RawMachine) : Option (RawMachine × Option Fault) := do
  match ← read16? r.memory r.pc with
  | .ok w =>
    let r := { r with pc := ← add16? r.pc 2 }
    match Instruction.decode w with
    | .ok inst => r.execute? w inst
    | .error f => return (r, some f)
  | .error f => return (r, some f)

/-! ## Operations -/

def perform? (r : RawMachine) : Operation → Option RawMachine
  | .tick => do return (← r.tick?).1
  | .timers c => some { r with timers := r.timers.after c }
  | .memory c => do return { r with memory := (← write? r.memory c).1 }
  | .display c => do return { r with pixels := (← draw? r.pixels c).1 }

def performAll? (r : RawMachine) (ops : List Operation) : Option RawMachine :=
  ops.foldlM perform? r

/-! ## Looking at a machine -/

def register? (r : RawMachine) (x : UInt8) : Option UInt8 :=
  r.registers[(x &&& 0xF).toNat]?

def occupied? (r : RawMachine) : Option (List UInt16) :=
  slice? r.slots 0 r.depth.toNat

def byte? (r : RawMachine) (a : UInt16) : Option (Except Fault UInt8) :=
  read8? r.memory a

def word? (r : RawMachine) (a : UInt16) : Option (Except Fault UInt16) :=
  read16? r.memory a

def pixel? (r : RawMachine) (x y : Nat) : Option (Except Fault Bool) :=
  getPixel? r.pixels x y

end RawMachine

end Chip8
