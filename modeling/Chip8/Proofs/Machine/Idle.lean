import Chip8.Machine.Tick

/-! # What lies idle

An instruction neither reads nor writes the index register, the timers, memory and the tracing. So
it does the same to a machine in which any of them was replaced.

* `Idle`, `Machine.idle`: these parts of a machine; `Machine.mapIdle`: the machine with them replaced.
* `execute_mapIdle`: replacing them before an instruction is replacing them after it. `tick_mapIdle`:
  so it is for a tick, as long as the same word is fetched. -/

namespace Chip8

structure Idle where
  index : UInt16
  timers : Timers
  memory : Memory
  tracing : Bool

namespace Machine

def idle (m : Machine) : Idle where
  index := m.index
  timers := m.timers
  memory := m.memory
  tracing := m.tracing

def mapIdle (f : Idle → Idle) (m : Machine) : Machine :=
  { m with
    index := (f m.idle).index
    timers := (f m.idle).timers
    memory := (f m.idle).memory
    tracing := (f m.idle).tracing }

variable (f : Idle → Idle) (m : Machine)

theorem advance_mapIdle : (m.mapIdle f).advance = m.advance.mapIdle f := rfl

theorem skipIf_mapIdle (condition : Bool) :
    (m.mapIdle f).skipIf condition = (m.skipIf condition).mapIdle f := by
  cases condition <;> rfl

theorem execute_mapIdle (inst : Instruction) :
    (m.mapIdle f).execute inst = (m.execute inst).map (mapIdle f) := by
  cases inst with
  | ret =>
    have hs : (m.mapIdle f).stack = m.stack := rfl
    simp only [execute, hs]
    cases m.stack.pop? <;> rfl
  | jp target =>
    by_cases ht : target ≤ maxJumpTarget
    · simp only [execute, if_pos ht]
      rfl
    · simp only [execute, if_neg ht]
      rfl
  | call target =>
    have hs : (m.mapIdle f).stack.push? (m.mapIdle f).pc = m.stack.push? m.pc := rfl
    simp only [execute, hs]
    cases m.stack.push? m.pc <;> rfl
  | seByte x byte | sneByte x byte | seReg x y => exact congrArg Except.ok (skipIf_mapIdle f m _)
  | _ => rfl

theorem tick_mapIdle {f : Idle → Idle} {m : Machine}
    (h : (f m.idle).memory.read16 m.pc = m.memory.read16 m.pc) :
    (m.mapIdle f).tick.machine = m.tick.machine.mapIdle f ∧
      (m.mapIdle f).tick.fault = m.tick.fault := by
  have hr : (m.mapIdle f).memory.read16 (m.mapIdle f).pc = m.memory.read16 m.pc := h
  simp only [tick, hr, advance_mapIdle, execute_mapIdle]
  cases m.memory.read16 m.pc with
  | error g => exact ⟨rfl, rfl⟩
  | ok w =>
    dsimp only
    cases Instruction.decode w with
    | error g => exact ⟨rfl, rfl⟩
    | ok inst =>
      dsimp only
      cases m.advance.execute inst <;> exact ⟨rfl, rfl⟩

end Machine

end Chip8
