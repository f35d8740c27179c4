import Chip8.Proofs.Run.Ticks

/-! # The active part of a machine

What a machine does next is decided by its program counter, its registers, the addresses in the
taken slots of its call stack and its memory. The index register, the timers, the display, the
addresses left in free slots and the tracing have no say in it, now or later.

* `Active`, `Machine.active`: the part that decides.
* `active_execute`, `active_tick`: machines that have it in common fail alike, and have it in common
  again after an instruction and after a tick.
* `active_decides`: the same for any number of ticks. -/

namespace Chip8

structure Active where
  pc : UInt16
  registers : Registers
  /-- The addresses in the taken slots, and so how many there are. -/
  returns : List UInt16
  memory : Memory
  deriving DecidableEq

namespace Machine

def active (m : Machine) : Active where
  pc := m.pc
  registers := m.registers
  returns := m.stack.occupied
  memory := m.memory

variable {m m' : Machine}

theorem active_eq_iff : m.active = m'.active ↔
    m.pc = m'.pc ∧ m.registers = m'.registers ∧ m.stack.occupied = m'.stack.occupied ∧
      m.memory = m'.memory := by
  rw [active, active, Active.mk.injEq]

theorem depth_eq_of_active (h : m.active = m'.active) : m.stack.depth = m'.stack.depth := by
  obtain ⟨-, -, hs, -⟩ := active_eq_iff.1 h
  rw [← CallStack.length_occupied, hs, CallStack.length_occupied]

theorem active_advance (h : m.active = m'.active) : m.advance.active = m'.advance.active := by
  obtain ⟨hpc, hr, hs, hm⟩ := active_eq_iff.1 h
  exact active_eq_iff.2 ⟨congrArg (· + 2) hpc, hr, hs, hm⟩

theorem active_skipIf (h : m.active = m'.active) (condition : Bool) :
    (m.skipIf condition).active = (m'.skipIf condition).active := by
  cases condition with
  | true => exact active_advance h
  | false => exact h

/-! ## Instructions -/

theorem map_active_ret (m : Machine) : (m.execute .ret).map active =
    match m.stack.pop?.map (Prod.map id CallStack.occupied) with
    | some (a, returns) => .ok { m.active with pc := a, returns := returns }
    | none => .error (.stackUnderflow (m.pc - 2)) := by
  unfold execute
  cases m.stack.pop? <;> rfl

theorem map_active_call (m : Machine) (target : UInt16) : (m.execute (.call target)).map active =
    match (m.stack.push? m.pc).map CallStack.occupied with
    | some returns => .ok { m.active with pc := target, returns := returns }
    | none => .error (.stackOverflow (m.pc - 2)) := by
  unfold execute
  cases m.stack.push? m.pc <;> rfl

theorem active_execute (h : m.active = m'.active) (inst : Instruction) :
    (m.execute inst).map active = (m'.execute inst).map active := by
  obtain ⟨hpc, hr, hs, hm⟩ := active_eq_iff.1 h
  cases inst with
  | cls => exact congrArg Except.ok h
  -- the free slots may differ, so both results are read off the addresses in the taken ones
  | ret =>
    rw [map_active_ret, map_active_ret, CallStack.map_occupied_pop?, CallStack.map_occupied_pop?,
      hs, hpc, h]
  | sys target => rfl
  | jp target =>
    by_cases ht : target ≤ maxJumpTarget
    · simp [execute, ht, Except.map, active, hr, hs, hm]
    · simp [execute, ht, Except.map]
  | call target =>
    rw [map_active_call, map_active_call, CallStack.map_occupied_push?,
      CallStack.map_occupied_push?, hs, hpc, h]
  | seByte x byte | sneByte x byte | seReg x y =>
    simp only [execute, hr, Except.map, active_skipIf h]
  | _ => simp [execute, setRegister, addRegisters, Except.map, active, hpc, hr, hs, hm]

/-! ## Ticks -/

theorem word_eq_of_active (h : m.active = m'.active) : m.word = m'.word := by
  obtain ⟨hpc, -, -, hm⟩ := active_eq_iff.1 h
  rw [word, word, hpc, hm]

theorem active_step (h : m.active = m'.active) : m.step.map active = m'.step.map active := by
  unfold step
  rw [word_eq_of_active h]
  cases Instruction.decode m'.word with
  | error f => rfl
  | ok inst => exact active_execute (active_advance h) inst

theorem fault_tick_of_step (h : m.pc.toNat ≤ 0xFFE) :
    m.tick.fault = match m.step.map active with | .ok _ => none | .error f => some f := by
  rw [fault_tick_of_le h]
  cases m.step <;> rfl

theorem active_tick_of_step (h : m.pc.toNat ≤ 0xFFE) :
    m.tick.machine.active =
      match m.step.map active with | .ok a => a | .error _ => m.advance.active := by
  rw [machine_tick_of_le h]
  cases m.step <;> rfl

theorem active_tick (h : m.active = m'.active) :
    m.tick.fault = m'.tick.fault ∧ m.tick.machine.active = m'.tick.machine.active := by
  have hpc : m.pc = m'.pc := (active_eq_iff.1 h).1
  rcases Nat.lt_or_ge 0xFFE m.pc.toNat with hgt | hle
  · have hgt' : 0xFFE < m'.pc.toNat := hpc ▸ hgt
    rw [fault_tick_of_gt hgt, fault_tick_of_gt hgt', machine_tick_of_gt hgt,
      machine_tick_of_gt hgt', hpc]
    exact ⟨rfl, h⟩
  · have hle' : m'.pc.toNat ≤ 0xFFE := hpc ▸ hle
    rw [fault_tick_of_step hle, fault_tick_of_step hle', active_tick_of_step hle,
      active_tick_of_step hle', active_step h, active_advance h]
    exact ⟨rfl, rfl⟩

theorem active_afterTicks (h : m.active = m'.active) (n : Nat) :
    (m.afterTicks n).active = (m'.afterTicks n).active := by
  induction n with
  | zero => exact h
  | succ n ih =>
    rw [afterTicks_succ, afterTicks_succ]
    exact (active_tick ih).2

/-- **The active part decides**: two machines that have it in common run alike for ever. -/
theorem active_decides (h : m.active = m'.active) (n : Nat) :
    (m.afterTicks n).tick.fault = (m'.afterTicks n).tick.fault ∧
      (m.afterTicks n).active = (m'.afterTicks n).active ∧
      (m.afterTicks n).stack.depth = (m'.afterTicks n).stack.depth := by
  have hn := active_afterTicks h n
  exact ⟨(active_tick hn).1, hn, depth_eq_of_active hn⟩

/-- Two returns with one slot taken, on machines that share nothing but their active part. -/
theorem second_return_refused :
    ∃ m m' : Machine, m.active = m'.active ∧ m.index ≠ m'.index ∧ m.timers ≠ m'.timers ∧
      m.display ≠ m'.display ∧ m.tracing ≠ m'.tracing ∧ m.stack.slots[1] ≠ m'.stack.slots[1] ∧
      (m.afterTicks 1).tick.fault = some (.stackUnderflow 0x200) ∧
      (m'.afterTicks 1).tick.fault = some (.stackUnderflow 0x200) := by
  let m : Machine := { new with
    memory := ⟨Memory.overlay Memory.new.bytes 0x200 [0x00, 0xEE]⟩
    stack := { slots := Vector.replicate 16 0x200, depth := 1 } }
  let m' : Machine := { m with
    index := 0x300
    timers := ⟨1, 2⟩
    display := ⟨Vector.replicate 2048 true⟩
    tracing := true
    stack := { slots := (Vector.replicate 16 0).set 0 0x200, depth := 1 } }
  have h : m.active = m'.active := active_eq_iff.2 ⟨rfl, rfl, by decide, rfl⟩
  have hfault : (m.afterTicks 1).tick.fault = some (.stackUnderflow 0x200) := by decide +kernel
  refine ⟨m, m', h, by decide, by decide, by decide +kernel, by decide, by decide, hfault, ?_⟩
  rw [← (active_decides h 1).1]
  exact hfault

end Machine

end Chip8
