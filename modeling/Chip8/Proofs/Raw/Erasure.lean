import Chip8.Proofs.Machine.Range
import Chip8.Proofs.Raw.Parts

/-! # Forgetting what the types say

`Machine.raw` turns a machine into plain data. Every operation on a machine is the same operation on
its plain data, where it never aborts.

* `raw_execute`, `raw_tick`: an instruction and a tick. An instruction needs its program counter to
  be just behind a word that was fetched, which leaves room for two more bytes and for taking two
  away.
* `raw_perform`, `raw_performAll`: any operation and any row of them; `raw_build`: setting up. -/

namespace Chip8

open Raw

namespace Machine

def raw (m : Machine) : RawMachine where
  registers := m.registers.raw
  index := m.index
  pc := m.pc
  slots := m.stack.slots.toList
  depth := m.stack.rawDepth
  timers := m.timers
  memory := m.memory.raw
  pixels := m.display.raw
  tracing := m.tracing

variable {m : Machine}

/-! ## Instructions -/

theorem raw_skipIf (hpc : m.pc.toNat ≤ 0x1000) (condition : Bool) :
    m.raw.skipIf? condition = some (m.skipIf condition).raw := by
  cases condition with
  | true => simp [RawMachine.skipIf?, raw, add16?_two hpc, skipIf, advance]
  | false => rfl

theorem raw_setRegister {x : UInt8} (hx : x.toNat < 16) (b : UInt8) :
    m.raw.setRegister? x b = some (m.setRegister x b).raw := by
  simp [RawMachine.setRegister?, raw, m.registers.raw_set hx, setRegister]

theorem raw_register {x : UInt8} (hx : x.toNat < 16) :
    m.raw.registers[x.toNat]? = some (m.registers.get x) :=
  m.registers.raw_get hx

theorem raw_combine {x y : UInt8} (hx : x.toNat < 16) (hy : y.toNat < 16)
    (f : UInt8 → UInt8 → UInt8) :
    m.raw.combine? x y f =
      some (m.setRegister x (f (m.registers.get x) (m.registers.get y))).raw := by
  simp [RawMachine.combine?, raw_register hx, raw_register hy, raw_setRegister hx]

theorem raw_addRegisters {x y : UInt8} (hx : x.toNat < 16) (hy : y.toNat < 16) :
    m.raw.addRegisters? x y = some (m.addRegisters x y).raw := by
  have hf : Registers.flag.toNat < 16 := by decide
  simp [RawMachine.addRegisters?, raw_register hx, raw_register hy, raw_setRegister hx,
    raw_setRegister hf, addRegisters]

theorem raw_ret (hpc : IsReturn m.pc) :
    m.raw.ret? = some (result raw m (m.execute .ret)) := by
  unfold RawMachine.ret? execute
  cases hp : m.stack.pop? with
  | none =>
    have h0 : m.stack.rawDepth = 0 :=
      CallStack.rawDepth_eq_zero_iff.2 (CallStack.pop?_eq_none_iff.1 hp)
    simp [raw, h0, sub16?_two hpc.1, result]
  | some r =>
    obtain ⟨a, stack⟩ := r
    have h0 : m.stack.rawDepth ≠ 0 := by
      rw [Ne, CallStack.rawDepth_eq_zero_iff, (CallStack.of_pop? hp).2.1]
      omega
    simp [raw, h0, CallStack.sub8?_rawDepth hp, CallStack.getElem?_slots hp, result,
      (CallStack.of_pop? hp).1, -Vector.getElem?_toList]

theorem raw_call (hpc : IsReturn m.pc) (target : UInt16) :
    m.raw.call? target = some (result raw m (m.execute (.call target))) := by
  unfold RawMachine.call? execute
  cases hp : m.stack.push? m.pc with
  | none =>
    have h : CallStack.size ≤ m.stack.rawDepth.toNat := by
      rw [CallStack.toNat_rawDepth, CallStack.push?_eq_none_iff.1 hp]
      exact Nat.le_refl 16
    simp [raw, h, sub16?_two hpc.1, result]
  | some stack =>
    have h : ¬CallStack.size ≤ m.stack.rawDepth.toNat := by
      rw [CallStack.toNat_rawDepth]
      exact Nat.not_le.2 (CallStack.of_push? hp).1
    simp [raw, h, CallStack.put?_slots hp, CallStack.add8?_rawDepth hp, result]

theorem raw_execute {w : UInt16} {inst : Instruction} (hd : Instruction.decode w = .ok inst)
    (hpc : IsReturn m.pc) :
    m.raw.execute? w inst = some (result raw m (m.execute inst)) := by
  have hi := (Instruction.decode_eq_ok_iff.1 hd).1
  cases inst with
  | cls => simp [RawMachine.execute?, execute, result, raw, m.display.raw_clear]
  | ret => exact raw_ret hpc
  | sys target =>
    obtain ⟨-, rfl⟩ := Instruction.decode_eq_sys_iff.1 hd
    rfl
  | jp target =>
    by_cases ht : target ≤ maxJumpTarget
    · simp [RawMachine.execute?, execute, ht, result, raw]
    · simp [RawMachine.execute?, execute, ht, UInt16.not_le.1 ht, result]
  | call target => exact raw_call hpc target
  | seByte x byte | sneByte x byte =>
    simp [RawMachine.execute?, raw_register hi, raw_skipIf hpc.2, execute, result]
  | seReg x y =>
    simp [RawMachine.execute?, raw_register hi.1, raw_register hi.2, raw_skipIf hpc.2, execute,
      result]
  | ldByte x byte | addByte x byte =>
    simp [RawMachine.execute?, raw_register hi, raw_setRegister hi, execute, result]
  | ldReg x y =>
    simp [RawMachine.execute?, raw_register hi.2, raw_setRegister hi.1, execute, result]
  | orReg x y | andReg x y | xorReg x y =>
    simp [RawMachine.execute?, raw_combine hi.1 hi.2, execute, result]
  | addReg x y => simp [RawMachine.execute?, raw_addRegisters hi.1 hi.2, execute, result]

theorem raw_tick (m : Machine) : m.raw.tick? = some (m.tick.machine.raw, m.tick.fault) := by
  have hr : read16? m.raw.memory m.raw.pc = some (m.memory.read16 m.pc) := m.memory.raw_read16 m.pc
  rcases Nat.lt_or_ge 0xFFE m.pc.toNat with hpc | hpc
  · rw [machine_tick_of_gt hpc, fault_tick_of_gt hpc]
    simp [RawMachine.tick?, hr, Memory.read16_eq, Nat.not_le.2 hpc]
  · rw [machine_tick_of_le hpc, fault_tick_of_le hpc]
    have ha : add16? m.raw.pc 2 = some m.advance.pc :=
      add16?_two (show m.pc.toNat ≤ 0x1000 by omega)
    have hadv : { m.raw with pc := m.advance.pc } = m.advance.raw := rfl
    simp only [RawMachine.tick?, hr, Memory.read16_eq, if_pos hpc, Option.bind_eq_bind,
      Option.bind_some, ha, hadv, step, word]
    cases hd : Instruction.decode (m.memory.wordAt m.pc.toNat) with
    | error f => rfl
    | ok inst =>
      have he := raw_execute hd (isReturn_advance_pc hpc)
      simp only [he]
      cases m.advance.execute inst <;> rfl

/-! ## Operations -/

theorem raw_perform (m : Machine) (op : Operation) : m.raw.perform? op = some (m.after op).raw := by
  cases op with
  | tick => simp [RawMachine.perform?, raw_tick, after]
  | timers c => rfl
  | memory c =>
    have h : write? m.raw.memory c = some (result Memory.raw m.memory (c.apply m.memory)) :=
      m.memory.raw_write c
    simp only [RawMachine.perform?, h, after, Memory.after, Option.bind_eq_bind, Option.bind_some]
    cases c.apply m.memory <;> rfl
  | display c =>
    have h : draw? m.raw.pixels c = some (result Display.raw m.display (c.apply m.display)) :=
      m.display.raw_draw c
    simp only [RawMachine.perform?, h, after, Display.after, Option.bind_eq_bind, Option.bind_some]
    cases c.apply m.display <;> rfl

theorem raw_performAll (m : Machine) (ops : List Operation) :
    m.raw.performAll? ops = some (m.afterAll ops).raw := by
  induction ops generalizing m with
  | nil => rfl
  | cons op ops ih =>
    have h : m.raw.performAll? (op :: ops) = (m.after op).raw.performAll? ops := by
      simp [RawMachine.performAll?, raw_perform]
    rw [h, ih]
    rfl

/-! ## Setting up -/

theorem raw_new : RawMachine.new? = some new.raw := by
  simp only [RawMachine.new?, Memory.splice?_font, ← Display.raw_new, ← Registers.raw_zero,
    ← CallStack.toList_slots_empty]
  rfl

theorem raw_memory (m : Machine) : m.raw.memory = m.memory.raw := rfl

theorem new_memory : new.memory = Memory.new := rfl

theorem raw_build (s : Setup) : RawMachine.build? s = some (s.build.map raw) := by
  simp only [RawMachine.build?, raw_new, Option.bind_eq_bind, Option.bind_some, raw_memory,
    new_memory, Memory.raw_loadRom, Setup.build]
  cases Memory.new.loadRom s.rom <;> rfl

end Machine

end Chip8
