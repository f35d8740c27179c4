import Chip8.Proofs.Machine.Idle
import Chip8.Proofs.Run.Ticks
import Mathlib.Data.Set.Defs

/-! # What a run reads of memory

A run depends on the bytes that it fetches and on no other byte of memory. Which bytes these are is
decided along the way, by the run itself.

* `Machine.withMemory`, `Machine.EqualOutsideMemory`: a machine with other memory, and machines that
  differ in nothing else.
* `tick_withMemory`: a tick is the same with any memory that has the same word at the program counter.
* `fetched n`: the addresses of the bytes that the first `n` ticks fetch; `afterTicks_withMemory`.
* `run_local`: the statement above. -/

namespace Chip8.Machine

def withMemory (memory : Memory) (m : Machine) : Machine := { m with memory := memory }

/-- The machines have everything in common, memory perhaps excepted. -/
def EqualOutsideMemory (m m' : Machine) : Prop := m' = m.withMemory m'.memory

@[simp] theorem pc_withMemory (memory : Memory) (m : Machine) : (m.withMemory memory).pc = m.pc :=
  rfl

@[simp] theorem registers_withMemory (memory : Memory) (m : Machine) :
    (m.withMemory memory).registers = m.registers := rfl

variable {m m' : Machine} {memory : Memory}

/-! ## One tick -/

theorem execute_withMemory (memory : Memory) (m : Machine) (inst : Instruction) :
    (m.withMemory memory).execute inst = (m.execute inst).map (withMemory memory) :=
  execute_mapIdle (fun i => { i with memory := memory }) m inst

theorem tick_withMemory (h : memory.read16 m.pc = m.memory.read16 m.pc) :
    (m.withMemory memory).tick = { m.tick with machine := m.tick.machine.withMemory memory } := by
  have hr : (m.withMemory memory).memory.read16 (m.withMemory memory).pc =
      m.memory.read16 m.pc := h
  have hadvance : (m.withMemory memory).advance = m.advance.withMemory memory := rfl
  simp only [tick, hr, hadvance, execute_withMemory]
  cases m.memory.read16 m.pc with
  | error f => rfl
  | ok w =>
    dsimp only
    cases Instruction.decode w with
    | error f => rfl
    | ok inst =>
      dsimp only
      cases m.advance.execute inst <;> rfl

/-! ## Runs -/

/-- The addresses of the bytes that the first `n` ticks fetch. -/
def fetched (m : Machine) (n : Nat) : Set UInt16 :=
  {a | ∃ i < n, (m.afterTicks i).pc.toNat ≤ 0xFFE ∧
    (a = (m.afterTicks i).pc ∨ a = (m.afterTicks i).pc + 1)}

theorem read16_eq_of_fetched {n i : Nat} (hi : i < n)
    (h : ∀ a ∈ m.fetched n, memory.read8 a = m.memory.read8 a) :
    memory.read16 (m.afterTicks i).pc = m.memory.read16 (m.afterTicks i).pc := by
  rcases Nat.lt_or_ge 0xFFE (m.afterTicks i).pc.toNat with hgt | hle
  · rw [Memory.read16_eq, Memory.read16_eq, if_neg (by omega), if_neg (by omega)]
  · have hnext : ((m.afterTicks i).pc + 1).toNat < 4096 := by
      simp
      omega
    obtain ⟨b, hb⟩ := m.memory.exists_read8 (a := (m.afterTicks i).pc) (by omega)
    obtain ⟨c, hc⟩ := m.memory.exists_read8 hnext
    have hb' := (h _ ⟨i, hi, hle, .inl rfl⟩).trans hb
    have hc' := (h _ ⟨i, hi, hle, .inr rfl⟩).trans hc
    rw [Memory.read16_of_read8 hle hb hc, Memory.read16_of_read8 hle hb' hc']

theorem tick_afterTicks_withMemory {n i : Nat} (hi : i < n)
    (h : ∀ a ∈ m.fetched n, memory.read8 a = m.memory.read8 a) :
    ((m.afterTicks i).withMemory memory).tick =
      { (m.afterTicks i).tick with
        machine := (m.afterTicks i).tick.machine.withMemory memory } := by
  apply tick_withMemory
  rw [memory_afterTicks]
  exact read16_eq_of_fetched hi h

theorem afterTicks_withMemory {n i : Nat} (hi : i ≤ n)
    (h : ∀ a ∈ m.fetched n, memory.read8 a = m.memory.read8 a) :
    (m.withMemory memory).afterTicks i = (m.afterTicks i).withMemory memory := by
  induction i with
  | zero => rfl
  | succ i ih =>
    rw [afterTicks_succ, afterTicks_succ, ih (by omega), tick_afterTicks_withMemory hi h]

/-- **A run depends on no byte that it does not fetch.** -/
theorem run_local (hm : m.EqualOutsideMemory m') (n : Nat)
    (h : ∀ a ∈ m.fetched n, m'.memory.read8 a = m.memory.read8 a) :
    (∀ i < n, (m'.afterTicks i).tick.fault = (m.afterTicks i).tick.fault ∧
        (m'.afterTicks i).tick.events = (m.afterTicks i).tick.events) ∧
      (∀ i ≤ n, (m'.afterTicks i).pc = (m.afterTicks i).pc) ∧
      (m.afterTicks n).EqualOutsideMemory (m'.afterTicks n) := by
  have hrun : ∀ i ≤ n, m'.afterTicks i = (m.afterTicks i).withMemory m'.memory := by
    intro i hi
    rw [hm]
    exact afterTicks_withMemory hi h
  refine ⟨fun i hi => ?_, fun i hi => ?_, ?_⟩
  · rw [hrun i (Nat.le_of_lt hi), tick_afterTicks_withMemory hi h]
    exact ⟨rfl, rfl⟩
  · rw [hrun i hi]
    rfl
  · rw [EqualOutsideMemory, memory_afterTicks]
    exact hrun n (Nat.le_refl n)

/-- A loop of two instructions, with the font below it and once with nothing but ones around it. -/
theorem loop_ignores_surroundings :
    ∃ m m' : Machine, m.EqualOutsideMemory m' ∧
      (∀ a ∈ m.fetched 3, m'.memory.read8 a = m.memory.read8 a) ∧
      m'.memory.read8 0x000 ≠ m.memory.read8 0x000 ∧
      m'.memory.read8 0x204 ≠ m.memory.read8 0x204 ∧
      (∀ i < 3, (m'.afterTicks i).tick.fault = none) ∧ (m'.afterTicks 3).pc = 0x202 := by
  let loop : List UInt8 := [0x60, 0x05, 0x12, 0x00]
  let m : Machine := { new with memory := ⟨Memory.overlay Memory.new.bytes 0x200 loop⟩ }
  let m' := m.withMemory ⟨Memory.overlay (Vector.replicate 4096 0xFF) 0x200 loop⟩
  have hm : m.EqualOutsideMemory m' := rfl
  have hbytes : ∀ a : UInt16, 0x200 ≤ a.toNat → a.toNat < 0x204 →
      m'.memory.read8 a = m.memory.read8 a := by
    intro a hle hlt
    have hlength : a.toNat - 0x200 < loop.length := Nat.sub_lt_left_of_lt_add hle hlt
    exact (Memory.read8_overlay _ (by omega) hle hlength).trans
      (Memory.read8_overlay _ (by omega) hle hlength).symm
  have hfetched : ∀ i < 3, (m.afterTicks i).pc = 0x200 ∨ (m.afterTicks i).pc = 0x202 := by
    decide +kernel
  have hrun : (∀ i < 3, (m.afterTicks i).tick.fault = none) ∧ (m.afterTicks 3).pc = 0x202 := by
    decide +kernel
  have h : ∀ a ∈ m.fetched 3, m'.memory.read8 a = m.memory.read8 a := by
    rintro a ⟨i, hi, -, ha⟩
    rcases hfetched i hi with hpc | hpc <;> rw [hpc] at ha <;> rcases ha with rfl | rfl <;>
      exact hbytes _ (by decide) (by decide)
  obtain ⟨hticks, hpc, -⟩ := run_local hm 3 h
  refine ⟨m, m', hm, h, by decide +kernel, by decide +kernel, fun i hi => ?_, ?_⟩
  · exact (hticks i hi).1.trans (hrun.1 i hi)
  · exact (hpc 3 (Nat.le_refl 3)).trans hrun.2

end Chip8.Machine
