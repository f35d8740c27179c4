import Chip8.Machine.Tick
import Chip8.Proofs.Instruction.Encoding

/-! # Fetching

A tick in three equations, without what it reports.

* `Memory.wordAt`, `Machine.word`: the word at an address, and at the program counter;
  `read16_eq`. `read16_of_read8`: it is read as its two bytes are.
* `Machine.step`: decoding the word at the program counter and executing the instruction past it.
  If the fetch fails, a tick changes nothing (`machine_tick_of_gt`, `fault_tick_of_gt`); otherwise it
  comes to the step or, if that fails, to the advance (`machine_tick_of_le`, `fault_tick_of_le`).
* `Machine.Fetches`, `Machine.Executes`: the next tick fetches an instruction, and succeeds;
  `Fetches.unique`, `Fetches.step_eq`, `execute_of_executes`. -/

namespace Chip8

/-- The word at `a`, high byte first. Past the end there are only zeros. -/
def Memory.wordAt (m : Memory) (a : Nat) : UInt16 :=
  Word.ofBytes (m.bytes[a]?.getD 0) (m.bytes[a + 1]?.getD 0)

theorem Memory.read16_eq (m : Memory) (a : UInt16) :
    m.read16 a = if a.toNat ≤ 0xFFE then .ok (m.wordAt a.toNat) else .error (missing a) := by
  unfold read16 wordAt
  by_cases h : a.toNat + 1 < 4096
  · have h' : a.toNat < 4096 := by omega
    rw [dif_pos h, if_pos (by omega)]
    simp [h, h']
  · rw [dif_neg h, if_neg (by omega)]

theorem Memory.exists_read8 (m : Memory) {a : UInt16} (h : a.toNat < 4096) :
    ∃ b, m.read8 a = .ok b := by
  unfold read8
  exact ⟨_, dif_pos h⟩

theorem Memory.read16_of_read8 {m : Memory} {a : UInt16} {b c : UInt8} (h : a.toNat ≤ 0xFFE)
    (hb : m.read8 a = .ok b) (hc : m.read8 (a + 1) = .ok c) :
    m.read16 a = .ok (Word.ofBytes b c) := by
  have ha : (a + 1).toNat = a.toNat + 1 := by
    simp
    omega
  unfold read8 at hb hc
  rw [dif_pos (by omega)] at hb hc
  simp only [ha] at hc
  unfold read16
  rw [dif_pos (by omega), Except.ok.inj hb, Except.ok.inj hc]

namespace Machine

def word (m : Machine) : UInt16 := m.memory.wordAt m.pc.toNat

/-- The instruction at the program counter on the machine moved past it. -/
def step (m : Machine) : Except Fault Machine :=
  match Instruction.decode m.word with
  | .ok inst => m.advance.execute inst
  | .error f => .error f

/-- The next tick fetches the instruction. -/
def Fetches (m : Machine) (inst : Instruction) : Prop :=
  m.pc.toNat ≤ 0xFFE ∧ Instruction.decode m.word = .ok inst

/-- The next tick fetches the instruction and succeeds. -/
def Executes (m : Machine) (inst : Instruction) : Prop :=
  m.Fetches inst ∧ m.tick.fault = none

/-! ## Ticks -/

variable {m : Machine}

theorem machine_tick_of_gt (h : 0xFFE < m.pc.toNat) : m.tick.machine = m := by
  simp [tick, Memory.read16_eq, Nat.not_le.2 h, Tick.failed]

theorem fault_tick_of_gt (h : 0xFFE < m.pc.toNat) :
    m.tick.fault = some (Memory.missing m.pc) := by
  simp [tick, Memory.read16_eq, Nat.not_le.2 h, Tick.failed]

theorem machine_tick_of_le (h : m.pc.toNat ≤ 0xFFE) :
    m.tick.machine = match m.step with | .ok m' => m' | .error _ => m.advance := by
  simp only [tick, Memory.read16_eq, h, if_true, step, word]
  cases Instruction.decode (m.memory.wordAt m.pc.toNat) with
  | error f => rfl
  | ok inst =>
    dsimp only
    cases m.advance.execute inst <;> rfl

theorem fault_tick_of_le (h : m.pc.toNat ≤ 0xFFE) :
    m.tick.fault = match m.step with | .ok _ => none | .error f => some f := by
  simp only [tick, Memory.read16_eq, h, if_true, step, word]
  cases Instruction.decode (m.memory.wordAt m.pc.toNat) with
  | error f => rfl
  | ok inst =>
    dsimp only
    cases m.advance.execute inst <;> rfl

theorem Fetches.unique {i j : Instruction} (hi : m.Fetches i) (hj : m.Fetches j) : i = j :=
  Except.ok.inj (hi.2.symm.trans hj.2)

theorem Fetches.step_eq {inst : Instruction} (h : m.Fetches inst) :
    m.step = m.advance.execute inst := by
  simp only [step, h.2]

theorem execute_of_executes {inst : Instruction} (h : m.Executes inst) :
    m.advance.execute inst = .ok m.tick.machine := by
  obtain ⟨hi, hf⟩ := h
  rw [fault_tick_of_le hi.1, hi.step_eq] at hf
  rw [machine_tick_of_le hi.1, hi.step_eq]
  cases he : m.advance.execute inst with
  | ok m' => rfl
  | error f => rw [he] at hf; cases hf

theorem advance_pc_sub (m : Machine) : m.advance.pc - 2 = m.pc := by
  simp [advance]

theorem toNat_advance_pc (h : m.pc.toNat ≤ 0xFFE) : m.advance.pc.toNat = m.pc.toNat + 2 := by
  simp [advance]
  omega

theorem toNat_advance_advance_pc (h : m.pc.toNat ≤ 0xFFE) :
    m.advance.advance.pc.toNat = m.pc.toNat + 4 := by
  simp [advance]
  omega

end Machine

end Chip8
