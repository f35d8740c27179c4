import Chip8.Proofs.Raw.Erasure

/-! # What a failed tick leaves behind

A tick of the plain data that fails hands on what it has changed so far. So what it leaves behind is
said of the data as they are then, and not of a machine from which a failed attempt is dropped.

* `raw_tick_of_gt`, `raw_tick_of_holds`: such a tick, for a failed fetch and for the other causes.
* `tick_failures`: which ticks fail, with which fault, and what they leave behind: nothing changed if
  the fetch failed, and the program counter moved by two and nothing else changed for the other
  causes. -/

namespace Chip8.Machine

variable {m : Machine}

theorem raw_tick_of_gt (h : 0xFFE < m.pc.toNat) :
    m.raw.tick? = some (m.raw, some (Cause.outOfBounds.fault m)) := by
  rw [raw_tick, machine_tick_of_gt h, fault_tick_of_gt h]
  rfl

theorem raw_tick_of_holds {c : Cause} (hne : c ≠ .outOfBounds) (hc : c.Holds m) :
    m.raw.tick? = some ({ m.raw with pc := m.pc + 2 }, some (c.fault m)) := by
  have hfault : m.tick.fault = some (c.fault m) := fault_tick_iff.2 ⟨c, hc, rfl⟩
  rw [raw_tick, machine_of_holds hne hc, hfault]
  rfl

/-- **Which ticks fail, with which fault, and what they leave behind.** -/
theorem tick_failures (m : Machine) :
    m.raw.tick? = some (m.tick.machine.raw, m.tick.fault) ∧
      (∀ f, m.tick.fault = some f ↔ ∃ c : Cause, c.Holds m ∧ f = c.fault m) ∧
      (∀ c d : Cause, c.Holds m → d.Holds m → c = d) ∧
      (Cause.outOfBounds.Holds m → m.tick.machine = m ∧
        m.raw.tick? = some (m.raw, some (Cause.outOfBounds.fault m))) ∧
      ∀ c : Cause, c ≠ .outOfBounds → c.Holds m →
        m.tick.machine = { m with pc := m.pc + 2 } ∧ (m.pc + 2).toNat = m.pc.toNat + 2 ∧
        m.raw.tick? = some ({ m.raw with pc := m.pc + 2 }, some (c.fault m)) := by
  refine ⟨raw_tick m, fun f => fault_tick_iff, fun c d => cause_unique, fun h => ?_,
    fun c hne hc => ?_⟩
  · exact ⟨machine_tick_of_gt h, raw_tick_of_gt h⟩
  · exact ⟨machine_of_holds hne hc, toNat_advance_pc (le_of_holds hc hne), raw_tick_of_holds hne hc⟩

/-- A call when every slot is taken. -/
theorem full_stack_refuses_call :
    ∃ m : Machine, Cause.stackOverflow.Holds m ∧ m.tick.fault = some (.stackOverflow m.pc) ∧
      m.tick.machine = { m with pc := m.pc + 2 } ∧
      m.raw.tick? = some ({ m.raw with pc := m.pc + 2 }, some (.stackOverflow m.pc)) := by
  let m : Machine := { new with
    memory := ⟨Memory.overlay Memory.new.bytes 0x200 [0x22, 0x00]⟩
    stack := { slots := Vector.replicate 16 0x202, depth := 16 } }
  have hc : Cause.stackOverflow.Holds m := ⟨by decide +kernel, by decide +kernel, rfl⟩
  obtain ⟨-, hfault, -, -, hrefused⟩ := tick_failures m
  obtain ⟨hmachine, -, hraw⟩ := hrefused _ (by decide) hc
  exact ⟨m, hc, (hfault _).2 ⟨.stackOverflow, hc, rfl⟩, hmachine, hraw⟩

end Chip8.Machine
