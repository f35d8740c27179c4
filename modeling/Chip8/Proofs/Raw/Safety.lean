import Chip8.Proofs.Raw.Erasure

/-! # Runs keep their bounds and never abort

Whatever a host does with a machine that was set up, in whatever order, the plain data of the
machine keeps its sizes and its bounds, and nothing that is done next or looked at goes outside of a
list, a word or a byte.

* `RawMachine.WF`: the sizes and bounds; `RawMachine.Safe`: no operation aborts, and neither does
  looking at the machine.
* `Machine.Initial`: a new machine, or one that was built; `RawMachine.Initial`: the same as plain
  data.
* `wf_raw`, `safe_raw`: both hold of the plain data of a machine in range.
* `safe_afterAll`: the statement above. -/

namespace Chip8

namespace RawMachine

structure WF (r : RawMachine) : Prop where
  length_registers : r.registers.length = 16
  length_slots : r.slots.length = 16
  length_memory : r.memory.length = 4096
  length_pixels : r.pixels.length = 2048
  depth_le : r.depth.toNat ≤ 16
  pc_le : r.pc.toNat ≤ 0x1002
  /-- Every slot, taken or not. -/
  slot : ∀ a ∈ r.slots, a = 0 ∨ 2 ≤ a.toNat ∧ a.toNat ≤ 0x1000

structure Safe (r : RawMachine) : Prop where
  perform : ∀ op, (r.perform? op).isSome
  register : ∀ x, (r.register? x).isSome
  occupied : r.occupied?.isSome
  byte : ∀ a, (r.byte? a).isSome
  word : ∀ a, (r.word? a).isSome
  pixel : ∀ x y, (r.pixel? x y).isSome

def Initial (r : RawMachine) : Prop :=
  new? = some r ∨ ∃ s, build? s = some (.ok r)

end RawMachine

namespace Machine

def Initial (m : Machine) : Prop :=
  m = new ∨ ∃ s : Setup, s.build = .ok m

variable {m : Machine}

theorem Initial.inRange (h : m.Initial) : m.InRange := by
  rcases h with rfl | ⟨s, hs⟩
  · exact inRange_new
  · exact inRange_of_build hs

theorem Initial.raw (h : m.Initial) : m.raw.Initial := by
  rcases h with rfl | ⟨s, hs⟩
  · exact .inl raw_new
  · refine .inr ⟨s, ?_⟩
    rw [raw_build, hs]
    rfl

/-! ## Plain data of a machine -/

theorem wf_raw (h : m.InRange) : m.raw.WF where
  length_registers := Vector.length_toList
  length_slots := Vector.length_toList
  length_memory := Vector.length_toList
  length_pixels := Vector.length_toList
  depth_le := by
    show m.stack.rawDepth.toNat ≤ 16
    rw [CallStack.toNat_rawDepth]
    exact m.stack.depth_le
  pc_le := h.pc_le
  slot := by
    intro a ha
    obtain ⟨k, hk, rfl⟩ := List.getElem_of_mem ha
    have hk' : k < 16 := by simpa [Machine.raw] using hk
    simpa [Machine.raw, IsReturn] using h.stack k hk'

theorem raw_occupied (m : Machine) : m.raw.occupied? = some m.stack.occupied := by
  have h : m.stack.depth ≤ m.stack.slots.toList.length := by
    rw [Vector.length_toList]
    exact m.stack.depth_le
  simp only [RawMachine.occupied?, Machine.raw, CallStack.toNat_rawDepth, CallStack.occupied]
  rw [Raw.slice?, if_pos ⟨Nat.zero_le _, h⟩, List.drop_zero]

theorem raw_register_masked (m : Machine) (x : UInt8) :
    m.raw.register? x = some (m.registers.get x) := by
  have hx : (x &&& 0xF).toNat = x.toNat % 16 := by
    rw [UInt8.toNat_and]
    exact Nat.and_two_pow_sub_one_eq_mod x.toNat 4
  have hlt : x.toNat % 16 < 16 := Nat.mod_lt _ (by decide)
  rw [RawMachine.register?, hx]
  simp [Machine.raw, Registers.raw, Registers.get, Registers.slot, hlt]

theorem safe_raw (m : Machine) : m.raw.Safe where
  perform op := by rw [raw_perform]; rfl
  register x := by rw [raw_register_masked]; rfl
  occupied := by rw [raw_occupied]; rfl
  byte a := by rw [RawMachine.byte?, raw_memory, Memory.raw_read8]; rfl
  word a := by rw [RawMachine.word?, raw_memory, Memory.raw_read16]; rfl
  pixel x y := by
    have h : Raw.getPixel? m.raw.pixels x y = some (m.display.get x y) := m.display.raw_get x y
    rw [RawMachine.pixel?, h]
    rfl

/-- **Runs keep their bounds and never abort.** -/
theorem safe_afterAll (h : m.Initial) (ops : List Operation) :
    m.raw.Initial ∧ ∃ r, m.raw.performAll? ops = some r ∧ r = (m.afterAll ops).raw ∧ r.WF ∧
      r.Safe :=
  ⟨h.raw, _, raw_performAll m ops, rfl, wf_raw (inRange_afterAll h.inRange ops), safe_raw _⟩

/-- A jump to the last word of memory, where the host has put an instruction that skips. -/
theorem safe_past_the_end :
    ∃ m : Machine, Setup.build { rom := [0x1F, 0xFE] } = .ok m ∧ m.Initial ∧ m.raw.Initial ∧
      ∃ r, m.raw.performAll? [.memory (.write16 0xFFE 0x3000), .tick, .tick, .tick] = some r ∧
        r = (m.afterAll [.memory (.write16 0xFFE 0x3000), .tick, .tick, .tick]).raw ∧ r.WF ∧
        r.Safe :=
  have hb : Setup.build { rom := [0x1F, 0xFE] } = .ok _ := rfl
  ⟨_, hb, .inr ⟨_, hb⟩, safe_afterAll (.inr ⟨_, hb⟩) _⟩

end Machine

end Chip8
