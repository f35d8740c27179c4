import Chip8.Machine.Setup
import Chip8.Proofs.Machine.Failure

/-! # The table of opcodes

What each word does to a machine, as a table of opcodes has it: read off the bits of the word, with
no instruction in between.

* `Machine.byTable?`: the machine that a word leaves, unless the table refuses the word there. Its
  entries are `skippedIf`, `stored`, `storedSum`, `returned?`, `jumped?` and `called?`.
* `Bits.register`: a register by four bits of a word; `toNat_top`, `toNat_last`, `lowByte_eq`,
  `lowBits_eq`, `register_eight`, `register_four`: the bits of a word are its fields.
* `byTable?_of_decode`: the word of an instruction does what executing the instruction does.
  `listed_of_byTable?`: the table has no other words. `byTable?_word`: so it says what the word at
  the program counter comes to.
* `tick_follows_table`: the statement above. -/

namespace Chip8

theorem Bits.toNat_last (w : UInt16) : (w &&& 0xF).toNat = Word.variant w := by
  rw [UInt16.toNat_and]
  exact Nat.and_two_pow_sub_one_eq_mod w.toNat 4

theorem Bits.toNat_last_lt (w : UInt16) : (w &&& 0xF).toNat < 16 := by
  rw [toNat_last]
  exact Word.variant_lt w

/-- The register that the four bits from bit `k` on name. -/
def Bits.register (w k : UInt16) : Fin 16 := ⟨((w >>> k) &&& 0xF).toNat, toNat_last_lt (w >>> k)⟩

namespace Machine

/-! ## The table -/

/-- Past the word, and past the next one as well if the condition holds. -/
def skippedIf (m : Machine) (condition : Prop) [Decidable condition] : Machine :=
  { m with pc := if condition then m.pc + 4 else m.pc + 2 }

/-- Past the word, with a byte in a register. -/
def stored (m : Machine) (x : Fin 16) (b : UInt8) : Machine :=
  { m with pc := m.pc + 2, registers := ⟨m.registers.bytes.set x b⟩ }

/-- Past the word, with the sum of two registers in the first and then the carry in the last. -/
def storedSum (m : Machine) (x y : Fin 16) : Machine :=
  let sum := m.registers.bytes[x].toNat + m.registers.bytes[y].toNat
  { m with
    pc := m.pc + 2
    registers := ⟨(m.registers.bytes.set x (UInt8.ofNat (sum % 256))).set 15
      (if sum > 255 then 1 else 0)⟩ }

/-- At the address in the slot that was taken last, with that slot given up. -/
def returned? (m : Machine) : Option Machine :=
  have := m.stack.depth_le
  if m.stack.depth = 0 then none
  else some { m with
    pc := m.stack.slots[m.stack.depth - 1]
    stack := { slots := m.stack.slots, depth := m.stack.depth - 1 } }

/-- At an address, if a whole word can be fetched there. -/
def jumped? (m : Machine) (a : UInt16) : Option Machine :=
  if a > 0xFFE then none else some { m with pc := a }

/-- At an address, with the one behind the word in the next slot. -/
def called? (m : Machine) (a : UInt16) : Option Machine :=
  if h : m.stack.depth < 16 then some { m with
    pc := a
    stack := {
      slots := m.stack.slots.set m.stack.depth (m.pc + 2)
      depth := m.stack.depth + 1 } }
  else none

/-- **The table of opcodes**, by the first and the last digit. -/
def byTable? (w : UInt16) (m : Machine) : Option Machine :=
  let nnn := w &&& 0xFFF
  let kk := (w &&& 0xFF).toUInt8
  let x := Bits.register w 8
  let y := Bits.register w 4
  let v := m.registers.bytes
  match (w >>> 12).toNat, (w &&& 0xF).toNat with
  | 0x0, _ =>
    if w = 0x00E0 then some { m with pc := m.pc + 2, display := ⟨Vector.replicate 2048 false⟩ }
    else if w = 0x00EE then m.returned?
    else none
  | 0x1, _ => m.jumped? nnn
  | 0x2, _ => m.called? nnn
  | 0x3, _ => some (m.skippedIf (v[x] = kk))
  | 0x4, _ => some (m.skippedIf (v[x] ≠ kk))
  | 0x5, 0x0 => some (m.skippedIf (v[x] = v[y]))
  | 0x6, _ => some (m.stored x kk)
  | 0x7, _ => some (m.stored x (UInt8.ofNat ((v[x].toNat + kk.toNat) % 256)))
  | 0x8, 0x0 => some (m.stored x v[y])
  | 0x8, 0x1 => some (m.stored x (v[x] ||| v[y]))
  | 0x8, 0x2 => some (m.stored x (v[x] &&& v[y]))
  | 0x8, 0x3 => some (m.stored x (v[x] ^^^ v[y]))
  | 0x8, 0x4 => some (m.storedSum x y)
  | _, _ => none

end Machine

/-! ## Bits are fields -/

namespace Bits

variable (w : UInt16)

theorem toNat_top : (w >>> 12).toNat = Word.kind w := by
  rw [UInt16.toNat_shiftRight]
  exact Nat.shiftRight_eq_div_pow w.toNat 12

theorem lowBits_eq : w &&& 0xFFF = Word.address w := by
  apply UInt16.toNat_inj.1
  rw [UInt16.toNat_and, Word.toNat_address]
  exact Nat.and_two_pow_sub_one_eq_mod w.toNat 12

theorem lowByte_eq : (w &&& 0xFF).toUInt8 = Word.low w := by
  have hlow : (w &&& 0xFF).toNat = w.toNat % 256 := by
    rw [UInt16.toNat_and]
    exact Nat.and_two_pow_sub_one_eq_mod w.toNat 8
  apply UInt8.toNat_inj.1
  rw [UInt16.toNat_toUInt8, hlow, Word.toNat_low]
  exact Nat.mod_mod w.toNat 256

theorem val_register (k : UInt16) (n : Nat) (hk : k.toNat % 16 = n) :
    (register w k).val = w.toNat / 2 ^ n % 16 := by
  calc (register w k).val = ((w >>> k) &&& 0xF).toNat := rfl
    _ = (w >>> k).toNat % 16 := toNat_last (w >>> k)
    _ = w.toNat / 2 ^ n % 16 := by
      rw [UInt16.toNat_shiftRight, hk, Nat.shiftRight_eq_div_pow]

theorem register_eight : register w 8 = Registers.slot (Word.x w) := by
  have hx := Word.toNat_x w
  apply Fin.ext
  rw [val_register w 8 8 rfl, Registers.slot, Fin.val_ofNat, hx]
  omega

theorem register_four : register w 4 = Registers.slot (Word.y w) := by
  have hy := Word.toNat_y w
  apply Fin.ext
  rw [val_register w 4 4 rfl, Registers.slot, Fin.val_ofNat, hy]
  omega

end Bits

namespace Machine

variable (m : Machine)

/-! ## The entries -/

theorem advance_advance : m.advance.advance = { m with pc := m.pc + 4 } := by
  have hpc : m.pc + 2 + 2 = m.pc + 4 := by
    rw [UInt16.add_assoc]
    rfl
  rw [advance, advance, hpc]

theorem skipIf_advance {condition : Bool} {p : Prop} [Decidable p] (h : condition = true ↔ p) :
    m.advance.skipIf condition = m.skippedIf p := by
  unfold skipIf skippedIf
  by_cases hp : p
  · rw [if_pos (h.2 hp), if_pos hp, advance_advance]
  · rw [if_neg (mt h.1 hp), if_neg hp]
    rfl

theorem toNat_add_mod (a b : UInt8) : UInt8.ofNat ((a.toNat + b.toNat) % 256) = a + b := by
  apply UInt8.toNat_inj.1
  rw [UInt8.toNat_ofNat', UInt8.toNat_add]
  exact Nat.mod_mod _ 256

theorem addRegisters_advance (x y : UInt8) :
    m.advance.addRegisters x y = m.storedSum (Registers.slot x) (Registers.slot y) := by
  have hcarry : ∀ sum : Nat,
      (if sum > 255 then (1 : UInt8) else 0) = if sum < 256 then 0 else 1 := by
    intro sum
    split_ifs <;> first | rfl | omega
  have hsum : ∀ sum : Nat, UInt8.ofNat (sum % 256) = UInt8.ofNat sum := by
    intro sum
    exact UInt8.ofNat_mod_size
  unfold storedSum
  simp only [hcarry, hsum]
  rfl

theorem returned?_eq : m.returned? = (m.advance.execute .ret).toOption := by
  have hstack : m.advance.stack = m.stack := rfl
  unfold returned? execute CallStack.pop?
  rw [hstack]
  by_cases h : m.stack.depth = 0
  · simp only [h]
    rfl
  · simp only [h]
    rfl

theorem jumped?_eq (a : UInt16) : m.jumped? a = (m.advance.execute (.jp a)).toOption := by
  unfold jumped?
  by_cases h : a ≤ maxJumpTarget
  · have hle : ¬a > 0xFFE := UInt16.not_lt.2 h
    simp only [execute, if_pos h, if_neg hle]
    rfl
  · have hgt : a > 0xFFE := UInt16.not_le.1 h
    simp only [execute, if_neg h, if_pos hgt]
    rfl

theorem called?_eq (a : UInt16) : m.called? a = (m.advance.execute (.call a)).toOption := by
  have hstack : m.advance.stack = m.stack := rfl
  unfold called? execute CallStack.push?
  rw [hstack]
  by_cases h : m.stack.depth < 16
  · simp only [h]
    rfl
  · simp only [h]
    rfl

/-! ## Words -/

theorem byTable?_of_decode {w : UInt16} {inst : Instruction}
    (h : Instruction.decode w = .ok inst) :
    byTable? w m = (m.advance.execute inst).toOption := by
  simp only [byTable?, Bits.toNat_top, Bits.toNat_last, Bits.lowBits_eq, Bits.lowByte_eq,
    Bits.register_eight, Bits.register_four]
  -- decoding looks at the same digits, so each of its cases leaves one entry of the table
  unfold Instruction.decode at h
  split at h
  next hk =>
    simp only [hk]
    split at h
    · next hw =>
      cases h
      rw [if_pos hw]
      rfl
    · next hcls =>
      rw [if_neg hcls]
      split at h
      · next hw =>
        cases h
        rw [if_pos hw]
        exact m.returned?_eq
      · next hret =>
        cases h
        rw [if_neg hret]
        rfl
  next hk =>
    cases h
    simp only [hk]
    exact m.jumped?_eq _
  next hk =>
    cases h
    simp only [hk]
    exact m.called?_eq _
  next hk =>
    cases h
    simp only [hk]
    exact congrArg some (m.skipIf_advance beq_iff_eq).symm
  next hk =>
    cases h
    simp only [hk]
    exact congrArg some (m.skipIf_advance bne_iff_ne).symm
  next hk =>
    split at h
    · next hv =>
      cases h
      simp only [hk, hv]
      exact congrArg some (m.skipIf_advance beq_iff_eq).symm
    · cases h
  next hk =>
    cases h
    simp only [hk]
    rfl
  next hk =>
    cases h
    simp only [hk, toNat_add_mod]
    rfl
  next hk =>
    split at h
    next hv => cases h; simp only [hk, hv]; rfl
    next hv => cases h; simp only [hk, hv]; rfl
    next hv => cases h; simp only [hk, hv]; rfl
    next hv => cases h; simp only [hk, hv]; rfl
    next hv =>
      cases h
      simp only [hk, hv]
      exact congrArg some (m.addRegisters_advance _ _).symm
    · cases h
  · cases h

theorem listed_of_byTable? {w : UInt16} {m' : Machine} (h : byTable? w m = some m') :
    Instruction.Listed w := by
  rw [Instruction.listed_iff]
  simp only [byTable?, Bits.toNat_top, Bits.toNat_last] at h
  split at h
  case h_14 => cases h
  all_goals omega

/-- What the table makes of the word at the program counter is the step. -/
theorem byTable?_word : byTable? m.word m = m.step.toOption := by
  unfold step
  cases hd : Instruction.decode m.word with
  | ok inst => exact m.byTable?_of_decode hd
  | error f =>
    obtain ⟨hlisted, -⟩ := Instruction.decode_eq_error_iff.1 hd
    refine Option.eq_none_iff_forall_ne_some.2 fun m' hm' => ?_
    exact hlisted (m.listed_of_byTable? hm')

/-- **A tick does what the table of opcodes says** of the word at the program counter, and fails
where the table says nothing. -/
theorem tick_follows_table (m : Machine) :
    (m.tick.fault = none → ∃ w, m.memory.read16 m.pc = .ok w) ∧
      ∀ w, m.memory.read16 m.pc = .ok w →
        byTable? w m = if m.tick.fault = none then some m.tick.machine else none := by
  rw [Memory.read16_eq]
  by_cases hpc : m.pc.toNat ≤ 0xFFE
  · rw [if_pos hpc]
    refine ⟨fun _ => ⟨m.word, rfl⟩, fun w hw => ?_⟩
    obtain rfl : m.word = w := Except.ok.inj hw
    rw [byTable?_word, fault_tick_of_le hpc, machine_tick_of_le hpc]
    cases m.step <;> rfl
  · have hfault := fault_tick_of_gt (Nat.lt_of_not_le hpc)
    rw [if_neg hpc, hfault]
    exact ⟨nofun, nofun⟩

/-- The carry is an operand of the first sum, and takes the place of the second one. -/
theorem carry_read_then_replaced :
    ∃ m s t : Machine,
      Setup.build { rom := [0x60, 0xFF, 0x6F, 0x01, 0x80, 0xF4, 0x8F, 0x04] } = .ok m ∧
      s = m.tick.machine.tick.machine ∧ t = s.tick.machine ∧
      s.memory.read16 s.pc = .ok 0x80F4 ∧ s.tick.fault = none ∧ byTable? 0x80F4 s = some t ∧
      t.registers.get 0 = 0 ∧ t.registers.get 0xF = 1 ∧
      t.memory.read16 t.pc = .ok 0x8F04 ∧ t.tick.fault = none ∧
      byTable? 0x8F04 t = some t.tick.machine ∧ t.tick.machine.registers.get 0xF = 0 := by
  have hrun : ∃ m s t : Machine,
      Setup.build { rom := [0x60, 0xFF, 0x6F, 0x01, 0x80, 0xF4, 0x8F, 0x04] } = .ok m ∧
      s = m.tick.machine.tick.machine ∧ t = s.tick.machine ∧
      s.memory.read16 s.pc = .ok 0x80F4 ∧ s.tick.fault = none ∧
      t.registers.get 0 = 0 ∧ t.registers.get 0xF = 1 ∧
      t.memory.read16 t.pc = .ok 0x8F04 ∧ t.tick.fault = none ∧
      t.tick.machine.registers.get 0xF = 0 :=
    ⟨_, _, _, rfl, rfl, rfl, by decide +kernel⟩
  obtain ⟨m, s, t, hb, hs, ht, hw, hf, h0, hcarry, hw', hf', hflag⟩ := hrun
  have hsum := (tick_follows_table s).2 _ hw
  have hsum' := (tick_follows_table t).2 _ hw'
  rw [if_pos hf, ← ht] at hsum
  rw [if_pos hf'] at hsum'
  exact ⟨m, s, t, hb, hs, ht, hw, hf, hsum, h0, hcarry, hw', hf', hsum', hflag⟩

end Machine

end Chip8
