import Chip8.Proofs.Raw.Safety
import Chip8.Proofs.Run.Operations

/-! # Failing for ever

A tick that cannot fetch leaves the program counter where it is, and nothing that a host does moves
it. Any other failure moves it on by two, so there are only so many of these in a row.

* `tick_fault_eq_outOfBounds_iff`: which ticks cannot fetch, and which address they name.
* `EqualInside`: machines that agree on what only ticks can change; `equalInside_afterAll`: a machine
  that cannot fetch keeps all of this, whatever is done to it.
* `pc_add_le_of_failing`: a row of failed ticks that could all fetch, and where it has come to.
* `fetch_failure_final`: both, and the addresses that a machine names which was set up. -/

namespace Chip8.Machine

variable {m m' s : Machine} {a : Nat}

theorem tick_fault_eq_outOfBounds_iff :
    m.tick.fault = some (.memoryOutOfBounds a) ↔
      0xFFF ≤ m.pc.toNat ∧ a = max m.pc.toNat 0x1000 := by
  rw [fault_tick_iff]
  constructor
  · rintro ⟨c, hc, hf⟩
    cases c with
    | outOfBounds => exact ⟨hc, Fault.memoryOutOfBounds.inj hf⟩
    | _ => cases hf
  · rintro ⟨hpc, rfl⟩
    exact ⟨.outOfBounds, hpc, rfl⟩

/-! ## A machine that cannot fetch -/

/-- The machines agree on what only ticks can change. -/
structure EqualInside (m m' : Machine) : Prop where
  pc : m'.pc = m.pc
  registers : m'.registers = m.registers
  index : m'.index = m.index
  stack : m'.stack = m.stack

theorem EqualInside.trans (h : m.EqualInside m') (h' : m'.EqualInside s) : m.EqualInside s where
  pc := h'.pc.trans h.pc
  registers := h'.registers.trans h.registers
  index := h'.index.trans h.index
  stack := h'.stack.trans h.stack

theorem equalInside_after (h : 0xFFF ≤ m.pc.toNat) (op : Operation) :
    m.EqualInside (m.after op) := by
  cases op with
  | tick =>
    rw [after, machine_tick_of_gt h]
    exact ⟨rfl, rfl, rfl, rfl⟩
  | timers c | memory c | display c => exact ⟨rfl, rfl, rfl, rfl⟩

theorem equalInside_afterAll (h : 0xFFF ≤ m.pc.toNat) (ops : List Operation) :
    m.EqualInside (m.afterAll ops) := by
  induction ops generalizing m with
  | nil => exact ⟨rfl, rfl, rfl, rfl⟩
  | cons op ops ih =>
    have hop := equalInside_after h op
    exact hop.trans (ih (by rwa [hop.pc]))

theorem eq_of_mem_faults (h : m.tick.fault = some (.memoryOutOfBounds a)) {ops : List Operation}
    {r : Option Fault} (hr : r ∈ m.faults ops) : r = some (.memoryOutOfBounds a) := by
  obtain ⟨before, -, rfl⟩ := exists_of_mem_faults hr
  rw [tick_fault_eq_outOfBounds_iff] at h ⊢
  rwa [(equalInside_afterAll h.1 before).pc]

/-! ## Failures in a row -/

/-- A tick that failed but could fetch has moved the program counter on by two. -/
theorem toNat_pc_of_failed (hf : m.tick.fault ≠ none)
    (hn : ∀ a, m.tick.fault ≠ some (.memoryOutOfBounds a)) :
    m.tick.machine.pc.toNat = m.pc.toNat + 2 ∧ m.pc.toNat ≤ 0xFFE := by
  obtain ⟨f, hf⟩ := Option.ne_none_iff_exists'.1 hf
  have hpc : m.pc.toNat ≤ 0xFFE := by
    by_contra hgt
    exact hn _ (tick_fault_eq_outOfBounds_iff.2 ⟨by omega, rfl⟩)
  rw [machine_of_fault hpc hf]
  exact ⟨toNat_advance_pc hpc, hpc⟩

theorem pc_add_le_of_failing {ops : List Operation} {l : List (Option Fault)}
    (h : l <+: m.faults ops) (hf : ∀ r ∈ l, r ≠ none)
    (hn : ∀ a, some (.memoryOutOfBounds a) ∉ l) :
    l = [] ∨ m.pc.toNat + 2 * l.length ≤ 0x1000 := by
  induction ops generalizing m l with
  | nil => exact .inl (List.prefix_nil.1 h)
  | cons op ops ih =>
    cases op with
    | tick =>
      rcases List.prefix_cons_iff.1 h with rfl | ⟨l, rfl, hl⟩
      · exact .inl rfl
      · have htick := toNat_pc_of_failed (m := m) (hf _ List.mem_cons_self)
          fun a ha => hn a (ha ▸ List.mem_cons_self)
        right
        rw [List.length_cons]
        rcases ih hl (fun r hr => hf r (List.mem_cons_of_mem _ hr))
          (fun a ha => hn a (List.mem_cons_of_mem _ ha)) with rfl | hle
        · rw [List.length_nil]
          omega
        · omega
    | timers c | memory c | display c => exact ih (m := m.after _) h hf hn

theorem exists_outOfBounds_of_failing {ops : List Operation} {l : List (Option Fault)}
    (h : l <:+: m.faults ops) (hlen : l.length = 2049) (hf : ∀ r ∈ l, r ≠ none) :
    ∃ a, some (.memoryOutOfBounds a) ∈ l := by
  by_contra hn
  obtain ⟨s, later, hpre⟩ := exists_of_infix_faults h
  rcases pc_add_le_of_failing hpre hf (not_exists.1 hn) with rfl | hle
  · cases hlen
  · omega

/-! ## The address that is named -/

theorem InRange.outOfBounds_address (hm : m.InRange)
    (h : m.tick.fault = some (.memoryOutOfBounds a)) : a = 0x1000 ∨ a = 0x1001 ∨ a = 0x1002 := by
  obtain ⟨hpc, rfl⟩ := tick_fault_eq_outOfBounds_iff.1 h
  have := hm.pc_le
  omega

/-- **A tick that cannot fetch is final**, and the only way to fail for ever. -/
theorem fetch_failure_final (m : Machine) (ops : List Operation) :
    (∀ a, m.tick.fault = some (.memoryOutOfBounds a) →
      (∀ r ∈ m.faults ops, r = some (.memoryOutOfBounds a)) ∧ (m.afterAll ops).pc = m.pc ∧
        (m.afterAll ops).registers = m.registers ∧ (m.afterAll ops).index = m.index ∧
        (m.afterAll ops).stack = m.stack) ∧
      (∀ l, l <:+: m.faults ops → l.length = 2049 → (∀ r ∈ l, r ≠ none) →
        ∃ a, some (.memoryOutOfBounds a) ∈ l) ∧
      (m.Initial → ∀ a, some (.memoryOutOfBounds a) ∈ m.faults ops →
        a = 0x1000 ∨ a = 0x1001 ∨ a = 0x1002) := by
  refine ⟨fun a h => ?_, fun l => exists_outOfBounds_of_failing, fun hm a ha => ?_⟩
  · have hin := equalInside_afterAll (tick_fault_eq_outOfBounds_iff.1 h).1 ops
    exact ⟨fun r => eq_of_mem_faults h, hin.pc, hin.registers, hin.index, hin.stack⟩
  · obtain ⟨before, -, h⟩ := exists_of_mem_faults ha
    exact (inRange_afterAll hm.inRange before).outOfBounds_address h.symm

/-- A jump to the last two words, which are empty and so refused. Behind them nothing is left to
fetch, and a jump that the host writes there later comes too late. -/
theorem final_behind_last_word :
    ∃ m s t : Machine, Setup.build { rom := [0x1F, 0xFC] } = .ok m ∧ s = m.tick.machine ∧
      t = s.tick.machine.tick.machine ∧ s.tick.fault = some (.notImplemented 0) ∧
      (∀ r ∈ s.faults (List.replicate 2049 .tick), r ≠ none) ∧
      (∃ a, some (.memoryOutOfBounds a) ∈ s.faults (List.replicate 2049 .tick) ∧
        (a = 0x1000 ∨ a = 0x1001 ∨ a = 0x1002)) ∧
      t.tick.fault = some (.memoryOutOfBounds 0x1000) ∧
      ∀ r ∈ t.faults [.memory (.write16 0xFFE 0x1200), .tick, .timers .step, .tick],
        r = some (.memoryOutOfBounds 0x1000) := by
  have hrun : ∃ m s t : Machine, Setup.build { rom := [0x1F, 0xFC] } = .ok m ∧
      s = m.tick.machine ∧ t = s.tick.machine.tick.machine ∧
      s.tick.fault = some (.notImplemented 0) ∧
      s.tick.machine.tick.fault = some (.notImplemented 0) ∧
      t.tick.fault = some (.memoryOutOfBounds 0x1000) :=
    ⟨_, _, _, rfl, rfl, rfl, by decide +kernel⟩
  obtain ⟨m, s, t, hb, rfl, rfl, h1, h2, h3⟩ := hrun
  have hfinal : ∀ ops, ∀ r ∈ faults _ ops, r = some (.memoryOutOfBounds 0x1000) := fun ops =>
    ((fetch_failure_final _ ops).1 _ h3).1
  have hne : ∀ {s : Machine} {f : Fault}, s.tick.fault = some f → s.tick.fault ≠ none :=
    fun h => Option.ne_none_iff_exists'.2 ⟨_, h⟩
  have hfail : ∀ r ∈ m.tick.machine.faults (List.replicate 2049 .tick), r ≠ none := by
    have hsplit : List.replicate 2049 Operation.tick =
      .tick :: .tick :: List.replicate 2047 .tick := rfl
    rw [hsplit, faults_tick, faults_tick, List.forall_mem_cons, List.forall_mem_cons]
    refine ⟨hne h1, hne h2, fun r hr => ?_⟩
    rw [hfinal _ r hr]
    nofun
  obtain ⟨-, hwindow, hrange⟩ := fetch_failure_final m (.tick :: List.replicate 2049 .tick)
  have hwithin : m.tick.machine.faults (List.replicate 2049 .tick) <:+:
      m.faults (.tick :: List.replicate 2049 .tick) := (List.suffix_cons _ _).isInfix
  obtain ⟨a, ha⟩ := hwindow _ hwithin (length_faults_replicate _ 2049) hfail
  refine ⟨m, _, _, hb, rfl, rfl, h1, hfail, ⟨a, ha, ?_⟩, h3, hfinal _⟩
  exact hrange (.inr ⟨_, hb⟩) a (hwithin.subset ha)

end Chip8.Machine
