import Chip8.Proofs.Machine.Failure
import Chip8.Proofs.Machine.Idle
import Chip8.Proofs.Machine.Message

/-! # What a tick logs

A machine that traces logs each instruction that it fetches. If the tick fails, whether it traces or
not, it logs the failure and the state that it is left in.

* `records`: what the next tick logs; `failureRecords`: what it logs if it fails.
  `record_failed`: the state that it shows then; `records_of_fetches`, `records_of_quiet`: all that it
  logs.
* `Fault.Unread`: the faults of a tick that fetches no instruction; `unread_of_not_fetches`,
  `not_unread_of_fetches`.
* `withTracing`: a machine that traces or not; `records_untraced`: a tick of a machine that does not
  logs the same but for the instruction.
* `Reports`: the three shapes of what a machine that traces logs; `reports_records`. -/

namespace Chip8

/-- No instruction was fetched. -/
def Fault.Unread : Fault → Prop
  | memoryOutOfBounds _ | unknownOpcode _ => True
  | _ => False

namespace Machine

variable {m : Machine} {inst : Instruction} {f : Fault}

/-- What the next tick logs. -/
def records (m : Machine) : List Record := m.tick.events.map Event.record

/-- What the next tick logs if it fails: where it started and why it failed, and the registers, the
index, the program counter, the call stack and the timers that it has left. -/
def failureRecords (m : Machine) : List Record :=
  match m.tick.fault with
  | none => []
  | some f =>
    let left := m.tick.machine
    [(.warn, "cycle at 0x" ++ Hex.lower 4 m.pc.toNat ++ " failed: " ++ f.message),
      (.trace, Snapshot.text {
        registers := left.registers, index := left.index, pc := left.pc, stack := left.stack,
        timers := left.timers })]

/-! ## Ticks with their reports -/

theorem tick_of_fetches (h : m.Fetches inst) :
    let earlier := if m.tracing then [Event.decoded m.pc m.word inst] else []
    m.tick = match m.advance.execute inst with
      | .ok m' => .succeeded m' earlier
      | .error f => .failed m.pc f m.advance earlier := by
  have hd : Instruction.decode (m.memory.wordAt m.pc.toNat) = .ok inst := h.2
  simp only [tick, Memory.read16_eq, if_pos h.1, hd, word]
  cases m.advance.execute inst <;> rfl

theorem tick_of_not_fetches (h : ∀ inst, ¬m.Fetches inst) :
    ∃ f m', f.Unread ∧ m.tick = .failed m.pc f m' [] := by
  by_cases hpc : m.pc.toNat ≤ 0xFFE
  · cases hd : Instruction.decode (m.memory.wordAt m.pc.toNat) with
    | ok inst => exact absurd ⟨hpc, hd⟩ (h inst)
    | error f =>
      obtain ⟨-, rfl⟩ := Instruction.decode_eq_error_iff.1 hd
      exact ⟨.unknownOpcode (m.memory.wordAt m.pc.toNat), m.advance, trivial,
        by simp only [tick, Memory.read16_eq, if_pos hpc, hd]⟩
  · exact ⟨Memory.missing m.pc, m, trivial, by simp only [tick, Memory.read16_eq, if_neg hpc]⟩

theorem unread_of_not_fetches (h : ∀ inst, ¬m.Fetches inst) :
    ∃ f, m.tick.fault = some f ∧ f.Unread := by
  obtain ⟨f, m', hf, ht⟩ := tick_of_not_fetches h
  exact ⟨f, by rw [ht]; rfl, hf⟩

theorem not_unread_of_fetches (h : m.Fetches inst) (hf : m.tick.fault = some f) : ¬f.Unread := by
  cases (fault_tick_of_fetches h).1 hf <;> exact id

/-! ## Records -/

/-- A tick that failed logs the state that it has left behind what it logged before. -/
theorem record_failed (pc : UInt16) (f : Fault) (m : Machine) (earlier : List Event) :
    (Tick.failed pc f m earlier).events.map Event.record = earlier.map Event.record ++
      [(.warn, "cycle at 0x" ++ Hex.lower 4 pc.toNat ++ " failed: " ++ f.message),
        (.trace, Snapshot.text {
          registers := m.registers, index := m.index, pc := m.pc, stack := m.stack,
          timers := m.timers })] := by
  rw [Tick.failed, snapshot_eq, List.map_append]
  rfl

theorem records_eq_of_fetches (h : m.Fetches inst) :
    m.records =
      (if m.tracing then [(Event.decoded m.pc m.word inst).record] else []) ++
        m.failureRecords := by
  rw [records, failureRecords, tick_of_fetches h]
  cases m.advance.execute inst with
  | ok m' => cases m.tracing <;> rfl
  | error f =>
    dsimp only
    rw [record_failed]
    cases m.tracing <;> rfl

theorem records_of_fetches (ht : m.tracing = true) (h : m.Fetches inst) :
    m.records =
      (.debug, "0x" ++ Hex.lower 4 m.pc.toNat ++ ": " ++ Hex.lower 4 m.word.toNat ++ " " ++
        inst.text) :: m.failureRecords := by
  rw [records_eq_of_fetches h, if_pos ht]
  rfl

theorem records_of_quiet (h : m.tracing = false ∨ ∀ inst, ¬m.Fetches inst) :
    m.records = m.failureRecords := by
  by_cases hi : ∃ inst, m.Fetches inst
  · obtain ⟨inst, hi⟩ := hi
    have ht : m.tracing = false := h.resolve_right fun hn => hn inst hi
    rw [records_eq_of_fetches hi, ht]
    rfl
  · obtain ⟨f, m', -, ht⟩ := tick_of_not_fetches (not_exists.1 hi)
    rw [records, failureRecords, ht, record_failed]
    rfl

/-! ## Tracing -/

def withTracing (on : Bool) (m : Machine) : Machine := { m with tracing := on }

theorem tick_withTracing (on : Bool) (m : Machine) :
    (m.withTracing on).tick.machine = m.tick.machine.withTracing on ∧
      (m.withTracing on).tick.fault = m.tick.fault :=
  tick_mapIdle (f := fun i => { i with tracing := on }) rfl

/-- A snapshot does not tell whether the machine traces. -/
theorem failureRecords_withTracing (on : Bool) (m : Machine) :
    (m.withTracing on).failureRecords = m.failureRecords := by
  obtain ⟨hmachine, hfault⟩ := tick_withTracing on m
  rw [failureRecords, failureRecords, hmachine, hfault]
  rfl

theorem level_of_mem_failureRecords {r : Record} (h : r ∈ m.failureRecords) : r.1 ≠ .debug := by
  rw [failureRecords] at h
  cases hf : m.tick.fault with
  | none => simp [hf] at h
  | some f =>
    simp only [hf, List.mem_cons, List.not_mem_nil, or_false] at h
    rcases h with rfl | rfl <;> nofun

theorem records_untraced (m : Machine) :
    (m.withTracing false).records = m.records.filter fun r => r.1 ≠ .debug := by
  have hkept : m.failureRecords.filter (fun r => r.1 ≠ .debug) = m.failureRecords :=
    List.filter_eq_self.2 fun r hr => decide_eq_true (level_of_mem_failureRecords hr)
  rw [records_of_quiet (.inl rfl), failureRecords_withTracing]
  by_cases hq : m.tracing = false ∨ ∀ inst, ¬m.Fetches inst
  · rw [records_of_quiet hq, hkept]
  · simp only [not_or, not_forall, not_not, Bool.not_eq_false] at hq
    obtain ⟨ht, inst, hi⟩ := hq
    rw [records_of_fetches ht hi, List.filter_cons_of_neg (by simp), hkept]

/-! ## Shapes -/

/-- The records of a tick that starts at `pc`, of a machine that traces, with its fault. -/
inductive Reports (pc : UInt16) : Option Fault → List Record → Prop where
  | executed (w : UInt16) (inst : Instruction) :
    Reports pc none [(Event.decoded pc w inst).record]
  | unread {f : Fault} (hf : f.Unread) (s : Snapshot) :
    Reports pc (some f) [(Event.failed pc f).record, (Event.shown s).record]
  | refused (w : UInt16) (inst : Instruction) {f : Fault} (hf : ¬f.Unread) (s : Snapshot) :
    Reports pc (some f)
      [(Event.decoded pc w inst).record, (Event.failed pc f).record, (Event.shown s).record]

theorem reports_records (ht : m.tracing = true) : Reports m.pc m.tick.fault m.records := by
  by_cases hi : ∃ inst, m.Fetches inst
  · obtain ⟨inst, hi⟩ := hi
    rw [records_eq_of_fetches hi, if_pos ht, failureRecords]
    cases hf : m.tick.fault with
    | none => exact .executed m.word inst
    | some f => exact .refused m.word inst (not_unread_of_fetches hi hf) m.tick.machine.snapshot
  · obtain ⟨f, hf, hunread⟩ := unread_of_not_fetches (not_exists.1 hi)
    rw [records_of_quiet (.inr (not_exists.1 hi)), failureRecords, hf]
    exact .unread hunread m.tick.machine.snapshot

end Machine

end Chip8
