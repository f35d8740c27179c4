import Chip8.Proofs.Machine.Report
import Chip8.Proofs.Run.Host

/-! # Logs

The log of a row of operations is what its ticks log. For a machine that traces, the log tells where
each tick starts: with the record of an instruction or, if none was fetched, with that of a failure.

* `log`; `log_untraced`: without tracing the log is the same but for the instructions.
* `StartsTick`: what follows the records of a tick; `Reports.split`: so these can be told from what
  follows. `ticks_of_logs`: hence the ticks from the log.
* `log_describes_run`: the statement above. -/

namespace Chip8.Machine

def log (m : Machine) (ops : List Operation) : List Record :=
  (m.atTicks ops).flatMap records

/-! ## Tracing -/

theorem after_withTracing (on : Bool) (m : Machine) (op : Operation) :
    (m.withTracing on).after op = (m.after op).withTracing on := by
  cases op with
  | tick => exact (tick_withTracing on m).1
  | timers c | memory c | display c => rfl

theorem atTicks_withTracing (on : Bool) (m : Machine) (ops : List Operation) :
    (m.withTracing on).atTicks ops = (m.atTicks ops).map (withTracing on) := by
  have hevery : ops.filter (fun _ => true) = ops := List.filter_eq_self.2 fun _ _ => rfl
  have hticks : (m.withTracing on).atTicks (ops.filter fun _ => true) =
      (m.atTicks ops).map (withTracing on) :=
    atTicks_filter (fun m op _ => after_withTracing on m op) (fun _ _ h => Bool.noConfusion h) rfl
      m ops
  rwa [hevery] at hticks

theorem log_untraced (m : Machine) (ops : List Operation) :
    (m.withTracing false).log ops = (m.log ops).filter fun r => r.1 ≠ .debug := by
  rw [log, log, atTicks_withTracing, List.flatMap_map, List.filter_flatMap]
  simp only [records_untraced]

theorem tracing_of_mem_atTicks {m s : Machine} {ops : List Operation} (ht : m.tracing = true)
    (hs : s ∈ m.atTicks ops) : s.tracing = true := by
  obtain ⟨before, -, rfl⟩ := exists_of_mem_atTicks hs
  rw [tracing_afterAll, ht]

/-! ## Where a tick starts -/

/-- If the log goes on with a failure then with that of a tick that fetched no instruction. -/
def StartsTick (l : List Record) : Prop :=
  ∀ pc f rest, l = (Event.failed pc f).record :: rest → f.Unread

section

variable {pc pc' : UInt16} {r r' : Option Fault} {e e' t t' : List Record}

theorem Reports.startsTick (h : Reports pc r e) (t : List Record) : StartsTick (e ++ t) := by
  intro pc' f rest heq
  cases h with
  | executed w inst | refused w inst hf s =>
    exact absurd (List.cons.inj heq).1 record_decoded_ne_failed
  | unread hf s =>
    obtain ⟨-, rfl⟩ := eq_of_record_failed (List.cons.inj heq).1
    exact hf

theorem startsTick_flatMap {l : List Machine} (hl : ∀ s ∈ l, s.tracing = true) :
    StartsTick (l.flatMap records) := by
  cases l with
  | nil => nofun
  | cons s l => exact (reports_records (hl s (List.mem_cons_self ..))).startsTick _

/-- The records of a tick tell where they end: behind the record of an instruction, a failure belongs
to the same tick exactly if it is not one of a tick that fetched nothing. -/
theorem Reports.split (h : Reports pc r e) (h' : Reports pc' r' e') (ht : StartsTick t)
    (ht' : StartsTick t') (heq : e ++ t = e' ++ t') : pc = pc' ∧ r = r' ∧ t = t' := by
  cases h with
  | executed w inst =>
    cases h' with
    | executed w' inst' =>
      obtain ⟨hhead, hrest⟩ := List.cons.inj heq
      exact ⟨pc_eq_of_record_decoded hhead, rfl, hrest⟩
    | unread hf' s' => exact absurd (List.cons.inj heq).1 record_decoded_ne_failed
    | refused w' inst' hf' s' =>
      -- then `t` would start with the failure of an instruction that was fetched
      have hstart := (List.cons.inj heq).2
      exact absurd (ht _ _ _ hstart) hf'
  | unread hf s =>
    cases h' with
    | unread hf' s' =>
      obtain ⟨hhead, hrest⟩ := List.cons.inj heq
      obtain ⟨hpc, hfault⟩ := eq_of_record_failed hhead
      exact ⟨hpc, congrArg some hfault, (List.cons.inj hrest).2⟩
    | executed w' inst' | refused w' inst' hf' s' =>
      exact absurd (List.cons.inj heq).1.symm record_decoded_ne_failed
  | refused w inst hf s =>
    cases h' with
    | executed w' inst' =>
      have hstart := (List.cons.inj heq).2.symm
      exact absurd (ht' _ _ _ hstart) hf
    | unread hf' s' => exact absurd (List.cons.inj heq).1 record_decoded_ne_failed
    | refused w' inst' hf' s' =>
      obtain ⟨hhead, hrest⟩ := List.cons.inj heq
      obtain ⟨hfailed, hshown⟩ := List.cons.inj hrest
      exact ⟨pc_eq_of_record_decoded hhead, congrArg some (eq_of_record_failed hfailed).2,
        (List.cons.inj hshown).2⟩

theorem Reports.ne_nil (h : Reports pc r e) : e ≠ [] := by
  cases h <;> exact List.cons_ne_nil _ _

end

theorem ticks_of_logs {l l' : List Machine} (hl : ∀ s ∈ l, s.tracing = true)
    (hl' : ∀ s ∈ l', s.tracing = true) (h : l.flatMap records = l'.flatMap records) :
    (l.map fun s => (s.pc, s.tick.fault)) = l'.map fun s => (s.pc, s.tick.fault) := by
  induction l generalizing l' with
  | nil =>
    cases l' with
    | nil => rfl
    | cons s' l' =>
      have hs' := (reports_records (hl' s' (List.mem_cons_self ..))).ne_nil
      exact absurd (List.append_eq_nil_iff.1 h.symm).1 hs'
  | cons s l ih =>
    have hs := reports_records (hl s (List.mem_cons_self ..))
    have hlater : ∀ u ∈ l, u.tracing = true := fun u hu => hl u (List.mem_cons_of_mem s hu)
    cases l' with
    | nil => exact absurd (List.append_eq_nil_iff.1 h).1 hs.ne_nil
    | cons s' l' =>
      have hs' := reports_records (hl' s' (List.mem_cons_self ..))
      have hlater' : ∀ u ∈ l', u.tracing = true := fun u hu => hl' u (List.mem_cons_of_mem s' hu)
      obtain ⟨hpc, hfault, hrest⟩ :=
        hs.split hs' (startsTick_flatMap hlater) (startsTick_flatMap hlater') h
      rw [List.map_cons, List.map_cons, hpc, hfault, ih hlater hlater' hrest]

/-- **The log describes the run**: it consists of what each tick logs, and the log of a machine that
traces tells how many ticks there were, where each started and what it came to. -/
theorem log_describes_run (m m' : Machine) (ops ops' : List Operation) :
    (∀ inst, m.tracing = true → m.Fetches inst → m.records =
      (.debug, "0x" ++ Hex.lower 4 m.pc.toNat ++ ": " ++ Hex.lower 4 m.word.toNat ++ " " ++
        inst.text) :: m.failureRecords) ∧
      ((m.tracing = false ∨ ∀ inst, ¬m.Fetches inst) → m.records = m.failureRecords) ∧
      (m.withTracing false).log ops = (m.log ops).filter (fun r => r.1 ≠ .debug) ∧
      (m.tracing = true → m'.tracing = true → m.log ops = m'.log ops' →
        (m.atTicks ops).length = (m'.atTicks ops').length ∧
          (m.atTicks ops).map pc = (m'.atTicks ops').map pc ∧ m.faults ops = m'.faults ops') := by
  refine ⟨fun inst ht hi => records_of_fetches ht hi, records_of_quiet, log_untraced m ops,
    fun ht ht' h => ?_⟩
  have hticks := ticks_of_logs (fun s hs => tracing_of_mem_atTicks ht hs)
    (fun s hs => tracing_of_mem_atTicks ht' hs) h
  refine ⟨?_, ?_, ?_⟩
  · have hlength := congrArg List.length hticks
    rwa [List.length_map, List.length_map] at hlength
  · have hpcs := congrArg (List.map Prod.fst) hticks
    rwa [List.map_map, List.map_map] at hpcs
  · have hfaults := congrArg (List.map Prod.snd) hticks
    rwa [List.map_map, List.map_map] at hfaults

/-- Two machines that differ in memory and on the display, with the same log of three ticks: one that
succeeds, one that fetches no instruction and one whose instruction is refused. The second shows the
register that the first has set and the program counter behind the word. -/
theorem equal_logs_of_unlike_machines :
    ∃ (m m' : Machine) (ops ops' : List Operation),
      Setup.build { rom := [0x60, 0x05, 0xFF, 0xFF], tracing := true } = .ok m ∧
      m' = m.afterAll [.memory (.write8 0x300 7), .display (.set 3 4 true)] ∧
      ops = [.tick, .tick, .tick] ∧ ops' = [.tick, .tick, .display .clear, .tick] ∧
      m.log ops = m'.log ops' ∧
      m.records = [(.debug, "0x0200: 6005 LD V0, 0x05")] ∧
      (m.withTracing false).records = [] ∧
      m.tick.machine.records =
        [(.warn, "cycle at 0x0202 failed: unknown opcode: 0xffff"),
          (.trace, Snapshot.text {
            registers := Registers.zero.set 0 5, index := 0, pc := 0x204, stack := CallStack.empty,
            timers := Timers.zero })] ∧
      m'.faults ops' = [none, some (.unknownOpcode 0xFFFF), some (.notImplemented 0)] := by
  have hrun : ∃ m m' : Machine,
      Setup.build { rom := [0x60, 0x05, 0xFF, 0xFF], tracing := true } = .ok m ∧
      m' = m.afterAll [.memory (.write8 0x300 7), .display (.set 3 4 true)] ∧
      (m.tracing = true ∧ m'.tracing = true ∧
        m.pc.toNat ≤ 0xFFE ∧ Instruction.decode m.word = .ok (.ldByte 0 5) ∧
        m.log [.tick, .tick, .tick] = m'.log [.tick, .tick, .display .clear, .tick] ∧
        m.pc = 0x200 ∧ m.word = 0x6005 ∧
        m.failureRecords = [] ∧ (m.withTracing false).failureRecords = [] ∧
        Instruction.decode m.tick.machine.word = .error (.unknownOpcode 0xFFFF) ∧
        m.tick.machine.failureRecords =
          [(.warn, "cycle at 0x0202 failed: unknown opcode: 0xffff"),
            (.trace, Snapshot.text {
              registers := Registers.zero.set 0 5, index := 0, pc := 0x204,
              stack := CallStack.empty, timers := Timers.zero })] ∧
        m.faults [.tick, .tick, .tick] =
          [none, some (.unknownOpcode 0xFFFF), some (.notImplemented 0)]) :=
    ⟨_, _, rfl, rfl, by decide +kernel⟩
  obtain ⟨m, m', hb, hm', ht, ht', hpc, hdecode, hlog, hstart, hword, hfailure, hquiet, hunknown,
    hrefused, hfaults⟩ := hrun
  obtain ⟨hfetches, -, -, hequal⟩ := log_describes_run m m' [.tick, .tick, .tick]
    [.tick, .tick, .display .clear, .tick]
  obtain ⟨-, hrecords, -, -⟩ := log_describes_run (m.withTracing false) m' [] []
  obtain ⟨-, hunread, -, -⟩ := log_describes_run m.tick.machine m' [] []
  refine ⟨m, m', _, _, hb, hm', rfl, rfl, hlog, ?_, ?_, ?_, ?_⟩
  · rw [hfetches _ ht ⟨hpc, hdecode⟩, hfailure, hstart, hword]
    decide +kernel
  · rw [hrecords (.inl rfl), hquiet]
  · rw [hunread (.inr fun inst hi => ?_), hrefused]
    exact absurd (hunknown.symm.trans hi.2) nofun
  · rw [← (hequal ht ht' hlog).2.2, hfaults]

end Chip8.Machine
