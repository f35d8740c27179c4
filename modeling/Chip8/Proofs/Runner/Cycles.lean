import Chip8.Proofs.Runner.Progress

/-! # Every cycle is accounted for

What the runner says about a run, and where the run ends, follow from what the ticks of the machine
come to one after the other, however many are asked for.

* `Counters`: the two counters of a run in words of 64 bits; `count?` aborts if a sum does not fit.
  `exists_counters`: it never does.
* `cycles_accounted`: the statement above. -/

namespace Chip8.Runner

/-! ## Counters -/

/-- A sum that stays within a word of 64 bits. -/
def add64? (a b : UInt64) : Option UInt64 :=
  if a.toNat + b.toNat < UInt64.size then some (a + b) else none

/-- The ticks that were executed, and those of them that failed. -/
structure Counters where
  executed : UInt64
  failures : UInt64
  deriving DecidableEq

namespace Counters

def zero : Counters := ⟨0, 0⟩

def count? (c : Counters) (t : Tick) : Option Counters := do
  let executed ← add64? c.executed 1
  let failures ← (if t.fault.isSome then add64? c.failures 1 else some c.failures)
  return { executed, failures }

theorem exists_add64? {a : UInt64} (h : a.toNat + 1 < UInt64.size) :
    ∃ b, add64? a 1 = some b ∧ b.toNat = a.toNat + 1 := by
  have hone : (1 : UInt64).toNat = 1 := rfl
  refine ⟨a + 1, ?_, ?_⟩
  · rw [add64?, hone, if_pos h]
  · rw [UInt64.toNat_add, hone]
    exact Nat.mod_eq_of_lt h

/-- No more ticks fail than are executed, so there is room for both sums if there is for one. -/
theorem exists_count? {c : Counters} (t : Tick) (h : c.executed.toNat + 1 < UInt64.size)
    (hle : c.failures.toNat ≤ c.executed.toNat) :
    ∃ d, c.count? t = some d ∧ d.executed.toNat = c.executed.toNat + 1 ∧
      d.failures.toNat = c.failures.toNat + if t.fault.isSome then 1 else 0 := by
  obtain ⟨executed, he, hexecuted⟩ := exists_add64? h
  obtain ⟨failures, hf, hfailures⟩ := exists_add64? (a := c.failures) (by omega)
  by_cases ht : t.fault.isSome = true
  · refine ⟨⟨executed, failures⟩, ?_, hexecuted, ?_⟩
    · rw [count?, he, if_pos ht, hf]
      rfl
    · rw [if_pos ht, hfailures]
  · refine ⟨⟨executed, c.failures⟩, ?_, hexecuted, ?_⟩
    · rw [count?, he, if_neg ht]
      rfl
    · rw [if_neg ht, Nat.add_zero]

theorem exists_counters (m : Machine) {n : Nat} (h : n < UInt64.size) :
    ∃ c, ((List.range n).map fun i => (m.afterTicks i).tick).foldlM count? zero = some c ∧
      c.executed.toNat = n ∧ c.failures.toNat = m.failures n := by
  induction n with
  | zero => exact ⟨zero, rfl, rfl, rfl⟩
  | succ n ih =>
    obtain ⟨c, hc, hexecuted, hfailures⟩ := ih (by omega)
    have hle : c.failures.toNat ≤ c.executed.toNat := by
      rw [hexecuted, hfailures]
      exact m.failures_le n
    obtain ⟨d, hd, hexecuted', hfailures'⟩ :=
      exists_count? (m.afterTicks n).tick (by omega) hle
    refine ⟨d, ?_, by omega, ?_⟩
    · rw [List.range_succ, List.map_append, List.foldlM_append, hc]
      simpa using hd
    · rw [hfailures', hfailures, Machine.failures_succ]
      rfl

end Counters

/-! ## The account -/

/-- **Every cycle is accounted for**, whatever the layout of the log. -/
theorem cycles_accounted (o : Options) {data : List UInt8} (h : data.length ≤ 3584) :
    ∃ m, Setup.build { rom := data, tracing := o.tracing } = .ok m ∧
      ∃ (n failures : Nat) (halt : Option Fault),
        (o.keepGoing = false →
          (∀ k f, k < o.cycles.toNat → (∀ i < k, m.result i = none) → m.result k = some f →
            n = k + 1 ∧ failures = 1 ∧ halt = some f) ∧
          ((∀ i < o.cycles.toNat, m.result i = none) →
            n = o.cycles.toNat ∧ failures = 0 ∧ halt = none)) ∧
        (o.keepGoing = true → n = o.cycles.toNat ∧
          failures = (List.range n).countP (fun i => (m.result i).isSome) ∧ halt = none) ∧
        (∀ line : Layout, (Session.start o (.ok data)).output.map (Item.printed line) =
          [line .info "chip_8_runner" s!"loaded {data.length} byte ROM from {o.rom}"]
          ++ ((m.reported n).filter o.shows).map
            (fun e => line e.level "chip_8_vm::cpu" e.message)
          ++ (halt.toList.map fun f =>
            line .error "chip_8_runner" s!"halted after {n} cycles: {f.message}")
          ++ [line .info "chip_8_runner" (s!"ran {n} cycles, {failures} failed, PC at 0x"
                ++ Hex.lower 4 (m.afterTicks n).pc.toNat),
            (m.afterTicks n).display.text]
          ++ (if o.dumpState then [(m.afterTicks n).fullDump ++ "\n"] else [])) ∧
        ((Session.start o (.ok data)).frame = o.frameOut.map fun path =>
          (path, (m.afterTicks n).display.frame (o.foreground.getD Color.white)
            (o.background.getD Color.black))) ∧
        ∃ c, (Machine.ticks o.keepGoing o.cycles.toNat m).foldlM Counters.count? Counters.zero =
            some c ∧ c.executed.toNat = n ∧ c.failures.toNat = failures := by
  let m := o.machine data
  let n := o.extent m
  have hstops : m.Stops o.keepGoing o.cycles.toNat n := o.stops_extent m
  have hplay : Progress.play o m = Progress.upTo o m n := Progress.play_eq o m
  refine ⟨m, Setup.build_of_le h, n, m.failures n, m.haltAfter o.keepGoing n, ?_, ?_, ?_, ?_, ?_⟩
  · intro hgo
    rw [hgo] at hstops ⊢
    refine ⟨fun k f hk hbefore hf => ?_, fun hquiet => ?_⟩
    · rw [hstops.eq_succ hk hbefore hf]
      exact ⟨rfl, Machine.failures_eq_one hbefore hf, Machine.haltAfter_of_failed hf⟩
    · rw [hstops.eq_budget (.inr hquiet)]
      exact ⟨rfl, Machine.failures_eq_zero hquiet, Machine.haltAfter_of_quiet (.inr hquiet)⟩
  · intro hgo
    exact ⟨hstops.eq_budget (.inl hgo), rfl, Machine.haltAfter_of_quiet (.inl hgo)⟩
  · intro line
    rw [Session.start_of_le o h, hplay, Progress.report_upTo]
    simp only [Progress.conclusion, List.map_cons, List.map_append, List.map_map,
      apply_ite (List.map (Item.printed line)), List.map_nil, List.append_assoc, List.cons_append,
      List.nil_append]
    rfl
  · exact Session.frame_start o h
  · have hlt : n < UInt64.size :=
      Nat.lt_of_le_of_lt (Machine.length_ticks_le _ _ m) o.cycles.toNat_lt
    rw [Machine.ticks_eq]
    exact Counters.exists_counters m hlt

/-- A return with nothing to return to, behind an instruction that succeeds. -/
theorem return_ends_second_cycle :
    ∃ (o : Options) (data : List UInt8) (m : Machine),
      o.cycles = 5 ∧ o.keepGoing = false ∧ data = [0x60, 0x05, 0x00, 0xEE] ∧ data.length ≤ 3584 ∧
      Setup.build { rom := data, tracing := o.tracing } = .ok m ∧
      (∀ i < 1, m.result i = none) ∧ m.result 1 = some (.stackUnderflow 0x202) ∧
      "ERROR [chip_8_runner] halted after 2 cycles: stack underflow on RET at 0x0202\n" ∈
        (Session.start o (.ok data)).output.map (Item.printed Layout.columns) ∧
      "INFO  [chip_8_runner] ran 2 cycles, 1 failed, PC at 0x0204\n" ∈
        (Session.start o (.ok data)).output.map (Item.printed Layout.columns) := by
  let o : Options :=
    { rom := "rom.ch8", cycles := 5, keepGoing := false, background := none, foreground := none,
      frameOut := none, dumpState := false, debug := true, trace := false }
  let data : List UInt8 := [0x60, 0x05, 0x00, 0xEE]
  have hlength : data.length ≤ 3584 := by decide
  obtain ⟨m, hb, n, failures, halt, hstop, -, houtput, -⟩ := cycles_accounted o hlength
  obtain ⟨hfirst, hsecond, hpc⟩ : (∀ i < 1, m.result i = none) ∧
      m.result 1 = some (.stackUnderflow 0x202) ∧ (m.afterTicks 2).pc = 0x204 := by
    rw [(Setup.eq_machine_of_build hb).2]
    decide +kernel
  obtain ⟨rfl, rfl, rfl⟩ := (hstop rfl).1 1 _ (by decide) hfirst hsecond
  refine ⟨o, data, m, rfl, rfl, rfl, hlength, hb, hfirst, hsecond, ?_, ?_⟩
  · have hline : "ERROR [chip_8_runner] halted after 2 cycles: stack underflow on RET at 0x0202\n" =
        Layout.columns .error "chip_8_runner"
          s!"halted after {1 + 1} cycles: {(Fault.stackUnderflow 0x202).message}" := by
      decide +kernel
    rw [houtput, hline]
    simp
  · have hline : "INFO  [chip_8_runner] ran 2 cycles, 1 failed, PC at 0x0204\n" =
        Layout.columns .info "chip_8_runner" (s!"ran {1 + 1} cycles, {1} failed, PC at 0x"
          ++ Hex.lower 4 (m.afterTicks (1 + 1)).pc.toNat) := by
      rw [hpc]
      decide +kernel
    rw [houtput, hline]
    simp

end Chip8.Runner
