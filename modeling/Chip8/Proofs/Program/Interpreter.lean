import Chip8.Program
import Chip8.Proofs.Instruction.Masking
import Chip8.Proofs.Machine.Report
import Chip8.Proofs.Machine.Start
import Chip8.Proofs.Run.Locality

/-! # Programs run as written

An interpreter takes the instructions straight from the list and never looks at memory. A machine
that was built with the words of the list does what the interpreter does, for as long as the program
counter is at one of these words.

* `at?`: the instruction at an address; `at?_eq_some_iff`, `isSome_at?_iff`.
* `Machine.perform`: a tick with the instruction given, not fetched. `step?`, `after?`: the
  interpreter, for one instruction and for a number of them.
* `Holds`: the words of the list are in memory; `holds_machine`: they are when the machine starts.
  `tick_of_holds`: then a tick performs the instruction at the program counter.
* `after?_eq_some_iff`: so the interpreter gets as far as the machine stays on the list.
* `runs_as_written`: which programs can be built, and that they run as written. -/

namespace Chip8

/-- **A tick with the instruction given.** Its operands are cut first. -/
def Machine.perform (m : Machine) (inst : Instruction) : Tick :=
  let earlier := if m.tracing then [Event.decoded m.pc inst.encode inst.masked] else []
  match m.advance.execute inst.masked with
  | .ok m' => .succeeded m' earlier
  | .error f => .failed m.pc f m.advance earlier

namespace Program

/-! ## The interpreter -/

/-- The instruction at an address, if one starts there. -/
def at? (program : List Instruction) (a : UInt16) : Option Instruction :=
  if 0x200 ≤ a.toNat ∧ a.toNat % 2 = 0 then program[(a.toNat - 0x200) / 2]? else none

/-- One instruction of the list, unless the program counter is off it. -/
def step? (program : List Instruction) (m : Machine) : Option Tick :=
  (at? program m.pc).map m.perform

/-- The interpreter after `n` instructions. -/
def after? (program : List Instruction) (m : Machine) : Nat → Option Machine
  | 0 => some m
  | n + 1 => (after? program m n).bind fun s => (step? program s).map Tick.machine

variable {program : List Instruction} {inst : Instruction} {a : UInt16}

theorem at?_eq_some_iff :
    at? program a = some inst ↔ ∃ k, a.toNat = 0x200 + 2 * k ∧ program[k]? = some inst := by
  unfold at?
  constructor
  · intro h
    split_ifs at h with ha
    exact ⟨(a.toNat - 0x200) / 2, by omega, h⟩
  · rintro ⟨k, ha, hk⟩
    rw [if_pos (by omega), show (a.toNat - 0x200) / 2 = k by omega, hk]

theorem isSome_at?_iff :
    (at? program a).isSome = true ↔ ∃ k < program.length, a.toNat = 0x200 + 2 * k := by
  rw [Option.isSome_iff_exists]
  constructor
  · rintro ⟨inst, h⟩
    obtain ⟨k, ha, hk⟩ := at?_eq_some_iff.1 h
    exact ⟨k, (List.getElem?_eq_some_iff.1 hk).1, ha⟩
  · rintro ⟨k, hk, ha⟩
    exact ⟨program[k], at?_eq_some_iff.2 ⟨k, ha, List.getElem?_eq_getElem hk⟩⟩

/-! ## The list in memory -/

/-- The words of the list are in memory, in order. -/
def Holds (program : List Instruction) (memory : Memory) : Prop :=
  ∀ k inst, program[k]? = some inst →
    0x200 + 2 * k ≤ 0xFFE ∧ memory.wordAt (0x200 + 2 * k) = inst.encode

theorem getElem?_assemble {k : Nat} (h : program[k]? = some inst) :
    (assemble program)[2 * k]? = some (Word.high inst.encode) ∧
      (assemble program)[2 * k + 1]? = some (Word.low inst.encode) := by
  induction program generalizing k with
  | nil => simp at h
  | cons first rest ih =>
    rw [assemble_cons, Word.bytes]
    cases k with
    | zero =>
      obtain rfl : first = inst := by simpa using h
      exact ⟨rfl, rfl⟩
    | succ k => exact ih (by simpa using h)

theorem holds_machine {s : Setup} (hs : s.rom = assemble program) (hle : program.length ≤ 1792) :
    Holds program s.machine.memory := by
  intro k inst hk
  have hlt : k < program.length := (List.getElem?_eq_some_iff.1 hk).1
  obtain ⟨hhigh, hlow⟩ := getElem?_assemble hk
  rw [← hs] at hhigh hlow
  refine ⟨by omega, ?_⟩
  rw [Setup.machine, Memory.wordAt_overlay (by omega) hhigh hlow, Word.ofBytes_high_low]

/-- What is fetched is the masked instruction, which has the same word. -/
theorem tick_of_holds {m : Machine} (hm : Holds program m.memory)
    (h : at? program m.pc = some inst) : m.tick = m.perform inst := by
  obtain ⟨k, hpc, hk⟩ := at?_eq_some_iff.1 h
  obtain ⟨hle, hmem⟩ := hm k inst hk
  have hword : m.word = inst.encode := by rw [Machine.word, hpc, hmem]
  have hfetches : m.Fetches inst.masked :=
    ⟨by omega, by rw [hword, Instruction.decode_encode_eq_masked]⟩
  rw [Machine.tick_of_fetches hfetches, hword]
  rfl

/-! ## In step -/

theorem perform_withMemory (memory : Memory) (m : Machine) (inst : Instruction) :
    (m.withMemory memory).perform inst =
      { m.perform inst with machine := (m.perform inst).machine.withMemory memory } := by
  have hadvance : (m.withMemory memory).advance = m.advance.withMemory memory := rfl
  simp only [Machine.perform, hadvance, Machine.execute_withMemory]
  cases m.advance.execute inst.masked <;> rfl

variable {m s : Machine} {t : Tick}

/-- The interpreter takes an instruction where the machine takes a tick. -/
theorem step?_eq_some_iff (memory : Memory) (hm : Holds program m.memory) :
    step? program (m.withMemory memory) = some t ↔
      (at? program m.pc).isSome = true ∧
        t = { m.tick with machine := m.tick.machine.withMemory memory } := by
  rw [step?, Machine.pc_withMemory]
  cases h : at? program m.pc with
  | none => simp
  | some inst =>
    rw [Option.map_some, perform_withMemory, ← tick_of_holds hm h, Option.some_inj, eq_comm]
    exact (and_iff_right rfl).symm

theorem after?_eq_some_iff (memory : Memory) (hm : Holds program m.memory) (n : Nat) :
    after? program (m.withMemory memory) n = some s ↔
      (∀ i < n, (at? program (m.afterTicks i).pc).isSome = true) ∧
        s = (m.afterTicks n).withMemory memory := by
  induction n generalizing s with
  | zero =>
    rw [after?, Option.some_inj, eq_comm]
    exact (and_iff_right fun i hi => absurd hi (Nat.not_lt_zero i)).symm
  | succ n ih =>
    have hn : Holds program (m.afterTicks n).memory := by rwa [Machine.memory_afterTicks]
    rw [after?, Option.bind_eq_some_iff, Machine.afterTicks_succ]
    constructor
    · rintro ⟨t, ht, hs⟩
      obtain ⟨hon, rfl⟩ := ih.1 ht
      obtain ⟨u, hu, rfl⟩ := Option.map_eq_some_iff.1 hs
      obtain ⟨hi, rfl⟩ := (step?_eq_some_iff memory hn).1 hu
      refine ⟨fun i hlt => ?_, rfl⟩
      rcases Nat.lt_succ_iff_lt_or_eq.1 hlt with hlt | rfl
      · exact hon i hlt
      · exact hi
    · rintro ⟨hon, rfl⟩
      have hu := (step?_eq_some_iff memory hn).2 ⟨hon n (by omega), rfl⟩
      exact ⟨_, ih.2 ⟨fun i hi => hon i (by omega), rfl⟩, by rw [hu]; rfl⟩

/-- **Programs run as written.** The interpreter starts with nothing but the font in memory. -/
theorem runs_as_written (program : List Instruction) (tracing : Bool) :
    let setup : Setup := { rom := assemble program, tracing := tracing }
    let start : Machine := { Machine.new with tracing := tracing }
    (program.length ≤ 1792 → ∃ m, setup.build = .ok m) ∧
      (1792 < program.length → setup.build = .error (.romTooLarge (2 * program.length) 3584)) ∧
      ∀ m, setup.build = .ok m →
        (∀ n k inst, program[k]? = some inst → (m.afterTicks n).pc.toNat = 0x200 + 2 * k →
          (m.afterTicks n).tick = (m.afterTicks n).perform inst) ∧
        (∀ n s, after? program start n = some s ↔
          (∀ i < n, ∃ k < program.length, (m.afterTicks i).pc.toNat = 0x200 + 2 * k) ∧
            s = (m.afterTicks n).withMemory Memory.new) ∧
        ∀ n s t, after? program start n = some s → step? program s = some t →
          t.fault = (m.afterTicks n).tick.fault ∧ t.events = (m.afterTicks n).tick.events := by
  intro setup start
  have hlength : setup.rom.length = 2 * program.length := length_assemble program
  refine ⟨fun hle => ⟨_, Setup.build_of_le (by omega)⟩, fun hgt => ?_, fun m hb => ?_⟩
  · rw [Setup.build_of_gt (by omega), hlength]
  obtain ⟨hle, rfl⟩ := Setup.eq_machine_of_build hb
  have hholds : Holds program setup.machine.memory := holds_machine rfl (by omega)
  have hn : ∀ n, Holds program (setup.machine.afterTicks n).memory := fun n => by
    rwa [Machine.memory_afterTicks]
  have hafter : ∀ n s, after? program start n = some s ↔ _ := fun n s =>
    after?_eq_some_iff Memory.new hholds n
  refine ⟨fun n k inst hk hpc => ?_, fun n s => ?_, fun n s t hs ht => ?_⟩
  · exact tick_of_holds (hn n) (at?_eq_some_iff.2 ⟨k, hpc, hk⟩)
  · simp only [hafter, isSome_at?_iff]
  · obtain ⟨-, rfl⟩ := (hafter n s).1 hs
    obtain ⟨-, rfl⟩ := (step?_eq_some_iff Memory.new (hn n)).1 ht
    exact ⟨rfl, rfl⟩

/-- A loop whose operands are all too wide. The call of a host routine clears the display. -/
theorem masked_loop_runs_as_written :
    ∃ (program : List Instruction) (m s : Machine),
      program = [.sys 0xF0E0, .addByte 0x13 7, .jp 0x5200] ∧ program.length ≤ 1792 ∧
      Setup.build { rom := assemble program } = .ok m ∧
      m.tick = m.perform (.sys 0xF0E0) ∧ m.tick.fault = none ∧
      (∀ i < 4, ∃ k < program.length, (m.afterTicks i).pc.toNat = 0x200 + 2 * k) ∧
      after? program Machine.new 4 = some s ∧ s = (m.afterTicks 4).withMemory Memory.new ∧
      s.pc = 0x202 ∧ s.registers.get 3 = 7 := by
  have hrun : ∃ m,
      Setup.build { rom := assemble [.sys 0xF0E0, .addByte 0x13 7, .jp 0x5200] } = .ok m ∧
      m.tick.fault = none ∧ m.pc.toNat = 0x200 ∧
      (∀ i < 4, ∃ k < 3, (m.afterTicks i).pc.toNat = 0x200 + 2 * k) ∧
      (m.afterTicks 4).pc = 0x202 ∧ (m.afterTicks 4).registers.get 3 = 7 :=
    ⟨_, Setup.build_of_le (by decide), by decide +kernel⟩
  obtain ⟨m, hb, hfault, hstart, hon, hpc, hget⟩ := hrun
  obtain ⟨-, -, hruns⟩ := runs_as_written [.sys 0xF0E0, .addByte 0x13 7, .jp 0x5200] false
  obtain ⟨htick, hafter, -⟩ := hruns m hb
  have hs := (hafter 4 _).2 ⟨hon, rfl⟩
  refine ⟨_, m, _, rfl, by decide, hb, ?_, hfault, hon, hs, rfl, ?_, ?_⟩
  · exact htick 0 0 _ rfl hstart
  · rw [Machine.pc_withMemory]
    exact hpc
  · rw [Machine.registers_withMemory]
    exact hget

end Program

end Chip8
