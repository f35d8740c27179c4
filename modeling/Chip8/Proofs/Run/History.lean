import Chip8.Machine.Setup
import Chip8.Proofs.Machine.Range
import Chip8.Proofs.Run.Latest
import Chip8.Proofs.Run.Ticks
import Mathlib.Data.Nat.Count

/-! # The history of the call stack

The call stack of a machine that was set up and then only ticked is a record of the calls it made.
Its depth is the number of calls less the number of returns, and every slot, taken or given up, holds
the address behind the call that took it last.

* `Calls`, `Returns`: the next tick is a call, or a return, and succeeds. `stackMove_tick`: these
  are the ticks that change the stack, and how they do.
* `callCount`, `returnCount`: how many there were in a run; `depth_add_returnCount`.
* `TakesSlot`, `LatestCall`: a call takes a slot, and is the latest to do so; `slot_afterTicks`.
* `stack_history`: the statement above. -/

namespace Chip8.Machine

variable {m : Machine}

/-- The next tick is a call that succeeds. -/
def Calls (m : Machine) : Prop := ∃ target, m.Executes (.call target)

/-- The next tick is a return that succeeds. -/
def Returns (m : Machine) : Prop := m.Executes .ret

theorem calls_iff :
    m.Calls ↔ (m.pc.toNat ≤ 0xFFE ∧ Word.kind m.word = 2) ∧ m.tick.fault = none := by
  constructor
  · rintro ⟨target, ⟨hpc, hd⟩, hf⟩
    exact ⟨⟨hpc, (Instruction.decode_eq_call_iff.1 hd).1⟩, hf⟩
  · rintro ⟨⟨hpc, hk⟩, hf⟩
    exact ⟨_, ⟨hpc, Instruction.decode_eq_call_iff.2 ⟨hk, rfl⟩⟩, hf⟩

instance (m : Machine) (inst : Instruction) : Decidable (m.Fetches inst) :=
  inferInstanceAs (Decidable (_ ∧ _))

instance (m : Machine) (inst : Instruction) : Decidable (m.Executes inst) :=
  inferInstanceAs (Decidable (_ ∧ _))

instance : DecidablePred Calls := fun _ => decidable_of_iff _ calls_iff.symm

instance : DecidablePred Returns := fun m => inferInstanceAs (Decidable (m.Executes .ret))

/-! ## One tick -/

/-- What a tick makes of the stack. -/
inductive StackMove (m : Machine) : CallStack → Prop where
  | called (hc : m.Calls) (hr : ¬m.Returns) {stack : CallStack}
    (hs : m.stack.push? (m.pc + 2) = some stack) : StackMove m stack
  | returned (hc : ¬m.Calls) (hr : m.Returns) {a : UInt16} {stack : CallStack}
    (hs : m.stack.pop? = some (a, stack)) : StackMove m stack
  | kept (hc : ¬m.Calls) (hr : ¬m.Returns) : StackMove m m.stack

theorem stackMove_of_fault {f : Fault} (h : m.tick.fault = some f) : StackMove m m.stack := by
  have hne : m.tick.fault ≠ none := by simp [h]
  exact .kept (fun ⟨_, hi⟩ => hne hi.2) fun hi => hne hi.2

theorem stackMove_of_fetches {inst : Instruction} (h : m.Fetches inst)
    (hc : ∀ target, inst ≠ .call target) (hr : inst ≠ .ret) : StackMove m m.stack :=
  .kept (fun ⟨target, hi⟩ => hc target (h.unique hi.1)) fun hi => hr (h.unique hi.1)

theorem stackMove_of_straight {inst : Instruction} (h : m.Fetches inst) (hs : inst.Straight) :
    StackMove m m.stack := by
  refine stackMove_of_fetches h ?_ ?_
  · rintro target rfl
    exact hs
  · rintro rfl
    exact hs

/-- A fault rules out both a call and a return that succeeds, and so does any other instruction. -/
theorem stackMove_tick (m : Machine) : StackMove m m.tick.machine.stack := by
  have h := course_tick m
  generalize hf : m.tick.fault = f at h
  generalize m.tick.machine = m' at h
  cases h with
  | stuck | refused => exact stackMove_of_fault hf
  | passed hi hs => exact stackMove_of_straight hi hs
  | cleared hi => exact stackMove_of_straight hi trivial
  | skipped hi hs => exact stackMove_of_straight hi (Instruction.straight_of_skips hs)
  | jumped hi => exact stackMove_of_fetches hi nofun nofun
  | called hi hs =>
    refine .called ⟨_, hi, hf⟩ (fun hr => ?_) hs
    cases hi.unique hr.1
  | returned hi hs =>
    refine .returned (fun ⟨_, hc⟩ => ?_) ⟨hi, hf⟩ hs
    cases hi.unique hc.1

/-- The next tick is a call that succeeds and takes the slot `k`. -/
def TakesSlot (m : Machine) (k : Nat) : Prop := m.Calls ∧ m.stack.depth = k

instance (k : Nat) : DecidablePred (TakesSlot · k) := fun _ => inferInstanceAs (Decidable (_ ∧ _))

theorem depth_tick (m : Machine) :
    m.tick.machine.stack.depth + (if m.Returns then 1 else 0) =
      m.stack.depth + if m.Calls then 1 else 0 := by
  have h := stackMove_tick m
  generalize m.tick.machine.stack = stack at h
  cases h with
  | called hc hr hs => simp [hc, hr, (CallStack.of_push? hs).2.1]
  | returned hc hr hs => simp [hc, hr, (CallStack.of_pop? hs).2.1]
  | kept hc hr => simp [hc, hr]

theorem slot_tick (m : Machine) {k : Nat} (hk : k < 16) :
    m.tick.machine.stack.slots[k] = if m.TakesSlot k then m.pc + 2 else m.stack.slots[k] := by
  have h := stackMove_tick m
  generalize m.tick.machine.stack = stack at h
  cases h with
  | called hc hr hs => simp [TakesSlot, hc, (CallStack.of_push? hs).2.2 k hk]
  | returned hc hr hs => simp [TakesSlot, hc, (CallStack.of_pop? hs).1]
  | kept hc hr => simp [TakesSlot, hc]

/-! ## Refused calls and returns -/

theorem fails_iff_refusal {inst : Instruction} (h : m.Fetches inst) :
    m.tick.fault ≠ none ↔ ∃ f, Refusal m.advance inst f := by
  simp only [Option.ne_none_iff_exists', fault_tick_of_fetches h]

theorem call_fails_iff {target : UInt16} (h : m.Fetches (.call target)) :
    m.tick.fault ≠ none ↔ m.stack.depth = 16 := by
  rw [fails_iff_refusal h]
  constructor
  · rintro ⟨f, hf⟩
    cases hf with
    | call _ hd => exact hd
  · intro hd
    exact ⟨_, .call target hd⟩

theorem ret_fails_iff (h : m.Fetches .ret) : m.tick.fault ≠ none ↔ m.stack.depth = 0 := by
  rw [fails_iff_refusal h]
  constructor
  · rintro ⟨f, hf⟩
    cases hf with
    | ret hd => exact hd
  · intro hd
    exact ⟨_, .ret hd⟩

/-- A call leaves the address behind it, so the word of the call is found two bytes before that. -/
theorem Calls.returnAddress (h : m.Calls) :
    IsReturn (m.pc + 2) ∧ (m.pc + 2).toNat = m.pc.toNat + 2 ∧
      ∃ w, m.memory.read16 (m.pc + 2 - 2) = .ok w ∧ Word.kind w = 2 := by
  obtain ⟨⟨hpc, hk⟩, -⟩ := calls_iff.1 h
  have hback : m.pc + 2 - 2 = m.pc := advance_pc_sub m
  refine ⟨isReturn_advance_pc hpc, toNat_advance_pc hpc, m.word, ?_, hk⟩
  rw [hback, Memory.read16_eq, if_pos hpc]
  rfl

/-! ## Runs -/

/-- How many of the first `n` ticks are calls that succeed. -/
def callCount (m : Machine) (n : Nat) : Nat := Nat.count (fun i => (m.afterTicks i).Calls) n

/-- How many of the first `n` ticks are returns that succeed. -/
def returnCount (m : Machine) (n : Nat) : Nat := Nat.count (fun i => (m.afterTicks i).Returns) n

theorem depth_add_returnCount (m : Machine) (n : Nat) :
    (m.afterTicks n).stack.depth + m.returnCount n = m.stack.depth + m.callCount n := by
  induction n with
  | zero => rfl
  | succ n ih =>
    have h := depth_tick (m.afterTicks n)
    rw [afterTicks_succ]
    simp only [callCount, returnCount, Nat.count_succ] at ih ⊢
    omega

/-- Tick `i` is the latest of the first `n` ticks that is a call and takes the slot `k`. -/
structure LatestCall (m : Machine) (k n i : Nat) : Prop where
  lt : i < n
  takes : (m.afterTicks i).TakesSlot k
  latest : ∀ j, i < j → j < n → ¬(m.afterTicks j).TakesSlot k

theorem slot_afterTicks (m : Machine) (n : Nat) {k : Nat} (hk : k < 16) :
    (∃ i, m.LatestCall k n i ∧ (m.afterTicks n).stack.slots[k] = (m.afterTicks i).pc + 2) ∨
      (∀ i < n, ¬(m.afterTicks i).TakesSlot k) ∧
        (m.afterTicks n).stack.slots[k] = m.stack.slots[k] := by
  have hrun := latest_or_never (P := fun i => (m.afterTicks i).TakesSlot k) (n := n)
    (fun i => (m.afterTicks i).stack.slots[k]) (fun i a => a = (m.afterTicks i).pc + 2)
    (fun i _ hi => by rw [afterTicks_succ, slot_tick _ hk, if_pos hi])
    (fun i _ hi => by rw [afterTicks_succ, slot_tick _ hk, if_neg hi])
  rcases hrun with ⟨i, hi, hslot⟩ | hnever
  · exact .inl ⟨i, ⟨hi.lt, hi.holds, hi.latest⟩, hslot⟩
  · exact .inr hnever

/-! ## From the start -/

/-- **The call stack is a record of the calls.** -/
theorem stack_history {s : Setup} (hb : s.build = .ok m) (n : Nat) :
    (m.afterTicks n).stack.depth + m.returnCount n = m.callCount n ∧
      m.callCount n ≤ m.returnCount n + 16 ∧
      (∀ target, (m.afterTicks n).Fetches (.call target) →
        ((m.afterTicks n).tick.fault ≠ none ↔ m.callCount n = m.returnCount n + 16)) ∧
      ((m.afterTicks n).Fetches .ret →
        ((m.afterTicks n).tick.fault ≠ none ↔ m.callCount n = m.returnCount n)) ∧
      ∀ k (_ : k < 16),
        ((∃ i, m.LatestCall k n i ∧
            (m.afterTicks n).stack.slots[k].toNat = (m.afterTicks i).pc.toNat + 2) ∨
          (∀ i < n, ¬(m.afterTicks i).TakesSlot k) ∧ (m.afterTicks n).stack.slots[k] = 0) ∧
        ((m.afterTicks n).stack.slots[k] ≠ 0 → IsReturn (m.afterTicks n).stack.slots[k] ∧
          ∃ w, (m.afterTicks n).memory.read16 ((m.afterTicks n).stack.slots[k] - 2) = .ok w ∧
            Word.kind w = 2) := by
  have hempty : m.stack = CallStack.empty := by
    obtain ⟨memory, -, rfl⟩ := Setup.of_build hb
    rfl
  have hcount := m.depth_add_returnCount n
  have hzero : m.stack.depth = 0 := congrArg CallStack.depth hempty
  have hle := (m.afterTicks n).stack.depth_le
  refine ⟨by omega, by omega, fun target hi => ?_, fun hi => ?_, ?_⟩
  · rw [call_fails_iff hi]
    omega
  · rw [ret_fails_iff hi]
    omega
  intro k hk
  rcases m.slot_afterTicks n hk with ⟨i, hi, hslot⟩ | ⟨hnone, hslot⟩
  -- no tick writes to memory, so the word of the call is still where it was
  · obtain ⟨hreturn, hnat, hcall⟩ := hi.takes.1.returnAddress
    rw [memory_afterTicks] at hcall ⊢
    rw [hslot]
    exact ⟨.inl ⟨i, hi, hnat⟩, fun _ => ⟨hreturn, hcall⟩⟩
  · have h0 : (m.afterTicks n).stack.slots[k] = 0 := by simp [hslot, hempty, CallStack.empty]
    exact ⟨.inr ⟨hnone, h0⟩, fun hne => absurd h0 hne⟩

/-- Two calls in turn take the first slot, and both return. The second address stays behind, and a
third return has nothing to go back to. -/
theorem second_call_recorded :
    ∃ m, Setup.build { rom := [0x22, 0x06, 0x22, 0x06, 0x00, 0xEE, 0x00, 0xEE] } = .ok m ∧
      m.callCount 4 = 2 ∧ m.returnCount 4 = 2 ∧ (m.afterTicks 4).stack.depth = 0 ∧
      (m.afterTicks 4).tick.fault ≠ none ∧ (m.afterTicks 4).stack.slots[0] = 0x204 ∧
      IsReturn (m.afterTicks 4).stack.slots[0] := by
  have hrun : ∃ m, Setup.build { rom := [0x22, 0x06, 0x22, 0x06, 0x00, 0xEE, 0x00, 0xEE] } = .ok m ∧
      m.callCount 4 = 2 ∧ m.returnCount 4 = 2 ∧ (m.afterTicks 4).Fetches .ret ∧
      (m.afterTicks 4).stack.slots[0] = 0x204 :=
    ⟨_, rfl, by decide +kernel⟩
  obtain ⟨m, hb, hc, hr, hret, hslot⟩ := hrun
  obtain ⟨hdepth, -, -, hfails, hslots⟩ := stack_history hb 4
  have hne : (m.afterTicks 4).stack.slots[0] ≠ 0 := by
    rw [hslot]
    decide
  refine ⟨m, hb, hc, hr, by omega, (hfails hret).2 (hc.trans hr.symm), hslot, ?_⟩
  exact ((hslots 0 (by decide)).2 hne).1

end Chip8.Machine
