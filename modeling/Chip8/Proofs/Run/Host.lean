import Chip8.Machine.Setup
import Chip8.Proofs.Machine.Course
import Chip8.Proofs.Machine.Idle
import Chip8.Proofs.Run.Operations

/-! # What belongs to the host

Memory and the timers change only when the host changes them, and the timers have no say in what a
tick does. So ticks can be left out to see what becomes of memory and the timers, and what the host
did to the timers can be left out to see what becomes of everything else.

* `Operation.memory?`, `Operation.timers?`: what an operation does to memory, and to the timers.
* `afterAll_owned`: a part of the machine that only some operations change; `memory_afterAll`,
  `timers_afterAll`. `afterAll_kept`: a part that none changes; `index_afterAll`,
  `tracing_afterAll`.
* `withTimers`: a machine with other timers; `after_withTimers`: every operation but those on timers
  does the same to it; `withTimers_after`: these do nothing else. `afterAll_untimed`,
  `faults_untimed`: a row without what it does to timers.
* `host_state_separate`: the statement above. -/

namespace Chip8

namespace Operation

def memory? : Operation → Option Memory.Command
  | memory c => some c
  | _ => none

def timers? : Operation → Option Timers.Command
  | timers c => some c
  | _ => none

/-- The row without what it does to the timers. -/
def untimed (ops : List Operation) : List Operation :=
  ops.filter fun op => op.timers?.isNone

end Operation

theorem Timers.toNat_after_steps (t : Timers) (k : Nat) :
    ((List.replicate k Command.step).foldl after t).delay.toNat = t.delay.toNat - k ∧
      ((List.replicate k Command.step).foldl after t).sound.toNat = t.sound.toNat - k := by
  induction k generalizing t with
  | zero => exact ⟨rfl, rfl⟩
  | succ k ih =>
    obtain ⟨hd, hs⟩ := ih t.step
    have hdelay : t.step.delay.toNat = t.delay.toNat - 1 := toNat_lower t.delay
    have hsound : t.step.sound.toNat = t.sound.toNat - 1 := toNat_lower t.sound
    rw [List.replicate_succ, List.foldl_cons, after]
    omega

namespace Machine

variable {m m' : Machine} {op : Operation}

/-! ## Leaving out the ticks -/

theorem Course.idle_eq {f : Option Fault} (h : Course m m' f) : m'.idle = m.idle := by
  cases h <;> rfl

theorem idle_tick (m : Machine) : m.tick.machine.idle = m.idle :=
  (course_tick m).idle_eq

/-- A part of the machine that changes by commands only, each of which comes from one operation. -/
theorem afterAll_owned {α γ : Type} (part : Machine → α) {command? : Operation → Option γ}
    {apply : α → γ → α}
    (h : ∀ m op, part (m.after op) = (command? op).elim (part m) (apply (part m)))
    (m : Machine) (ops : List Operation) :
    part (m.afterAll ops) = (ops.filterMap command?).foldl apply (part m) := by
  induction ops generalizing m with
  | nil => rfl
  | cons op ops ih =>
    have hop := h m op
    have hrest : part (m.afterAll (op :: ops)) = _ := ih (m.after op)
    rw [hrest, hop]
    cases hc : command? op with
    | none => rw [List.filterMap_cons_none hc, Option.elim_none]
    | some c => rw [List.filterMap_cons_some hc, Option.elim_some, List.foldl_cons]

theorem memory_afterAll (m : Machine) (ops : List Operation) :
    (m.afterAll ops).memory = (ops.filterMap Operation.memory?).foldl Memory.after m.memory := by
  refine afterAll_owned memory (fun m op => ?_) m ops
  cases op with
  | tick => exact memory_tick m
  | timers c | memory c | display c => rfl

theorem timers_afterAll (m : Machine) (ops : List Operation) :
    (m.afterAll ops).timers = (ops.filterMap Operation.timers?).foldl Timers.after m.timers := by
  refine afterAll_owned timers (fun m op => ?_) m ops
  cases op with
  | tick => exact congrArg Idle.timers (idle_tick m)
  | timers c | memory c | display c => rfl

/-- A part of the machine that no operation changes. -/
theorem afterAll_kept {α : Type} (part : Machine → α) (h : ∀ m op, part (m.after op) = part m)
    (m : Machine) (ops : List Operation) : part (m.afterAll ops) = part m := by
  induction ops generalizing m with
  | nil => rfl
  | cons op ops ih => exact (ih (m.after op)).trans (h m op)

theorem index_afterAll (m : Machine) (ops : List Operation) :
    (m.afterAll ops).index = m.index := by
  refine afterAll_kept index (fun m op => ?_) m ops
  cases op with
  | tick => exact congrArg Idle.index (idle_tick m)
  | timers c | memory c | display c => rfl

theorem tracing_afterAll (m : Machine) (ops : List Operation) :
    (m.afterAll ops).tracing = m.tracing := by
  refine afterAll_kept tracing (fun m op => ?_) m ops
  cases op with
  | tick => exact congrArg Idle.tracing (idle_tick m)
  | timers c | memory c | display c => rfl

/-! ## Leaving out the timers -/

def withTimers (timers : Timers) (m : Machine) : Machine := { m with timers := timers }

theorem tick_withTimers (timers : Timers) (m : Machine) :
    (m.withTimers timers).tick.machine = m.tick.machine.withTimers timers ∧
      (m.withTimers timers).tick.fault = m.tick.fault :=
  tick_mapIdle (f := fun i => { i with timers := timers }) rfl

theorem after_withTimers (timers : Timers) (m : Machine) (h : op.timers?.isNone = true) :
    (m.withTimers timers).after op = (m.after op).withTimers timers := by
  cases op with
  | tick => exact (tick_withTimers timers m).1
  | timers c => cases h
  | memory c | display c => rfl

theorem withTimers_after (timers : Timers) (m : Machine) (h : op.timers?.isNone = false) :
    (m.after op).withTimers timers = m.withTimers timers := by
  cases op with
  | timers c => rfl
  | tick | memory c | display c => cases h

theorem afterAll_untimed (timers : Timers) (m : Machine) (ops : List Operation) :
    (m.withTimers timers).afterAll (Operation.untimed ops) =
      (m.afterAll ops).withTimers timers :=
  afterAll_filter (fun m _ h => after_withTimers timers m h)
    (fun m _ h => withTimers_after timers m h) m ops

theorem faults_untimed (timers : Timers) (m : Machine) (ops : List Operation) :
    (m.withTimers timers).faults (Operation.untimed ops) = m.faults ops := by
  have hticks : (m.withTimers timers).atTicks (Operation.untimed ops) =
      (m.atTicks ops).map (withTimers timers) :=
    atTicks_filter (fun m _ h => after_withTimers timers m h)
      (fun m _ h => withTimers_after timers m h) rfl m ops
  rw [faults, hticks, List.map_map]
  exact List.map_congr_left fun s hs => (tick_withTimers timers s).2

/-- **Ticks and the host do not mix** on memory, the index register and the timers. -/
theorem host_state_separate (m : Machine) (ops : List Operation) :
    (m.afterAll ops).memory = (ops.filterMap Operation.memory?).foldl Memory.after m.memory ∧
      (m.afterAll ops).index = m.index ∧
      (m.afterAll ops).timers = (ops.filterMap Operation.timers?).foldl Timers.after m.timers ∧
      (∀ k, ops.filterMap Operation.timers? = List.replicate k .step →
        (m.afterAll ops).timers.delay.toNat = m.timers.delay.toNat - k ∧
          (m.afterAll ops).timers.sound.toNat = m.timers.sound.toNat - k) ∧
      m.faults (Operation.untimed ops) = m.faults ops ∧
      m.afterAll (Operation.untimed ops) = { m.afterAll ops with timers := m.timers } := by
  have htimers := timers_afterAll m ops
  refine ⟨memory_afterAll m ops, index_afterAll m ops, htimers, fun k hk => ?_,
    faults_untimed m.timers m ops, afterAll_untimed m.timers m ops⟩
  rw [htimers, hk]
  exact Timers.toNat_after_steps m.timers k

/-- A loop that loads a byte, which the host replaces between two rounds while it counts the timers
down. One of them runs out. -/
theorem byte_replaced_between_steps :
    ∃ (m s : Machine) (ops : List Operation),
      Setup.build { rom := [0x60, 0x05, 0x12, 0x00] } = .ok m ∧
      s = m.afterAll [.timers (.setDelay 2), .timers (.setSound 9)] ∧
      ops = [.timers .step, .tick, .memory (.write8 0x201 7), .timers .step, .tick, .tick,
        .timers .step] ∧
      ops.filterMap Operation.timers? = List.replicate 3 .step ∧
      (s.afterAll ops).timers.delay.toNat = 0 ∧ (s.afterAll ops).timers.sound.toNat = 6 ∧
      (s.afterAll (Operation.untimed ops)).registers.get 0 = 7 := by
  have hrun : ∃ (m s : Machine) (ops : List Operation),
      Setup.build { rom := [0x60, 0x05, 0x12, 0x00] } = .ok m ∧
      s = m.afterAll [.timers (.setDelay 2), .timers (.setSound 9)] ∧
      ops = [.timers .step, .tick, .memory (.write8 0x201 7), .timers .step, .tick, .tick,
        .timers .step] ∧
      s.timers = ⟨2, 9⟩ ∧ (s.afterAll ops).registers.get 0 = 7 :=
    ⟨_, _, _, rfl, rfl, rfl, rfl, by decide +kernel⟩
  obtain ⟨m, s, ops, hb, hs, rfl, htimers, hget⟩ := hrun
  obtain ⟨-, -, -, hsteps, -, huntimed⟩ := host_state_separate s [.timers .step, .tick,
    .memory (.write8 0x201 7), .timers .step, .tick, .tick, .timers .step]
  obtain ⟨hdelay, hsound⟩ := hsteps 3 rfl
  refine ⟨m, s, _, hb, hs, rfl, rfl, ?_, ?_, ?_⟩
  · rw [hdelay, htimers]
    rfl
  · rw [hsound, htimers]
    rfl
  · rw [huntimed]
    exact hget

end Machine

end Chip8
