import Chip8.Machine.Run
import Chip8.Proofs.Machine.Course

/-! # Machines along a run

* `afterTicks n`: the machine after `n` ticks, of which any may have failed; `ticks_eq`: the ticks of
  a run are the ticks of these machines.
* `memory_afterTicks`: ticks leave memory alone.
* `FetchFails`, `JumpsBack`: the next tick cannot fetch; the next tick jumps to its own address or
  before it. -/

namespace Chip8.Machine

/-- The machine after `n` ticks, whether they failed or not. -/
def afterTicks (m : Machine) : Nat → Machine
  | 0 => m
  | n + 1 => m.tick.machine.afterTicks n

theorem afterTicks_succ (m : Machine) (n : Nat) :
    m.afterTicks (n + 1) = (m.afterTicks n).tick.machine := by
  induction n generalizing m with
  | zero => rfl
  | succ n ih => exact ih m.tick.machine

/-- The ticks of a run are those of the machines along it. -/
theorem ticks_eq (keepGoing : Bool) (n : Nat) (m : Machine) :
    ticks keepGoing n m =
      (List.range (ticks keepGoing n m).length).map fun i => (m.afterTicks i).tick := by
  induction n generalizing m with
  | zero => rfl
  | succ n ih =>
    rw [ticks]
    by_cases he : m.tick.ends keepGoing = true
    · rw [if_pos he]
      rfl
    · rw [if_neg he, List.length_cons, List.range_succ_eq_map, List.map_cons, List.map_map]
      exact congrArg (m.tick :: ·) (ih m.tick.machine)

theorem memory_afterTicks (m : Machine) (n : Nat) : (m.afterTicks n).memory = m.memory := by
  induction n with
  | zero => rfl
  | succ n ih => rw [afterTicks_succ, memory_tick, ih]

/-! ## Ways for a run to stop or to loop -/

/-- The next tick cannot fetch. -/
def FetchFails (m : Machine) : Prop :=
  ∃ a, m.tick.fault = some (.memoryOutOfBounds a)

/-- The next tick jumps to its own address or to one before it. -/
def JumpsBack (m : Machine) : Prop :=
  ∃ target, m.Executes (.jp target) ∧ target.toNat ≤ m.pc.toNat

end Chip8.Machine
