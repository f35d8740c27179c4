import Chip8.Proofs.Machine.Failure

/-! # The course of a tick

What a tick can do to the program counter and the call stack, case by case. Whatever a run keeps is
shown on these cases.

* `Instruction.Straight`, `Instruction.Skips`: the instructions that go on in the order of memory,
  and those that may leave one word out.
* `Course`: a tick from one machine to another; `course_tick`: every tick takes one.
* `memory_tick`: no tick writes to memory. -/

namespace Chip8

namespace Instruction

/-- Execution goes on behind the instruction. -/
def Straight : Instruction → Prop
  | ret | sys _ | jp _ | call _ => False
  | _ => True

/-- Execution may leave out the word behind the instruction. -/
def Skips : Instruction → Prop
  | seByte .. | sneByte .. | seReg .. => True
  | _ => False

theorem straight_of_skips {inst : Instruction} (h : inst.Skips) : inst.Straight := by
  cases inst with
  | seByte | sneByte | seReg => trivial
  | _ => exact h.elim

end Instruction

namespace Machine

/-- A tick, with the machine after it and its fault. -/
inductive Course (m : Machine) : Machine → Option Fault → Prop where
  /-- Nothing could be fetched. -/
  | stuck (hpc : 0xFFF ≤ m.pc.toNat) : Course m m (some (Memory.missing m.pc))
  /-- A word was fetched and then refused. -/
  | refused (hpc : m.pc.toNat ≤ 0xFFE) {c : Cause} (hc : c.Holds m) :
    Course m m.advance (some (c.fault m))
  | passed {inst : Instruction} (h : m.Fetches inst) (hi : inst.Straight) (r : Registers) :
    Course m { m.advance with registers := r } none
  | cleared (h : m.Fetches .cls) : Course m { m.advance with display := m.display.clear } none
  | skipped {inst : Instruction} (h : m.Fetches inst) (hi : inst.Skips) :
    Course m m.advance.advance none
  | jumped {target : UInt16} (h : m.Fetches (.jp target)) (ht : target.toNat ≤ 0xFFE) :
    Course m { m with pc := target } none
  | called {target : UInt16} {stack : CallStack} (h : m.Fetches (.call target))
    (hs : m.stack.push? (m.pc + 2) = some stack) :
    Course m { m with pc := target, stack := stack } none
  | returned {a : UInt16} {stack : CallStack} (h : m.Fetches .ret)
    (hs : m.stack.pop? = some (a, stack)) : Course m { m with pc := a, stack := stack } none

variable {m m' : Machine} {f : Option Fault}

/-! ## Every tick takes a course -/

theorem course_skipIf {inst : Instruction} (h : m.Fetches inst) (hi : inst.Straight)
    (hs : inst.Skips) (condition : Bool) : Course m (m.advance.skipIf condition) none := by
  cases condition with
  | true => exact .skipped h hs
  | false => exact .passed h hi m.registers

theorem course_execute {inst : Instruction} (h : m.Fetches inst)
    (he : m.advance.execute inst = .ok m') : Course m m' none := by
  cases inst with
  | cls => cases he; exact .cleared h
  | ret =>
    simp only [execute] at he
    split at he
    next a stack hs => cases he; exact .returned h hs
    · cases he
  | sys target => cases he
  | jp target =>
    simp only [execute, le_maxJumpTarget_iff] at he
    split at he
    next ht => cases he; exact .jumped h ht
    · cases he
  | call target =>
    simp only [execute] at he
    split at he
    next stack hs => cases he; exact .called h hs
    · cases he
  | seByte x byte | sneByte x byte | seReg x y => cases he; exact course_skipIf h trivial trivial _
  | _ => cases he; exact .passed h trivial _

theorem course_tick (m : Machine) : Course m m.tick.machine m.tick.fault := by
  rcases Nat.lt_or_ge 0xFFE m.pc.toNat with hpc | hpc
  · rw [machine_tick_of_gt hpc, fault_tick_of_gt hpc]
    exact .stuck hpc
  · rw [machine_tick_of_le hpc, fault_tick_of_le hpc]
    cases hs : m.step with
    | error f =>
      obtain ⟨c, hc, rfl⟩ := (step_eq_error_iff_cause hpc).1 hs
      exact .refused hpc hc
    | ok m' =>
      unfold step at hs
      cases hd : Instruction.decode m.word with
      | error f => rw [hd] at hs; cases hs
      | ok inst => rw [hd] at hs; exact course_execute ⟨hpc, hd⟩ hs

theorem Course.memory_eq (h : Course m m' f) : m'.memory = m.memory := by
  cases h <;> rfl

theorem memory_tick (m : Machine) : m.tick.machine.memory = m.memory :=
  (course_tick m).memory_eq

end Machine

end Chip8
