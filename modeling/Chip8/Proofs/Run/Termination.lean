import Chip8.Proofs.Run.Flow
import Chip8.Proofs.Run.Rank

/-! # Only jumps back can loop

A run that goes on past failed ticks comes to a fetch that fails or to a jump to its own address or
before it, within a bound that is the same for all machines. Calls may go anywhere.

* `Memory.Forward`: the jumps in a set of addresses all go ahead; `not_jumpsBack_of_confined`.
* `runs_end`: the bound, for all machines, for the runs that do not jump back, and for the programs
  that cannot. -/

namespace Chip8

/-- Every word in the set that is a jump is one to a later address. -/
def Memory.Forward (memory : Memory) (S : Set UInt16) : Prop :=
  ∀ p ∈ S, p.toNat ≤ 0xFFE → Word.kind (memory.wordAt p.toNat) = 1 →
    p.toNat < (Word.address (memory.wordAt p.toNat)).toNat

instance Memory.decidableForward (memory : Memory) (l : List UInt16) :
    Decidable (memory.Forward {p | p ∈ l}) :=
  decidable_of_iff
    (l.all fun p => p.toNat ≤ 0xFFE → Word.kind (memory.wordAt p.toNat) = 1 →
      p.toNat < (Word.address (memory.wordAt p.toNat)).toNat)
    (by simp only [Forward, List.all_eq_true, decide_eq_true_eq, Set.mem_ofPred_eq])

namespace Machine

variable {m : Machine} {S : Set UInt16}

theorem not_jumpsBack_of_confined (hS : m.memory.Forward S) (hm : m.Confined S) :
    ¬m.JumpsBack := by
  rintro ⟨target, ⟨⟨hpc, hd⟩, -⟩, hle⟩
  obtain ⟨hk, rfl⟩ := Instruction.decode_eq_jp_iff.1 hd
  have hlt : m.pc.toNat < (Word.address m.word).toNat := hS m.pc hm.pc hpc hk
  omega

theorem exists_fetchFails (h : ∀ n, ¬(m.afterTicks n).JumpsBack) :
    ∃ n < rankBound, (m.afterTicks n).FetchFails := by
  obtain ⟨n, hn, hf | hj⟩ := exists_fetchFails_or_jumpsBack m
  · exact ⟨n, hn, hf⟩
  · exact absurd hj (h n)

theorem exists_fetchFails_of_forward {s : Setup} (hb : s.build = .ok m)
    (hstart : Memory.programStart ∈ S) (hclosed : m.memory.Closed S)
    (hforward : m.memory.Forward S) : ∃ n < rankBound, (m.afterTicks n).FetchFails := by
  refine exists_fetchFails fun n => ?_
  have hm := confined_afterTicks hclosed (confined_of_build hb hstart) n
  refine not_jumpsBack_of_confined ?_ hm
  rwa [memory_afterTicks]

/-- **Only jumps back can loop.** -/
theorem runs_end :
    ∃ bound : Nat,
      (∀ m : Machine, ∃ n < bound, (m.afterTicks n).FetchFails ∨ (m.afterTicks n).JumpsBack) ∧
      (∀ m : Machine, (∀ n, ¬(m.afterTicks n).JumpsBack) →
        ∃ n < bound, (m.afterTicks n).FetchFails) ∧
      ∀ (s : Setup) (m : Machine) (S : Set UInt16), s.build = .ok m → Memory.programStart ∈ S →
        m.memory.Closed S → m.memory.Forward S → ∃ n < bound, (m.afterTicks n).FetchFails := by
  refine ⟨rankBound, exists_fetchFails_or_jumpsBack, fun m h => exists_fetchFails h, ?_⟩
  intro s m S hb hstart hclosed hforward
  exact exists_fetchFails_of_forward hb hstart hclosed hforward

/-- A program that calls itself until the stack is full, and then jumps to the last word. -/
theorem self_call_ends :
    ∃ m, Setup.build { rom := [0x22, 0x00, 0x1F, 0xFE] } = .ok m ∧
      m.memory.Closed {p | p ∈ [0x200, 0x202, 0xFFE, 0x1000]} ∧
      m.memory.Forward {p | p ∈ [0x200, 0x202, 0xFFE, 0x1000]} ∧
      ∃ n, (m.afterTicks n).FetchFails := by
  have hbuilt : ∃ m, Setup.build { rom := [0x22, 0x00, 0x1F, 0xFE] } = .ok m ∧
      m.memory.Closed {p | p ∈ [0x200, 0x202, 0xFFE, 0x1000]} ∧
      m.memory.Forward {p | p ∈ [0x200, 0x202, 0xFFE, 0x1000]} := by
    exact ⟨_, rfl, by decide +kernel, by decide +kernel⟩
  obtain ⟨m, hb, hclosed, hforward⟩ := hbuilt
  obtain ⟨_, -, -, hends⟩ := runs_end
  obtain ⟨n, -, hn⟩ := hends _ m _ hb (by decide) hclosed hforward
  exact ⟨m, hb, hclosed, hforward, n, hn⟩

end Machine

end Chip8
