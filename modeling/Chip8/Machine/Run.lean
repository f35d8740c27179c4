import Chip8.Machine.Tick

/-! # Runs

A run is a number of ticks in a row. It goes on after a tick that failed only if it is told to.

* `ticks keepGoing n m`: the ticks of a run of at most `n`.
* `foldTicks f keepGoing n m s`: what `f` makes of them, one after the other, without keeping them;
  `foldTicks_eq`. -/

namespace Chip8

/-- Nothing comes after this tick. -/
def Tick.ends (t : Tick) (keepGoing : Bool) : Bool :=
  t.fault.isSome && !keepGoing

namespace Machine

def ticks (keepGoing : Bool) : Nat → Machine → List Tick
  | 0, _ => []
  | n + 1, m =>
    m.tick :: if m.tick.ends keepGoing then [] else ticks keepGoing n m.tick.machine

def foldTicks {σ : Type} (f : σ → Tick → σ) (keepGoing : Bool) : Nat → Machine → σ → σ
  | 0, _, s => s
  | n + 1, m, s =>
    let t := m.tick
    if t.ends keepGoing then f s t else foldTicks f keepGoing n t.machine (f s t)

theorem foldTicks_eq {σ : Type} (f : σ → Tick → σ) (keepGoing : Bool) (n : Nat) (m : Machine)
    (s : σ) : foldTicks f keepGoing n m s = (ticks keepGoing n m).foldl f s := by
  induction n generalizing m s with
  | zero => rfl
  | succ n ih =>
    simp only [foldTicks, ticks, List.foldl_cons]
    split
    · rfl
    · exact ih _ _

theorem length_ticks_le (keepGoing : Bool) (n : Nat) (m : Machine) :
    (ticks keepGoing n m).length ≤ n := by
  induction n generalizing m with
  | zero => simp [ticks]
  | succ n ih =>
    simp only [ticks, List.length_cons]
    split
    · simp
    · exact Nat.succ_le_succ (ih _)

end Machine

end Chip8
