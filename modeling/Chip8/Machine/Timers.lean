/-! # Timers

The delay timer and the sound timer. They belong to the host: it sets them, and counts them down at
its own pace.

* `step`: both one lower, but not below zero. `Command` is what a host does to them, as data. -/

namespace Chip8

@[ext]
structure Timers where
  delay : UInt8
  sound : UInt8
  deriving DecidableEq

namespace Timers

def zero : Timers := ⟨0, 0⟩

instance : Inhabited Timers := ⟨zero⟩

/-- One lower, but not below zero. -/
def lower (t : UInt8) : UInt8 := UInt8.ofNat (t.toNat - 1)

def step (t : Timers) : Timers := ⟨lower t.delay, lower t.sound⟩

theorem toNat_lower (t : UInt8) : (lower t).toNat = t.toNat - 1 := by
  have := t.toNat_lt
  simp [lower]
  omega

inductive Command where
  | step
  | setDelay (value : UInt8)
  | setSound (value : UInt8)
  deriving DecidableEq

def after (t : Timers) : Command → Timers
  | .step => t.step
  | .setDelay value => { t with delay := value }
  | .setSound value => { t with sound := value }

end Timers

end Chip8
