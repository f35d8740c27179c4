import Chip8.Machine.Basic

/-! # Setting a machine up

A setup says which program a machine starts with and whether it traces its instructions. To start
with no program is to start with the empty one.

* `Setting`, `Setup.ofSettings`: a setup from settings; a later setting replaces an earlier one.
* `build`: the machine, unless its program does not fit. `of_build`: it is new but for its memory and
  its tracing. -/

namespace Chip8

structure Setup where
  rom : List UInt8 := []
  tracing : Bool := false
  deriving DecidableEq

namespace Setup

inductive Setting where
  | rom (data : List UInt8)
  | tracing (on : Bool)
  deriving DecidableEq

def adjust (s : Setup) : Setting → Setup
  | .rom data => { s with rom := data }
  | .tracing on => { s with tracing := on }

def ofSettings (settings : List Setting) : Setup :=
  settings.foldl adjust {}

def build (s : Setup) : Except Fault Machine :=
  match Memory.new.loadRom s.rom with
  | .ok memory => .ok { Machine.new with memory := memory, tracing := s.tracing }
  | .error f => .error f

theorem of_build {s : Setup} {m : Machine} (h : s.build = .ok m) :
    ∃ memory, Memory.new.loadRom s.rom = .ok memory ∧
      m = { Machine.new with memory := memory, tracing := s.tracing } := by
  unfold build at h
  split at h
  next memory hm => exact ⟨memory, hm, (Except.ok.inj h).symm⟩
  · cases h

end Setup

end Chip8
