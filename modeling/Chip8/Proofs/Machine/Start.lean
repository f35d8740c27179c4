import Chip8.Machine.Setup
import Chip8.Proofs.Machine.Fetch

/-! # How a machine starts

A program of at most 3584 bytes fits, and then lies in memory from 0x200 on as it was given. A
longer one is refused.

* `Memory.loadRom_eq`: which programs are loaded, and what comes of the others.
  `Memory.wordAt_overlay`: the words of a row of bytes that was laid over memory.
* `Setup.machine`: the machine with the program in its memory; `Setup.build_of_le`,
  `Setup.build_of_gt`: it is built exactly if the program fits. -/

namespace Chip8

namespace Memory

theorem loadRom_eq (m : Memory) (rom : List UInt8) :
    m.loadRom rom =
      if rom.length ≤ 3584 then .ok ⟨overlay m.bytes 0x200 rom⟩
      else .error (.romTooLarge rom.length 3584) := by
  have hmax : maxRomSize = 3584 := rfl
  have hstart : programStart.toNat = 0x200 := rfl
  unfold loadRom
  rw [hmax]
  by_cases h : rom.length ≤ 3584
  · rw [if_pos h, if_neg (by omega), load, hstart]
    by_cases hnil : rom = []
    · rw [if_pos hnil, hnil, overlay]
    · have hfits : 0x200 + rom.length ≤ size := by unfold size; omega
      rw [if_neg hnil, if_pos hfits]
  · rw [if_neg h, if_pos (by omega)]

section

variable {bytes : Vector UInt8 4096} {start j : Nat} {data : List UInt8} {b c : UInt8}

theorem getElem?_overlay (h : start + j < 4096) (hb : data[j]? = some b) :
    (overlay bytes start data)[start + j]? = some b := by
  rw [Vector.getElem?_eq_getElem h, getElem_overlay, if_pos (by omega), Nat.add_sub_cancel_left, hb,
    Option.getD_some]

theorem wordAt_overlay (h : start + j + 1 < 4096) (hb : data[j]? = some b)
    (hc : data[j + 1]? = some c) :
    wordAt ⟨overlay bytes start data⟩ (start + j) = Word.ofBytes b c := by
  have hfirst : (overlay bytes start data)[start + j]? = some b := getElem?_overlay (by omega) hb
  have hsecond : (overlay bytes start data)[start + (j + 1)]? = some c :=
    getElem?_overlay (by omega) hc
  rw [wordAt, hfirst, Nat.add_assoc, hsecond]
  rfl

end

end Memory

namespace Setup

/-- The machine with the program in its memory, as far as that goes. -/
def machine (s : Setup) : Machine :=
  { Machine.new with
    memory := ⟨Memory.overlay Memory.new.bytes 0x200 s.rom⟩
    tracing := s.tracing }

variable {s : Setup} {m : Machine}

theorem build_of_le (h : s.rom.length ≤ 3584) : s.build = .ok s.machine := by
  rw [build, Memory.loadRom_eq, if_pos h]
  rfl

theorem build_of_gt (h : 3584 < s.rom.length) :
    s.build = .error (.romTooLarge s.rom.length 3584) := by
  rw [build, Memory.loadRom_eq, if_neg (by omega)]

theorem eq_machine_of_build (h : s.build = .ok m) : s.rom.length ≤ 3584 ∧ m = s.machine := by
  by_cases hle : s.rom.length ≤ 3584
  · rw [build_of_le hle] at h
    exact ⟨hle, (Except.ok.inj h).symm⟩
  · rw [build_of_gt (by omega)] at h
    cases h

end Setup

end Chip8
