import Mathlib.Data.List.Induction
import Chip8.Proofs.Machine.Start
import Chip8.Proofs.Memory.Coverage
import Chip8.Proofs.Run.Ticks

/-! # Which settings count

Of the programs that were set only the last counts, and so of the choices whether to trace. A machine
that was built from them is new but for the program in its memory, and the font stays in front of it.

* `Setting.rom?`, `Setting.tracing?`: what a setting sets; `lastOf`: what was set last.
* `ofSettings_eq`: a setup from the last settings.
* `build_eq_error_iff`: when no machine is built, and why. `read8_machine_of_lt`,
  `read8_machine_of_outside`: the bytes of one that is.
* `Memory.sprite`: the picture of a digit; `Memory.sprite_new`, `sprite_afterTicks`: it is the one of
  the font and stays.
* `built_from_last_settings`: the statement above. -/

namespace Chip8

namespace Setup

/-! ## The last settings -/

def Setting.rom? : Setting → Option (List UInt8)
  | .rom data => some data
  | .tracing _ => none

def Setting.tracing? : Setting → Option Bool
  | .rom _ => none
  | .tracing on => some on

/-- What was set last, of the settings that set it at all. -/
def lastOf {α : Type} (sets? : Setting → Option α) (settings : List Setting) : Option α :=
  (settings.filterMap sets?).getLast?

theorem lastOf_concat {α : Type} (sets? : Setting → Option α) (settings : List Setting)
    (last : Setting) :
    lastOf sets? (settings ++ [last]) = (sets? last).or (lastOf sets? settings) := by
  unfold lastOf
  rw [List.filterMap_append, List.getLast?_append]
  cases h : sets? last <;> simp [h]

theorem adjust_eq (s : Setup) (x : Setting) :
    s.adjust x = { rom := x.rom?.getD s.rom, tracing := x.tracing?.getD s.tracing } := by
  cases x <;> rfl

theorem ofSettings_eq (settings : List Setting) :
    ofSettings settings =
      { rom := (lastOf Setting.rom? settings).getD [],
        tracing := (lastOf Setting.tracing? settings).getD false } := by
  induction settings using List.reverseRecOn with
  | nil => rfl
  | append_singleton settings last ih =>
    have hstep : ofSettings (settings ++ [last]) = (ofSettings settings).adjust last := by
      rw [ofSettings, List.foldl_append]
      rfl
    rw [hstep, adjust_eq, ih, lastOf_concat, lastOf_concat, Option.getD_or, Option.getD_or]

end Setup

/-! ## The font -/

namespace Memory

/-- What is read where the picture of a digit is. -/
def sprite (m : Memory) (digit : UInt8) : List (Except Fault UInt8) :=
  (List.range 5).map fun i => m.read8 (Font.spriteAddress digit + UInt16.ofNat i)

theorem toNat_sprite_row (digit : UInt8) {i : Nat} (hi : i < 5) :
    (Font.spriteAddress digit + UInt16.ofNat i).toNat = 5 * (digit.toNat % 16) + i := by
  have haddress := Font.toNat_spriteAddress digit
  rw [UInt16.toNat_add, haddress, UInt16.toNat_ofNat_of_lt' (show i < 65536 by omega)]
  omega

theorem sprite_new (digit : UInt8) :
    new.sprite digit = ((Font.table.drop (5 * (digit.toNat % 16))).take 5).map .ok := by
  have hlength := Font.length_table
  apply List.ext_getElem
  · simp [sprite]
    omega
  · intro i hi hi'
    have hi5 : i < 5 := by simpa [sprite] using hi
    have hrow := toNat_sprite_row digit hi5
    have hstart : Font.start.toNat = 0 := rfl
    simp only [sprite, List.getElem_map, List.getElem_range, List.getElem_take, List.getElem_drop]
    rw [new, read8_overlay _ (by omega) (by omega) (by omega)]
    simp only [hrow, hstart, Nat.sub_zero]

/-- The pictures are in front of where programs are. -/
theorem sprite_congr {m m' : Memory} (h : ∀ a : UInt16, a.toNat < 0x200 → m.read8 a = m'.read8 a)
    (digit : UInt8) : m.sprite digit = m'.sprite digit := by
  refine List.map_congr_left fun i hi => h _ ?_
  rw [toNat_sprite_row digit (List.mem_range.1 hi)]
  have := List.mem_range.1 hi
  omega

end Memory

/-! ## The machine -/

namespace Setup

variable {s : Setup}

theorem build_eq_error_iff {f : Fault} :
    s.build = .error f ↔ 3584 < s.rom.length ∧ f = .romTooLarge s.rom.length 3584 := by
  rcases Nat.lt_or_ge 3584 s.rom.length with hgt | hle
  · rw [build_of_gt hgt, Except.error.injEq, and_iff_right hgt]
    exact eq_comm
  · rw [build_of_le hle]
    exact iff_of_false nofun fun h => Nat.not_lt.2 hle h.1

theorem read8_machine_of_lt (hle : s.rom.length ≤ 3584) {k : Nat} (hk : k < s.rom.length) :
    s.machine.memory.read8 (UInt16.ofNat (0x200 + k)) = .ok s.rom[k] := by
  have ha : (UInt16.ofNat (0x200 + k)).toNat = 0x200 + k :=
    UInt16.toNat_ofNat_of_lt' (show 0x200 + k < 65536 by omega)
  rw [machine, Memory.read8_overlay _ (by omega) (by omega) (by omega)]
  simp only [ha, Nat.add_sub_cancel_left]

theorem read8_machine_of_outside {a : UInt16}
    (h : a.toNat < 0x200 ∨ 0x200 + s.rom.length ≤ a.toNat) :
    s.machine.memory.read8 a = Memory.new.read8 a := by
  unfold Memory.read8
  by_cases ha : a.toNat < 4096
  · rw [dif_pos ha, dif_pos ha, machine, Memory.getElem_overlay _ _ _ ha]
    rcases h with hbelow | habove
    · rw [if_neg (by omega)]
    · rw [if_pos (by omega), List.getElem?_eq_none (by omega), Option.getD_none]
  · rw [dif_neg ha, dif_neg ha]

theorem sprite_afterTicks (s : Setup) (n : Nat) (digit : UInt8) :
    (s.machine.afterTicks n).memory.sprite digit =
      ((Font.table.drop (5 * (digit.toNat % 16))).take 5).map .ok := by
  rw [Machine.memory_afterTicks, ← Memory.sprite_new]
  exact Memory.sprite_congr (fun a ha => read8_machine_of_outside (.inl ha)) digit

/-- **Only the last settings count.** No machine is built exactly if the last program does not fit,
and one that is built is new but for that program, where programs are, and for whether it traces. No
tick changes the font. -/
theorem built_from_last_settings (settings : List Setting) :
    (∀ f, (ofSettings settings).build = .error f ↔
      ∃ rom, lastOf Setting.rom? settings = some rom ∧ 3584 < rom.length ∧
        f = .romTooLarge rom.length 3584) ∧
    (∀ rom tracing, rom = (lastOf Setting.rom? settings).getD [] →
      tracing = (lastOf Setting.tracing? settings).getD false → rom.length ≤ 3584 →
      ∃ m, (ofSettings settings).build = .ok m ∧
        m = { Machine.new with memory := m.memory, tracing := tracing } ∧
        (∀ k (h : k < rom.length), m.memory.read8 (UInt16.ofNat (0x200 + k)) = .ok rom[k]) ∧
        (∀ a : UInt16, a.toNat < 0x200 ∨ 0x200 + rom.length ≤ a.toNat →
          m.memory.read8 a = Memory.new.read8 a) ∧
        ∀ n digit, (m.afterTicks n).memory.sprite digit =
          ((Font.table.drop (5 * (digit.toNat % 16))).take 5).map .ok) ∧
    ∀ settings', lastOf Setting.rom? settings' = lastOf Setting.rom? settings →
      lastOf Setting.tracing? settings' = lastOf Setting.tracing? settings →
      (ofSettings settings').build = (ofSettings settings).build := by
  refine ⟨fun f => ?_, ?_, fun settings' hrom htracing => ?_⟩
  · rw [build_eq_error_iff, ofSettings_eq]
    cases lastOf Setting.rom? settings with
    | none => simp
    | some rom => simp
  · rintro rom tracing hrom htracing hle
    rw [ofSettings_eq, ← hrom, ← htracing]
    exact ⟨_, build_of_le hle, rfl, fun k hk => read8_machine_of_lt hle hk,
      fun a ha => read8_machine_of_outside ha, sprite_afterTicks _⟩
  · rw [ofSettings_eq, ofSettings_eq, hrom, htracing]

/-- A program that would not fit is replaced by one of two bytes, and leaves no byte behind it. The
other way round no machine is built. -/
theorem oversized_program_replaced :
    ∃ m, (ofSettings [.rom (List.replicate 3585 0xFF), .tracing true, .rom [0x12, 0x00]]).build =
        .ok m ∧ [0x12, 0x00].length ≤ 3584 ∧ m.tracing = true ∧
      m.memory.read8 0x200 = .ok 0x12 ∧ m.memory.read8 0x202 = .ok 0 ∧
      (m.afterTicks 3).memory.sprite 0xFA = [.ok 0xF0, .ok 0x90, .ok 0xF0, .ok 0x90, .ok 0x90] ∧
      (ofSettings [.tracing true, .rom [0x12, 0x00]]).build = .ok m ∧
      (ofSettings [.rom [0x12, 0x00], .rom (List.replicate 3585 0xFF)]).build =
        .error (.romTooLarge 3585 3584) := by
  obtain ⟨-, hbuilt, hsame⟩ := built_from_last_settings
    [.rom (List.replicate 3585 0xFF), .tracing true, .rom [0x12, 0x00]]
  obtain ⟨hrefused, -, -⟩ := built_from_last_settings
    [.rom [0x12, 0x00], .rom (List.replicate 3585 0xFF)]
  obtain ⟨m, hm, hnew, hrom, hrest, hsprite⟩ := hbuilt [0x12, 0x00] true rfl rfl (by decide)
  have hzero : Memory.new.read8 0x202 = .ok 0 := by
    rw [Memory.read8_of_lt _ (by decide), Memory.new, Memory.getElem_overlay _ _ _ (by decide),
      if_pos (by decide), List.getElem?_eq_none (by decide), Option.getD_none,
      Vector.getElem_replicate]
  have hlength : (List.replicate 3585 (0xFF : UInt8)).length = 3585 := List.length_replicate
  refine ⟨m, hm, by decide, by rw [hnew], hrom 0 (by decide), ?_, hsprite 3 0xFA,
    (hsame _ rfl rfl).trans hm, ?_⟩
  · rw [hrest 0x202 (by decide), hzero]
  · exact (hrefused _).2 ⟨List.replicate 3585 0xFF, rfl, by rw [hlength]; decide, by rw [hlength]⟩

end Setup

end Chip8
