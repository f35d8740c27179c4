import Chip8.Proofs.Raw.Basic

/-! # The parts of a machine as plain data

Memory, display, registers and call stack without what their types say. Every access to one of them
is the same access to its plain data, where it never aborts.

* `put?_toList`, `slice?_pair`, `splice?_overlay`: the checks on lists that come from vectors.
* `Memory.raw_read8`, `Memory.raw_read16`, `Memory.raw_write`: reading and writing memory;
  `Memory.raw_write_of_error`: a write that is refused writes nothing.
* `Display.raw_get`, `Display.raw_draw`: reading and changing the display.
* `Registers.raw_get`, `Registers.raw_set`: the registers that an instruction can name.
* `CallStack.put?_slots`, `CallStack.getElem?_slots`: taking a slot and giving one up, with a byte
  for the depth (`CallStack.rawDepth`). -/

namespace Chip8

namespace Raw

/-! ## Checked steps that pass -/

theorem add16?_two {a : UInt16} (h : a.toNat ≤ 0x1000) : add16? a 2 = some (a + 2) :=
  if_pos (by have : (2 : UInt16).toNat = 2 := rfl; omega)

theorem sub16?_two {a : UInt16} (h : 2 ≤ a.toNat) : sub16? a 2 = some (a - 2) :=
  if_pos h

variable {α : Type} {n : Nat}

theorem put?_toList (v : Vector α n) {i : Nat} (h : i < n) (x : α) :
    put? v.toList i x = some (v.set i x).toList := by
  rw [put?, if_pos (by simpa using h), Vector.toList_set]

theorem slice?_pair (v : Vector α n) {i : Nat} (h : i + 1 < n) :
    slice? v.toList i (i + 2) = some [v[i], v[i + 1]] := by
  rw [slice?, if_pos (by simp; omega), Option.some.injEq]
  apply List.ext_getElem
  · simp
    omega
  · intro k hk hk'
    rw [List.getElem_drop, List.getElem_take, Vector.getElem_toList]
    match k, hk' with
    | 0, _ | 1, _ => rfl

theorem toList_overlay (bytes : Vector UInt8 4096) {a : Nat} (data : List UInt8)
    (h : a + data.length ≤ 4096) :
    (Memory.overlay bytes a data).toList =
      bytes.toList.take a ++ data ++ bytes.toList.drop (a + data.length) := by
  apply List.ext_getElem
  · simp
    omega
  · intro i hi hi'
    simp only [Vector.length_toList] at hi
    rw [Vector.getElem_toList, Memory.getElem_overlay bytes a data hi]
    simp only [List.getElem_append, List.length_append, List.length_take, Vector.length_toList,
      List.getElem_take, List.getElem_drop, Vector.getElem_toList,
      Nat.min_eq_left (show a ≤ 4096 by omega)]
    by_cases h1 : i < a
    · rw [if_neg (by omega), dif_pos (by omega), dif_pos h1]
    by_cases h2 : i < a + data.length
    · rw [if_pos (by omega), dif_pos h2, dif_neg h1, List.getElem?_eq_getElem (by omega)]
      rfl
    · rw [if_pos (by omega), dif_neg h2, List.getElem?_eq_none (by omega)]
      simp only [Option.getD_none]
      congr 1
      omega

theorem splice?_overlay (bytes : Vector UInt8 4096) {a : Nat} (data : List UInt8)
    (h : a + data.length ≤ 4096) :
    splice? bytes.toList a (a + data.length) data =
      some (Memory.overlay bytes a data).toList := by
  rw [splice?, if_pos (by simp; omega), toList_overlay bytes data h]

theorem window_of_le {a : UInt16} {length : Nat} (h : a.toNat + length ≤ 4096) :
    window a length = .ok (a.toNat, a.toNat + length) :=
  if_neg (Nat.not_lt.2 h)

theorem window_of_gt {a : UInt16} {length : Nat} (h : 4096 < a.toNat + length) :
    window a length = .error (Memory.missing a) :=
  if_pos h

end Raw

open Raw

/-! ## Memory -/

namespace Memory

def raw (m : Memory) : List UInt8 := m.bytes.toList

theorem raw_new :
    new.raw = (overlay (Vector.replicate 4096 0) Font.start.toNat Font.table).toList := rfl

theorem splice?_font :
    splice? (List.replicate size 0) Font.start.toNat (Font.start.toNat + Font.table.length)
      Font.table = some new.raw := by
  have hlen : Font.start.toNat + Font.table.length ≤ 4096 := by
    rw [Font.length_table]
    decide
  have h := splice?_overlay (Vector.replicate 4096 0) Font.table hlen
  rw [Vector.toList_replicate, ← raw_new] at h
  exact h

theorem raw_read8 (m : Memory) (a : UInt16) : read8? m.raw a = some (m.read8 a) := by
  unfold read8? read8 raw
  by_cases h : a.toNat < 4096
  · rw [window_of_le h, dif_pos h]
    simp [h]
  · rw [window_of_gt (by omega), dif_neg h]

theorem raw_read16 (m : Memory) (a : UInt16) : read16? m.raw a = some (m.read16 a) := by
  unfold read16? read16 raw
  by_cases h : a.toNat + 1 < 4096
  · rw [window_of_le (by omega), dif_pos h]
    simp only [slice?_pair m.bytes h]
  · rw [window_of_gt (by omega), dif_neg h]

theorem raw_copy (m : Memory) {a : UInt16} {data : List UInt8}
    (h : a.toNat + data.length ≤ 4096) :
    copy? m.raw a data = some (raw ⟨overlay m.bytes a.toNat data⟩, none) := by
  unfold copy? raw
  rw [window_of_le h]
  simp only [splice?_overlay m.bytes data h, Option.map_some]

/-- A copy that runs past the end leaves every byte alone. -/
theorem raw_copy_of_gt (m : Memory) {a : UInt16} {data : List UInt8}
    (h : 4096 < a.toNat + data.length) : copy? m.raw a data = some (m.raw, some (missing a)) := by
  rw [copy?, window_of_gt h]

theorem overlay_bytes (m : Memory) {a : UInt16} (w : UInt16) (h : a.toNat + 1 < 4096) :
    overlay m.bytes a.toNat (Word.bytes w) =
      (m.bytes.set a.toNat (Word.high w) (Nat.lt_of_succ_lt h)).set
        (a.toNat + 1) (Word.low w) h := by
  apply Vector.toList_inj.1
  rw [Vector.toList_set, Vector.toList_set]
  simp [Word.bytes, overlay]

theorem raw_load (m : Memory) (a : UInt16) (data : List UInt8) :
    load? m.raw a data = some (result raw m (m.load a data)) := by
  unfold load? load
  by_cases hd : data = []
  · rw [if_pos hd, if_pos hd]
    rfl
  · rw [if_neg hd, if_neg hd]
    by_cases h : a.toNat + data.length ≤ size
    · rw [raw_copy m h, if_pos h]
      rfl
    · rw [raw_copy_of_gt m (Nat.not_le.1 h), if_neg h]
      rfl

theorem raw_loadRom (m : Memory) (rom : List UInt8) :
    loadRom? m.raw rom = some (result raw m (m.loadRom rom)) := by
  unfold loadRom? loadRom
  by_cases h : rom.length > maxRomSize
  · rw [if_pos h, if_pos h]
    rfl
  · rw [if_neg h, if_neg h]
    exact raw_load m programStart rom

theorem raw_write (m : Memory) (c : Command) :
    write? m.raw c = some (result raw m (c.apply m)) := by
  cases c with
  | write8 a b =>
    simp only [write?, Command.apply, write8]
    by_cases h : a.toNat < 4096
    · rw [window_of_le h, dif_pos h]
      simp only [raw, put?_toList m.bytes h, Option.map_some, result]
    · rw [window_of_gt (by omega), dif_neg h]
      rfl
  | write16 a w =>
    simp only [write?, Command.apply, write16]
    by_cases h : a.toNat + 1 < 4096
    · rw [raw_copy m (by rw [Word.length_bytes]; omega), dif_pos h, overlay_bytes m w h]
      rfl
    · rw [raw_copy_of_gt m (by rw [Word.length_bytes]; omega), dif_neg h]
      rfl
  | load a data => exact raw_load m a data
  | loadRom rom => exact raw_loadRom m rom

/-- A write that is refused leaves every byte alone. -/
theorem raw_write_of_error {m : Memory} {c : Command} {f : Fault} (h : c.apply m = .error f) :
    write? m.raw c = some (m.raw, some f) := by
  rw [raw_write, h]
  rfl

end Memory

/-! ## Display -/

namespace Display

def raw (d : Display) : List Bool := d.pixels.toList

theorem raw_new : new.raw = List.replicate (width * height) false := by
  simp [raw, new, width, height]

theorem pixelIndex_of_lt {x y : Nat} (h : x < 64 ∧ y < 32) : pixelIndex x y = .ok (slot x y) := by
  rw [pixelIndex, if_neg (by simp only [width, height]; omega), slot, Nat.mul_comm]
  rfl

theorem pixelIndex_of_not_lt {x y : Nat} (h : ¬(x < 64 ∧ y < 32)) :
    pixelIndex x y = .error (.pixelOutOfRange x y) :=
  if_pos (by simp only [width, height]; omega)

theorem raw_get (d : Display) (x y : Nat) : getPixel? d.raw x y = some (d.get x y) := by
  unfold getPixel? get raw
  by_cases h : x < 64 ∧ y < 32
  · rw [pixelIndex_of_lt h, dif_pos h]
    simp [slot_lt h]
  · rw [pixelIndex_of_not_lt h, dif_neg h]

theorem raw_clear (d : Display) : (d.raw.map fun _ => false) = d.clear.raw := by
  simp [raw, clear, new, List.map_const']

theorem raw_draw (d : Display) (c : Command) : draw? d.raw c = some (result raw d (c.apply d)) := by
  cases c with
  | set x y on =>
    simp only [draw?, Command.apply, set]
    by_cases h : x < 64 ∧ y < 32
    · rw [pixelIndex_of_lt h, dif_pos h]
      simp only [raw, put?_toList d.pixels (slot_lt h), Option.map_some, result]
    · rw [pixelIndex_of_not_lt h, dif_neg h]
      rfl
  | clear => rw [draw?, raw_clear]; rfl

end Display

/-! ## Registers -/

namespace Registers

def raw (r : Registers) : List UInt8 := r.bytes.toList

theorem raw_zero : zero.raw = List.replicate 16 0 :=
  Vector.toList_replicate

theorem slot_of_lt {x : UInt8} (h : x.toNat < 16) : (slot x).val = x.toNat := by
  simp [slot, Nat.mod_eq_of_lt h]

theorem raw_get (r : Registers) {x : UInt8} (h : x.toNat < 16) :
    r.raw[x.toNat]? = some (r.get x) := by
  simp [raw, get, slot_of_lt h, h]

theorem raw_set (r : Registers) {x : UInt8} (h : x.toNat < 16) (b : UInt8) :
    put? r.raw x.toNat b = some (r.set x b).raw := by
  rw [raw, put?_toList r.bytes h]
  simp only [raw, set, slot_of_lt h]

end Registers

/-! ## Call stack -/

namespace CallStack

def rawDepth (s : CallStack) : UInt8 := UInt8.ofNat s.depth

variable {s t : CallStack} {a : UInt16}

theorem toList_slots_empty : empty.slots.toList = List.replicate size 0 :=
  Vector.toList_replicate

theorem toNat_rawDepth (s : CallStack) : s.rawDepth.toNat = s.depth := by
  have := s.depth_le
  simp [rawDepth]
  omega

theorem rawDepth_inj : s.rawDepth = t.rawDepth ↔ s.depth = t.depth := by
  rw [← UInt8.toNat_inj, toNat_rawDepth, toNat_rawDepth]

theorem rawDepth_eq_zero_iff : s.rawDepth = 0 ↔ s.depth = 0 := by
  rw [← UInt8.toNat_inj, toNat_rawDepth]
  rfl

theorem put?_slots (h : s.push? a = some t) :
    put? s.slots.toList s.rawDepth.toNat a = some t.slots.toList := by
  rw [toNat_rawDepth]
  unfold push? at h
  split at h
  next hd => cases h; exact put?_toList s.slots hd a
  · cases h

theorem add8?_rawDepth (h : s.push? a = some t) : add8? s.rawDepth 1 = some t.rawDepth := by
  obtain ⟨hlt, hd, -⟩ := of_push? h
  have hs := toNat_rawDepth s
  have h1 : (1 : UInt8).toNat = 1 := rfl
  rw [add8?, if_pos (by omega), Option.some.injEq, ← UInt8.toNat_inj, UInt8.toNat_add,
    toNat_rawDepth t]
  omega

theorem sub8?_rawDepth (h : s.pop? = some (a, t)) : sub8? s.rawDepth 1 = some t.rawDepth := by
  obtain ⟨-, hd, -⟩ := of_pop? h
  have hs := toNat_rawDepth s
  have h1 : (1 : UInt8).toNat = 1 := rfl
  rw [sub8?, if_pos (by omega), Option.some.injEq, ← UInt8.toNat_inj,
    UInt8.toNat_sub_of_le _ _ (UInt8.le_iff_toNat_le.2 (by omega)), toNat_rawDepth t]
  omega

theorem getElem?_slots (h : s.pop? = some (a, t)) :
    s.slots.toList[t.rawDepth.toNat]? = some a := by
  obtain ⟨-, -, hlt, rfl⟩ := of_pop? h
  rw [toNat_rawDepth]
  simp [hlt]

end CallStack

end Chip8
