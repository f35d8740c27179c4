import Chip8.Proofs.Memory.Coverage

/-! # Wide accesses byte by byte

A word or a row of bytes is read and written as its bytes are, one after the other, and refused as
the first of them that is refused. Only that a refused row leaves nothing behind.

* `readAt`, `writeAt`: the byte at any address, also at one that is no word; `readAt_eq`,
  `writeAt_eq`: an address past the end is refused as it is.
* `writeEach`: bytes written one after the other until one is refused; `writeEach_eq`. `outcome`:
  the same without what a refused row has written.
* `apply_eq_outcome`: writes as rows of bytes; `read16_eq_readAt`: reading a word.
* `wide_accesses_bytewise`: the statement above. -/

namespace Chip8.Memory

/-! ## Single bytes -/

def readAt (m : Memory) (a : Nat) : Except Fault UInt8 :=
  if a < 0x10000 then m.read8 (UInt16.ofNat a) else .error (.memoryOutOfBounds a)

def writeAt (m : Memory) (a : Nat) (b : UInt8) : Except Fault Memory :=
  if a < 0x10000 then m.write8 (UInt16.ofNat a) b else .error (.memoryOutOfBounds a)

variable {m : Memory} {a : Nat} {data : List UInt8} {f : Fault}

theorem missing_of_ge (h : 4096 ≤ a) (hw : a < 0x10000) :
    missing (UInt16.ofNat a) = .memoryOutOfBounds a := by
  rw [missing, UInt16.toNat_ofNat_of_lt' hw, size, Nat.max_eq_left h]

theorem readAt_eq (m : Memory) (a : Nat) :
    m.readAt a = if h : a < 4096 then .ok m.bytes[a] else .error (.memoryOutOfBounds a) := by
  unfold readAt
  by_cases hw : a < 0x10000
  · rw [if_pos hw, read8]
    by_cases h : a < 4096
    · rw [dif_pos (by rwa [UInt16.toNat_ofNat_of_lt' hw]), dif_pos h]
      simp only [UInt16.toNat_ofNat_of_lt' hw]
    · rw [dif_neg (by rwa [UInt16.toNat_ofNat_of_lt' hw]), dif_neg h,
        missing_of_ge (Nat.not_lt.1 h) hw]
  · rw [if_neg hw, dif_neg (by omega)]

theorem writeAt_eq (m : Memory) (a : Nat) (b : UInt8) :
    m.writeAt a b =
      if a < 4096 then .ok ⟨m.bytes.setIfInBounds a b⟩ else .error (.memoryOutOfBounds a) := by
  unfold writeAt
  by_cases hw : a < 0x10000
  · have hone : m.write8 (UInt16.ofNat a) b = _ := Command.apply_eq (.write8 (UInt16.ofNat a) b) m
    have hfits : (Command.write8 (UInt16.ofNat a) b).Fits ↔ a < 4096 := by
      rw [Command.fits_write8, UInt16.toNat_ofNat_of_lt' hw]
    rw [if_pos hw, hone]
    by_cases h : a < 4096
    · rw [if_pos (hfits.2 h), if_pos h, Command.start, Command.data, overlay, overlay,
        UInt16.toNat_ofNat_of_lt' hw]
    · rw [if_neg (mt hfits.1 h), if_neg h, Command.refusal, missing_of_ge (Nat.not_lt.1 h) hw]
  · rw [if_neg hw, if_neg (by omega)]

theorem readAt_toNat (m : Memory) (a : UInt16) : m.readAt a.toNat = m.read8 a := by
  rw [readAt, if_pos a.toNat_lt, UInt16.ofNat_toNat]

theorem writeAt_toNat (m : Memory) (a : UInt16) (b : UInt8) :
    m.writeAt a.toNat b = m.write8 a b := by
  rw [writeAt, if_pos a.toNat_lt, UInt16.ofNat_toNat]

/-! ## Rows of bytes -/

/-- Memory after the bytes before the first that was refused, and how that was refused. -/
def writeEach (m : Memory) (a : Nat) : List UInt8 → Memory × Option Fault
  | [] => (m, none)
  | b :: data =>
    match m.writeAt a b with
    | .ok m' => m'.writeEach (a + 1) data
    | .error f => (m, some f)

/-- Nothing is kept of a row that was refused. -/
def outcome : Memory × Option Fault → Except Fault Memory
  | (m, none) => .ok m
  | (_, some f) => .error f

theorem overlay_of_ge (bytes : Vector UInt8 4096) (h : 4096 ≤ a) (data : List UInt8) :
    overlay bytes a data = bytes := by
  apply Vector.ext
  intro i hi
  rw [getElem_overlay _ _ _ hi, if_neg (by omega)]

theorem writeEach_eq (m : Memory) (a : Nat) (data : List UInt8) :
    m.writeEach a data =
      (⟨overlay m.bytes a data⟩,
        if FitsAt a data then none else some (.memoryOutOfBounds (max a 4096))) := by
  induction data generalizing m a with
  | nil => rfl
  | cons b data ih =>
    rw [writeEach, writeAt_eq]
    by_cases h : a < 4096
    · -- the first byte is written, and the rest of the row is refused as the row is
      have hfits : FitsAt a (b :: data) ↔ FitsAt (a + 1) data :=
        fitsAt_cons_iff.trans (and_iff_right h)
      have hmax : max a 4096 = max (a + 1) 4096 := by omega
      rw [if_pos h]
      simp only [ih, overlay, hfits, hmax]
    · have hfits : ¬FitsAt a (b :: data) := fun hcons => h (fitsAt_cons_iff.1 hcons).1
      rw [if_neg h, if_neg hfits, overlay_of_ge _ (by omega), Nat.max_eq_left (by omega)]

/-- A write that is refused by an address is a row of bytes. -/
theorem apply_eq_outcome {c : Command} (h : c.refusal = .memoryOutOfBounds (max c.start 4096))
    (m : Memory) : c.apply m = outcome (m.writeEach c.start c.data) := by
  rw [Command.apply_eq, writeEach_eq, h]
  by_cases hfits : FitsAt c.start c.data
  · rw [if_pos (show c.Fits from hfits), if_pos hfits, outcome]
  · rw [if_neg (show ¬c.Fits from hfits), if_neg hfits, outcome]

theorem read16_eq_readAt (m : Memory) (a : UInt16) :
    m.read16 a = do
      let high ← m.readAt a.toNat
      let low ← m.readAt (a.toNat + 1)
      return Word.ofBytes high low := by
  rw [read16, readAt_eq, readAt_eq, missing, size]
  by_cases hlow : a.toNat + 1 < 4096
  · rw [dif_pos hlow, dif_pos hlow, dif_pos (Nat.lt_of_succ_lt hlow)]
    rfl
  · rw [dif_neg hlow, dif_neg hlow]
    by_cases hhigh : a.toNat < 4096
    · rw [dif_pos hhigh, show max a.toNat 4096 = a.toNat + 1 by omega]
      rfl
    · rw [dif_neg hhigh, Nat.max_eq_left (Nat.not_lt.1 hhigh)]
      rfl

theorem error_of_load {a : UInt16} (h : m.load a data = .error f) :
    f = .memoryOutOfBounds (max a.toNat 4096) ∧ m.after (.load a data) = m ∧
      Raw.write? m.raw (.load a data) = some (m.raw, some f) := by
  have happly : Command.apply m (.load a data) = .error f := h
  refine ⟨?_, after_of_error happly, raw_write_of_error happly⟩
  rw [Command.apply_eq] at happly
  split at happly
  · cases happly
  · exact (Except.error.inj happly).symm

theorem loadRom_of_gt {rom : List UInt8} (h : 3584 < rom.length) :
    m.loadRom rom = .error (.romTooLarge rom.length 3584) := by
  rw [loadRom_eq, if_neg (Nat.not_le.2 h)]

theorem loadRom_of_le {rom : List UInt8} (h : rom.length ≤ 3584) :
    m.loadRom rom = m.load 0x200 rom := by
  have hmax : maxRomSize = 3584 := rfl
  rw [loadRom, hmax, if_neg (Nat.not_lt.2 h)]
  rfl

/-- **Wide accesses are their bytes in order.** A write of many bytes that is refused is refused
whole, for the first byte that does not exist, and a program is refused for its size alone. -/
theorem wide_accesses_bytewise (m : Memory) (a : UInt16) :
    (m.readAt a.toNat = m.read8 a ∧ ∀ b, m.writeAt a.toNat b = m.write8 a b) ∧
    (∀ n, 0x1000 ≤ n → m.readAt n = .error (.memoryOutOfBounds n) ∧
      ∀ b, m.writeAt n b = .error (.memoryOutOfBounds n)) ∧
    (∀ data, m.load a data = outcome (m.writeEach a.toNat data) ∧
      ∀ f, m.load a data = .error f →
        f = .memoryOutOfBounds (max a.toNat 0x1000) ∧ m.after (.load a data) = m ∧
          Raw.write? m.raw (.load a data) = some (m.raw, some f)) ∧
    m.load a [] = .ok m ∧
    (∀ w, m.write16 a w = outcome (m.writeEach a.toNat [Word.high w, Word.low w])) ∧
    m.read16 a = (do
      let high ← m.readAt a.toNat
      let low ← m.readAt (a.toNat + 1)
      return Word.ofBytes high low) ∧
    (∀ rom, rom.length ≤ 3584 → m.loadRom rom = m.load 0x200 rom) ∧
    (∀ rom, 3584 < rom.length → m.loadRom rom = .error (.romTooLarge rom.length 3584) ∧
      m.after (.loadRom rom) = m ∧
      Raw.write? m.raw (.loadRom rom) = some (m.raw, some (.romTooLarge rom.length 3584))) ∧
    (∀ rom address, m.loadRom rom ≠ .error (.memoryOutOfBounds address)) ∧
    (∀ c, Raw.write? m.raw c = some (Raw.result raw m (c.apply m))) ∧
    Raw.read16? m.raw a = some (m.read16 a) := by
  refine ⟨⟨readAt_toNat m a, writeAt_toNat m a⟩, fun n hn => ⟨?_, fun b => ?_⟩,
    fun data => ⟨?_, fun f => error_of_load⟩, rfl, fun w => ?_, read16_eq_readAt m a,
    fun rom => loadRom_of_le, fun rom hgt => ?_, fun rom address => ?_, raw_write m, raw_read16 m a⟩
  · rw [readAt_eq, dif_neg (Nat.not_lt.2 hn)]
  · rw [writeAt_eq, if_neg (Nat.not_lt.2 hn)]
  · exact apply_eq_outcome (c := .load a data) rfl m
  · exact apply_eq_outcome (c := .write16 a w) rfl m
  · have hrefused : m.loadRom rom = _ := loadRom_of_gt hgt
    exact ⟨hrefused, after_of_error (c := .loadRom rom) hrefused,
      raw_write_of_error (c := .loadRom rom) hrefused⟩
  · rw [loadRom_eq]
    split <;> nofun

/-- Three bytes of which two are left: written one by one they are in memory before the third is
refused, and in a row they are not. -/
theorem straddling_row_refused_whole :
    Memory.new.load 0xFFE [1, 2, 3] = .error (.memoryOutOfBounds 0x1000) ∧
      Memory.new.after (.load 0xFFE [1, 2, 3]) = Memory.new ∧
      Raw.write? Memory.new.raw (.load 0xFFE [1, 2, 3]) =
        some (Memory.new.raw, some (.memoryOutOfBounds 0x1000)) ∧
      (Memory.new.writeEach 0xFFE [1, 2, 3]).1.read8 0xFFF = .ok 2 ∧
      [7].length ≤ 3584 ∧ Memory.new.loadRom [7] = Memory.new.load 0x200 [7] := by
  obtain ⟨-, -, hload, -, -, -, hrom, -⟩ := wide_accesses_bytewise Memory.new 0xFFE
  obtain ⟨houtcome, hrefused⟩ := hload [1, 2, 3]
  have hfault : Memory.new.load 0xFFE [1, 2, 3] = .error (.memoryOutOfBounds 0x1000) :=
    houtcome.trans (by rw [writeEach_eq]; rfl)
  obtain ⟨-, hkept, hbytes⟩ := hrefused _ hfault
  refine ⟨hfault, hkept, hbytes, ?_, by decide, hrom [7] (by decide)⟩
  rw [writeEach_eq]
  exact read8_overlay _ (by decide) (by decide) (by decide)

end Chip8.Memory
