import Chip8.Machine.Snapshot
import Chip8.Proofs.Memory.Dump
import Chip8.Proofs.Raw.Parts
import Chip8.Proofs.Text.Parts

/-! # A full dump leaves nothing out

Every number in the text of a snapshot has a width of its own, which fits its largest value. So the
text has the same length for all machines, it tells where each number is, and the dump of memory
behind it begins at the same place.

* `RawSnapshot`: a snapshot whose stack pointer is any byte. `Snapshot.raw`, `Snapshot.text_raw`: a
  snapshot without what its type says, and its text.
* `Snapshot.length_cells`, `Snapshot.cells_append_inj`: a row of a table.
* `RawSnapshot.length_text`, `RawSnapshot.text_append_inj`: the text, and where it ends.
* `Machine.fullDump_eq`, `Machine.fullDump_inj`: a full dump, and what it tells of a machine.
* `full_dump_complete`: the statement above. -/

namespace Chip8

/-- A snapshot whose stack pointer is any byte. -/
structure RawSnapshot where
  registers : Registers
  index : UInt16
  pc : UInt16
  slots : Vector UInt16 16
  depth : UInt8
  timers : Timers
  deriving DecidableEq

namespace Snapshot

/-! ## Rows of a table -/

section

variable {α : Type} {gap s t : String} {w : Nat}

theorem cells_cons (gap item : String) (items : List String) :
    cells gap (item :: items) = item ++ (gap ++ cells gap items) := by
  rw [cells, List.map_cons, String.join_cons, String.append_assoc]
  rfl

theorem length_cells {f : α → String} {l : List α} (gap : String)
    (h : ∀ a ∈ l, (f a).length = w) :
    (cells gap (l.map f)).length = l.length * (w + gap.length) := by
  induction l with
  | nil => simp [cells]
  | cons a l ih =>
    have hrest := ih fun b hb => h b (List.mem_cons_of_mem a hb)
    rw [List.map_cons, cells_cons, String.length_append, String.length_append,
      h a List.mem_cons_self, hrest, List.length_cons, Nat.succ_mul]
    omega

theorem cells_append_inj {f : α → String}
    (hf : ∀ a b s t, f a ++ s = f b ++ t → a = b ∧ s = t) {l l' : List α}
    (hlen : l.length = l'.length) (h : cells gap (l.map f) ++ s = cells gap (l'.map f) ++ t) :
    l = l' ∧ s = t := by
  induction l generalizing l' with
  | nil =>
    obtain rfl := List.eq_nil_of_length_eq_zero hlen.symm
    exact ⟨rfl, (String.append_right_inj _).1 h⟩
  | cons a l ih =>
    cases l' with
    | nil => cases hlen
    | cons b l' =>
      simp only [List.map_cons, cells_cons, String.append_assoc] at h
      obtain ⟨rfl, hrest⟩ := hf _ _ _ _ h
      obtain ⟨rfl, hend⟩ := ih (Nat.succ.inj hlen) ((String.append_right_inj _).1 hrest)
      exact ⟨rfl, hend⟩

end

/-! ## Tables -/

/-- It does not count how many of the slots are taken. -/
def slotsText (slots : Vector UInt16 16) : String :=
  stackText { CallStack.empty with slots := slots }

theorem stackText_eq (s : CallStack) : stackText s = slotsText s.slots := rfl

theorem length_registersText (r : Registers) : (registersText r).length = 112 := by
  have hnames : (cells " " ((List.range 16).map fun k => "V" ++ Hex.lower 1 k)).length = 48 := by
    refine length_cells (w := 2) " " fun k hk => ?_
    have hdigit : (Hex.lower 1 k).length = 1 :=
      Hex.length_lower_of_lt (by decide) (List.mem_range.1 hk)
    rw [String.length_append, hdigit]
    rfl
  have hbytes : (cells " " (r.bytes.toList.map fun b => Hex.lower 2 b.toNat)).length = 48 := by
    rw [length_cells " " fun b _ => Hex.length_byte b, Vector.length_toList]
    rfl
  simp only [registersText, String.length_append, hnames, hbytes]
  rfl

theorem length_slotsText (slots : Vector UInt16 16) : (slotsText slots).length = 176 := by
  have hnumbers : (cells "   " ((List.range 16).map (Hex.lower 2))).length = 80 := by
    refine length_cells (w := 2) "   " fun k hk => ?_
    have hlt := List.mem_range.1 hk
    exact Hex.length_lower_of_lt (by decide) (Nat.lt_trans hlt (by decide))
  have hwords : (cells " " (slots.toList.map fun a => Hex.lower 4 a.toNat)).length = 80 := by
    rw [length_cells " " fun a _ => Hex.length_word a, Vector.length_toList]
    rfl
  simp only [slotsText, stackText, String.length_append, hnumbers, hwords]
  rfl

section

variable {s t : String}

theorem registersText_append_inj {r r' : Registers}
    (h : registersText r ++ s = registersText r' ++ t) : r = r' ∧ s = t := by
  have hlen : r.bytes.toList.length = r'.bytes.toList.length := by
    rw [Vector.length_toList, Vector.length_toList]
  simp only [registersText, String.append_assoc, String.append_right_inj] at h
  obtain ⟨hbytes, hrest⟩ := cells_append_inj (fun _ _ _ _ => Hex.byte_append_inj) hlen h
  cases r
  cases r'
  exact ⟨congrArg Registers.mk (Vector.toList_inj.1 hbytes), (String.append_right_inj _).1 hrest⟩

theorem slotsText_append_inj {slots slots' : Vector UInt16 16}
    (h : slotsText slots ++ s = slotsText slots' ++ t) : slots = slots' ∧ s = t := by
  have hlen : slots.toList.length = slots'.toList.length := by
    rw [Vector.length_toList, Vector.length_toList]
  simp only [slotsText, stackText, String.append_assoc, String.append_right_inj] at h
  obtain ⟨hwords, hrest⟩ := cells_append_inj (fun _ _ _ _ => Hex.word_append_inj) hlen h
  exact ⟨Vector.toList_inj.1 hwords, (String.append_right_inj _).1 hrest⟩

end

end Snapshot

/-! ## Snapshots -/

namespace RawSnapshot

def text (s : RawSnapshot) : String :=
  "\nRegisters: \n\n" ++
  "PC: " ++ Hex.lower 4 s.pc.toNat ++ " \n\n" ++
  Snapshot.registersText s.registers ++ "\n" ++
  Snapshot.slotsText s.slots ++ "\n" ++
  "I:  " ++ Hex.lower 4 s.index.toNat ++ " \n" ++
  "SP: " ++ Hex.lower 2 s.depth.toNat ++ " \n" ++
  "DT: " ++ Hex.lower 2 s.timers.delay.toNat ++ " \n" ++
  "ST: " ++ Hex.lower 2 s.timers.sound.toNat ++ " \n"

theorem length_text (s : RawSnapshot) : s.text.length = 349 := by
  unfold text
  simp only [String.length_append, Hex.length_word, Hex.length_byte, Snapshot.length_registersText,
    Snapshot.length_slotsText]
  rfl

/-- The numbers are taken off the text one after the other. -/
theorem text_append_inj {s s' : RawSnapshot} {u v : String} (h : s.text ++ u = s'.text ++ v) :
    s = s' ∧ u = v := by
  obtain ⟨registers, index, pc, slots, depth, delay, sound⟩ := s
  obtain ⟨registers', index', pc', slots', depth', delay', sound'⟩ := s'
  unfold text at h
  simp only [String.append_assoc, String.append_right_inj] at h
  obtain ⟨rfl, hregisters⟩ := Hex.word_append_inj h
  simp only [String.append_right_inj] at hregisters
  obtain ⟨rfl, hslots⟩ := Snapshot.registersText_append_inj hregisters
  simp only [String.append_right_inj] at hslots
  obtain ⟨rfl, hindex⟩ := Snapshot.slotsText_append_inj hslots
  simp only [String.append_right_inj] at hindex
  obtain ⟨rfl, hdepth⟩ := Hex.word_append_inj hindex
  simp only [String.append_right_inj] at hdepth
  obtain ⟨rfl, hdelay⟩ := Hex.byte_append_inj hdepth
  simp only [String.append_right_inj] at hdelay
  obtain ⟨rfl, hsound⟩ := Hex.byte_append_inj hdelay
  simp only [String.append_right_inj] at hsound
  obtain ⟨rfl, hend⟩ := Hex.byte_append_inj hsound
  exact ⟨rfl, (String.append_right_inj _).1 hend⟩

end RawSnapshot

namespace Snapshot

/-- The snapshot without what its type says of the call stack. -/
def raw (s : Snapshot) : RawSnapshot where
  registers := s.registers
  index := s.index
  pc := s.pc
  slots := s.stack.slots
  depth := s.stack.rawDepth
  timers := s.timers

theorem text_raw (s : Snapshot) : s.raw.text = s.text := by
  have hdepth : s.raw.depth.toNat = s.stack.depth := CallStack.toNat_rawDepth s.stack
  unfold RawSnapshot.text text
  rw [hdepth, stackText_eq]
  rfl

end Snapshot

/-! ## Full dumps -/

theorem text_append_dump_inj {s s' : RawSnapshot} {m m' : Memory} :
    s.text ++ m.dump = s'.text ++ m'.dump ↔ s = s' ∧ m = m' := by
  constructor
  · intro h
    obtain ⟨hs, hdump⟩ := RawSnapshot.text_append_inj h
    exact ⟨hs, Memory.dump_inj hdump⟩
  · rintro ⟨rfl, rfl⟩
    rfl

namespace Machine

theorem snapshot_raw (m : Machine) : m.snapshot.raw = {
    registers := m.registers, index := m.index, pc := m.pc, slots := m.stack.slots,
    depth := m.stack.rawDepth, timers := m.timers } := by
  rw [snapshot_eq]
  rfl

theorem fullDump_eq (m : Machine) :
    m.fullDump = RawSnapshot.text {
      registers := m.registers, index := m.index, pc := m.pc, slots := m.stack.slots,
      depth := m.stack.rawDepth, timers := m.timers } ++ m.memory.dump := by
  rw [fullDump, ← Snapshot.text_raw, snapshot_raw]

theorem fullDump_inj {m m' : Machine} :
    m.fullDump = m'.fullDump ↔
      m.registers = m'.registers ∧ m.index = m'.index ∧ m.pc = m'.pc ∧
      m.stack.slots = m'.stack.slots ∧ m.stack.depth = m'.stack.depth ∧
      m.timers.delay = m'.timers.delay ∧ m.timers.sound = m'.timers.sound ∧
      m.memory = m'.memory := by
  rw [fullDump_eq, fullDump_eq, text_append_dump_inj, RawSnapshot.mk.injEq, CallStack.rawDepth_inj,
    Timers.ext_iff]
  simp only [and_assoc]

/-- **A full dump leaves nothing out.** The digits of every byte of memory are where its address
says, in front of them stands a text whose length is always the same, and machines that are dumped
alike have the same registers, index, program counter, timers and memory, and the same call stack
with all of its slots. -/
theorem full_dump_complete :
    (∀ m : Memory, m.dump.length = 13824 ∧ ∀ a : UInt16, a.toNat < 4096 → ∃ b, m.read8 a = .ok b ∧
      (∀ row, row = 16 * (a.toNat / 16) → (m.dump.toList.drop (54 * (a.toNat / 16))).take 6 =
        ['\n', (row / 256).digitChar, (row / 16 % 16).digitChar, (row % 16).digitChar, ':', ' ']) ∧
      (m.dump.toList.drop (54 * (a.toNat / 16) + 6 + 3 * (a.toNat % 16))).take 3 =
        [(b.toNat / 16).digitChar, (b.toNat % 16).digitChar, ' ']) ∧
    (∀ s : RawSnapshot, s.text.length = 349) ∧
    (∀ s : Snapshot, s.raw.text = s.text) ∧
    (∀ (s s' : RawSnapshot) (m m' : Memory),
      s.text ++ m.dump = s'.text ++ m'.dump ↔ s = s' ∧ m = m') ∧
    (∀ m : Machine, m.fullDump = RawSnapshot.text {
      registers := m.registers, index := m.index, pc := m.pc, slots := m.stack.slots,
      depth := m.stack.rawDepth, timers := m.timers } ++ m.memory.dump) ∧
    ∀ m m' : Machine, m.fullDump = m'.fullDump ↔
      m.registers = m'.registers ∧ m.index = m'.index ∧ m.pc = m'.pc ∧
      m.stack.slots = m'.stack.slots ∧ m.stack.depth = m'.stack.depth ∧
      m.timers.delay = m'.timers.delay ∧ m.timers.sound = m'.timers.sound ∧
      m.memory = m'.memory := by
  refine ⟨fun m => ⟨m.length_dump, fun a ha => ?_⟩, RawSnapshot.length_text, Snapshot.text_raw,
    fun s s' m m' => text_append_dump_inj, fullDump_eq, fun m m' => fullDump_inj⟩
  have hrow : a.toNat / 16 < 256 := by omega
  have hcolumn : a.toNat % 16 < 16 := Nat.mod_lt _ (by decide)
  refine ⟨m.byteAt a.toNat, m.read8_eq_byteAt ha, ?_, ?_⟩
  · rintro row rfl
    exact m.take_drop_dump_row hrow
  · rw [m.take_drop_dump_byte hrow hcolumn, Nat.div_add_mod, Memory.cellText_eq]

/-- The last byte of memory is at the end of the dump, the text has room for the highest byte as its
stack pointer, and machines that differ from another in nothing but an address left in a slot that is
not taken, the last register, the index, the program counter or a timer are dumped otherwise. -/
theorem stale_slot_in_full_dump :
    ∃ m, Memory.new.write8 0xFFF 0xC3 = .ok m ∧ (0xFFF : UInt16).toNat < 4096 ∧
      (m.dump.toList.drop 13770).take 6 = ['\n', 'f', 'f', '0', ':', ' '] ∧
      (m.dump.toList.drop 13821).take 3 = ['c', '3', ' '] ∧
      ({ new.snapshot.raw with depth := 0xFF } : RawSnapshot).text.length = 349 ∧
      ({ new with stack := ⟨Vector.replicate 16 0x202, 0, by decide⟩ } : Machine).fullDump ≠
        new.fullDump ∧
      (new.setRegister 0xF 1).fullDump ≠ new.fullDump ∧
      ({ new with index := 1 } : Machine).fullDump ≠ new.fullDump ∧
      new.advance.fullDump ≠ new.fullDump ∧
      ({ new with timers := ⟨0, 1⟩ } : Machine).fullDump ≠ new.fullDump := by
  obtain ⟨hdump, hlength, -, -, -, hfull⟩ := full_dump_complete
  have hwrite : Memory.new.write8 0xFFF 0xC3 = .ok _ := dif_pos (by decide)
  generalize hm : (⟨Memory.new.bytes.set (0xFFF : UInt16).toNat 0xC3 (by decide)⟩ : Memory) = m
    at hwrite
  have hread : m.read8 0xFFF = .ok 0xC3 := by
    rw [← hm, Memory.read8_of_lt _ (by decide), Vector.getElem_set_self]
  obtain ⟨b, hb, hrow, hbyte⟩ := (hdump m).2 0xFFF (by decide)
  obtain rfl := Except.ok.inj (hread.symm.trans hb)
  refine ⟨m, hwrite, by decide, hrow _ rfl, hbyte, hlength _, ?_, ?_, ?_, ?_, ?_⟩ <;> rw [Ne, hfull]
  · rintro ⟨-, -, -, hslots, -⟩
    exact absurd (congrArg (·[0]) hslots) (by decide)
  · rintro ⟨hregisters, -⟩
    exact absurd (congrArg (·.get 0xF) hregisters) (by decide)
  · rintro ⟨-, hindex, -⟩
    exact absurd hindex (by decide)
  · rintro ⟨-, -, hpc, -⟩
    exact absurd hpc (by decide)
  · rintro ⟨-, -, -, -, -, -, hsound, -⟩
    exact absurd hsound (by decide)

end Machine

end Chip8
