import Chip8.Proofs.Memory.Coverage
import Chip8.Proofs.Run.Latest

/-! # The history of a byte

A byte of memory is what the last write that was done put there, or what it was at the start.

* `afterAll`, `upTo k`: memory after a row of writes, and after the first `k` of them.
* `PutsAt`: a write of the row is done and puts a byte at an address; `read8_upTo`: what is read
  there is what the latest of these writes put.
* `Raw.storeAll?`: the same row of writes on plain bytes, which could abort; `raw_afterAll`: it
  never does.
* `byte_history`: the statement above. -/

namespace Chip8

namespace Raw

/-- The bytes after a write was tried. -/
def store? (bytes : List UInt8) (c : Memory.Command) : Option (List UInt8) := do
  return (← write? bytes c).1

def storeAll? (bytes : List UInt8) (cs : List Memory.Command) : Option (List UInt8) :=
  cs.foldlM store? bytes

end Raw

namespace Memory

def afterAll (m : Memory) (cs : List Command) : Memory :=
  cs.foldl after m

/-- Memory after the first `k` writes. -/
def upTo (m : Memory) (cs : List Command) (k : Nat) : Memory :=
  m.afterAll (cs.take k)

/-- Write `k` of the row is done and puts `b` at address `a`. -/
def PutsAt (m : Memory) (cs : List Command) (a k : Nat) (b : UInt8) : Prop :=
  ∃ c, cs[k]? = some c ∧ (∃ m', c.apply (m.upTo cs k) = .ok m') ∧ c.Puts a b

variable {m : Memory} {cs : List Command} {a : UInt16} {k : Nat} {b b' : UInt8}

theorem PutsAt.unique (h : m.PutsAt cs a.toNat k b) (h' : m.PutsAt cs a.toNat k b') : b = b' := by
  obtain ⟨c, hc, -, hb⟩ := h
  obtain ⟨c', hc', -, hb'⟩ := h'
  obtain rfl := Option.some.inj (hc.symm.trans hc')
  exact hb.unique hb'

theorem upTo_succ {c : Command} (h : cs[k]? = some c) :
    m.upTo cs (k + 1) = (m.upTo cs k).after c := by
  simp [upTo, afterAll, List.take_add_one, h]

theorem upTo_length (m : Memory) (cs : List Command) : m.upTo cs cs.length = m.afterAll cs := by
  rw [upTo, List.take_length]

/-! ## Plain bytes -/

theorem length_raw (m : Memory) : m.raw.length = 4096 :=
  Vector.length_toList

theorem raw_after (m : Memory) (c : Command) : Raw.store? m.raw c = some (m.after c).raw := by
  simp only [Raw.store?, raw_write, after, Option.bind_eq_bind, Option.bind_some]
  cases c.apply m <;> rfl

theorem raw_afterAll (m : Memory) (cs : List Command) :
    Raw.storeAll? m.raw cs = some (m.afterAll cs).raw := by
  induction cs generalizing m with
  | nil => rfl
  | cons c cs ih =>
    have hfirst : Raw.storeAll? m.raw (c :: cs) = Raw.storeAll? (m.after c).raw cs := by
      simp [Raw.storeAll?, raw_after]
    rw [hfirst, ih]
    rfl

/-! ## The latest write -/

theorem read8_upTo (ha : a.toNat < 4096) (m : Memory) (cs : List Command) :
    (∃ k, Latest (fun k => ∃ b, m.PutsAt cs a.toNat k b) cs.length k ∧
        ∃ b, m.PutsAt cs a.toNat k b ∧ (m.afterAll cs).read8 a = .ok b) ∨
      (∀ k < cs.length, ¬∃ b, m.PutsAt cs a.toNat k b) ∧
        (m.afterAll cs).read8 a = m.read8 a := by
  rw [← upTo_length]
  refine latest_or_never (fun k => (m.upTo cs k).read8 a)
    (fun k v => ∃ b, m.PutsAt cs a.toNat k b ∧ v = .ok b) ?_ ?_
  · rintro k - ⟨b, c, hc, ⟨m', hm⟩, hb⟩
    refine ⟨b, ⟨c, hc, ⟨m', hm⟩, hb⟩, ?_⟩
    rw [upTo_succ hc]
    exact read8_after_of_puts ha hm hb
  · intro k hk hnot
    have hc : cs[k]? = some cs[k] := List.getElem?_eq_getElem hk
    rw [upTo_succ hc]
    exact read8_after_of_not_puts ha fun m' b hm hb => hnot ⟨b, _, hc, ⟨m', hm⟩, hb⟩

theorem read16_eq_of_bytes (m : Memory) (h : a.toNat ≤ 0xFFE) :
    ∃ high low w, m.read8 a = .ok high ∧ m.read8 (a + 1) = .ok low ∧ m.read16 a = .ok w ∧
      w.toNat = 256 * high.toNat + low.toNat := by
  have hnext : (a + 1).toNat = a.toNat + 1 := by
    simp
    omega
  obtain ⟨high, hhigh⟩ := m.exists_read8 (a := a) (by omega)
  obtain ⟨low, hlow⟩ := m.exists_read8 (a := a + 1) (by omega)
  exact ⟨high, low, _, hhigh, hlow, read16_of_read8 h hhigh hlow, Word.toNat_ofBytes high low⟩

/-- **A byte is what was written last.** A write is done exactly if each of its bytes exists, and
otherwise it leaves memory alone. -/
theorem byte_history (cs : List Command) :
    (∃ bytes, Raw.storeAll? new.raw cs = some bytes ∧ bytes = (new.afterAll cs).raw ∧
      bytes.length = 4096) ∧
    (∀ a : UInt16, a.toNat < 0x1000 → ∃ b, (new.afterAll cs).read8 a = .ok b ∧
      ((∃ k, Latest (fun k => ∃ b, new.PutsAt cs a.toNat k b) cs.length k ∧
          new.PutsAt cs a.toNat k b) ∨
        (∀ k < cs.length, ¬∃ b, new.PutsAt cs a.toNat k b) ∧ new.read8 a = .ok b)) ∧
    (∀ (m : Memory) (c : Command),
      ((∃ m', c.apply m = .ok m') ↔ ∀ a b, c.Puts a b → a < 0x1000) ∧
      ∀ f, c.apply m = .error f → Raw.write? m.raw c = some (m.raw, some f) ∧
        ∀ a, (m.after c).read8 a = m.read8 a) ∧
    ∀ a : UInt16, a.toNat ≤ 0xFFE → ∃ high low w,
      (new.afterAll cs).read8 a = .ok high ∧ (new.afterAll cs).read8 (a + 1) = .ok low ∧
      (new.afterAll cs).read16 a = .ok w ∧ w.toNat = 256 * high.toNat + low.toNat := by
  refine ⟨⟨_, raw_afterAll new cs, rfl, length_raw _⟩, fun a ha => ?_, fun m c => ?_,
    fun a => (new.afterAll cs).read16_eq_of_bytes⟩
  · rcases read8_upTo ha new cs with ⟨k, hk, b, hb, hread⟩ | ⟨hnever, hread⟩
    · exact ⟨b, hread, .inl ⟨k, hk, hb⟩⟩
    · obtain ⟨b, hb⟩ := new.exists_read8 ha
      exact ⟨b, hread.trans hb, .inr ⟨hnever, hb⟩⟩
  · refine ⟨Command.exists_apply_iff m, fun f hf => ⟨raw_write_of_error hf, fun a => ?_⟩⟩
    rw [after_of_error hf]

/-- A word at the end of memory, of which a byte is replaced. What would go past the end is refused
and leaves the last byte alone. -/
theorem last_byte_keeps_replacement :
    ∃ cs : List Command,
      cs = [.write16 0xFFE 0xBEEF, .write8 0xFFF 0x42, .load 0xFFE [1, 2, 3],
        .write16 0xFFF 0x1234] ∧
      (0xFFF : UInt16).toNat < 0x1000 ∧ new.PutsAt cs 0xFFF 0 0xEF ∧ new.PutsAt cs 0xFFF 1 0x42 ∧
      (new.afterAll cs).read8 0xFFF = .ok 0x42 := by
  let cs : List Command :=
    [.write16 0xFFE 0xBEEF, .write8 0xFFF 0x42, .load 0xFFE [1, 2, 3], .write16 0xFFF 0x1234]
  have hword : new.PutsAt cs 0xFFF 0 0xEF :=
    ⟨_, rfl, (Command.exists_apply_iff_fits _).2 (by decide), 1, rfl, rfl⟩
  have hbyte : new.PutsAt cs 0xFFF 1 0x42 :=
    ⟨_, rfl, (Command.exists_apply_iff_fits _).2 (by decide), 0, rfl, rfl⟩
  have hlatest : Latest (fun k => ∃ b, new.PutsAt cs 0xFFF k b) cs.length 1 := by
    refine ⟨by decide, ⟨0x42, hbyte⟩, ?_⟩
    rintro j h1 h4 ⟨b, c, hc, hdone, -⟩
    obtain rfl | rfl : j = 2 ∨ j = 3 := by
      have hj : j < 4 := h4
      omega
    all_goals
      obtain rfl := Option.some.inj hc
      exact absurd ((Command.exists_apply_iff_fits _).1 hdone) (by decide)
  obtain ⟨b, hread, ⟨k, hk, hb⟩ | ⟨hnever, -⟩⟩ := (byte_history cs).2.1 0xFFF (by decide)
  · obtain rfl := hk.unique hlatest
    obtain rfl := hb.unique (a := 0xFFF) hbyte
    exact ⟨cs, rfl, by decide, hword, hbyte, hread⟩
  · exact absurd ⟨_, hbyte⟩ (hnever 1 (by decide))

end Memory

end Chip8
