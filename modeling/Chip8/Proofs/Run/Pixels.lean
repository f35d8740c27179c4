import Chip8.Machine.Setup
import Chip8.Proofs.Machine.Course
import Chip8.Proofs.Run.Latest
import Chip8.Proofs.Run.Operations

/-! # The history of a pixel

A pixel is on if the last operation that painted it turned it on. The host paints the pixels that it
sets and all of them when it clears the display; a tick paints all of them if it fetches the word
that clears the display, and none otherwise.

* `Paints`: an operation paints a pixel; `get_after_of_paints`, `get_after_of_not_paints`.
* `PaintsAt`: an operation of a row paints the pixel; `get_upTo`: the pixel is as the latest of these
  operations painted it.
* `pixel_history`: the statement above. -/

namespace Chip8

/-- The pixel in column `x` of row `y` is on. -/
def Display.Lit (d : Display) (x y : Nat) : Prop := d.get x y = .ok true

namespace Machine

variable {m : Machine} {x y : Nat} {on on' : Bool} {op : Operation} {ops : List Operation}

/-- The operation turns the pixel on or off, whatever it was before. -/
inductive Paints (m : Machine) (x y : Nat) : Operation → Bool → Prop where
  | set {on : Bool} {d : Display} (h : m.display.set x y on = .ok d) :
    Paints m x y (.display (.set x y on)) on
  | clear : Paints m x y (.display .clear) false
  | cls (h : m.memory.read16 m.pc = .ok 0x00E0) : Paints m x y .tick false

theorem Paints.unique (h : m.Paints x y op on) (h' : m.Paints x y op on') : on = on' := by
  cases h <;> cases h' <;> rfl

/-! ## One operation -/

theorem fetches_cls_iff : m.Fetches .cls ↔ m.memory.read16 m.pc = .ok 0x00E0 := by
  have hcls : Instruction.decode m.word = .ok .cls ↔ m.word = 0x00E0 := by
    rw [Instruction.decode_eq_ok_iff]
    simp [Instruction.Fits, Instruction.encode, eq_comm]
  rw [Fetches, hcls, Memory.read16_eq]
  by_cases hpc : m.pc.toNat ≤ 0xFFE
  · rw [if_pos hpc, Except.ok.injEq]
    exact and_iff_right hpc
  · rw [if_neg hpc]
    constructor
    · intro h
      exact absurd h.1 hpc
    · intro h
      cases h

theorem display_tick_of_cls (h : m.Fetches .cls) :
    m.tick.machine.display = m.display.clear := by
  rw [machine_tick_of_le h.1, h.step_eq]
  rfl

theorem display_tick_of_not_cls (h : ¬m.Fetches .cls) : m.tick.machine.display = m.display := by
  have hc := course_tick m
  generalize m.tick.machine = m', m.tick.fault = f at hc
  cases hc with
  | cleared hi => exact absurd hi h
  | _ => rfl

theorem get_after_of_paints (hx : x < 64) (hy : y < 32) (h : m.Paints x y op on) :
    (m.after op).display.get x y = .ok on := by
  cases h with
  | set h =>
    have hd := Display.after_of_ok (c := .set x y on) h
    rw [after, hd, Display.get_of_set h, if_pos ⟨rfl, rfl⟩]
  | clear => exact m.display.get_clear ⟨hx, hy⟩
  | cls h =>
    rw [after, display_tick_of_cls (fetches_cls_iff.2 h)]
    exact m.display.get_clear ⟨hx, hy⟩

theorem get_after_of_not_paints (h : ∀ on, ¬m.Paints x y op on) :
    (m.after op).display.get x y = m.display.get x y := by
  cases op with
  | tick => rw [after, display_tick_of_not_cls fun hi => h _ (.cls (fetches_cls_iff.1 hi))]
  | timers c | memory c => rfl
  | display c =>
    cases c with
    | clear => exact absurd .clear (h false)
    | set x' y' on =>
      cases hset : m.display.set x' y' on with
      | error f =>
        have hd : m.display.after (.set x' y' on) = m.display := Display.after_of_error hset
        rw [after, hd]
      | ok d =>
        have hd : m.display.after (.set x' y' on) = d := Display.after_of_ok hset
        rw [after, hd, Display.get_of_set hset, if_neg]
        rintro ⟨rfl, rfl⟩
        exact h on (.set hset)

theorem after_set_out_of_range (m : Machine) (h : ¬(x < 64 ∧ y < 32)) (on : Bool) :
    m.after (.display (.set x y on)) = m := by
  have hset : m.display.set x y on = .error (.pixelOutOfRange x y) := dif_neg h
  have hd : m.display.after (.set x y on) = m.display := Display.after_of_error hset
  rw [after, hd]

theorem lit_of_lit_tick (hx : x < 64) (hy : y < 32) (h : m.tick.machine.display.Lit x y) :
    m.display.Lit x y := by
  by_cases hi : m.Fetches .cls
  · have hoff : (m.after .tick).display.get x y = .ok false :=
      get_after_of_paints hx hy (.cls (fetches_cls_iff.1 hi))
    cases hoff.symm.trans h
  · rwa [display_tick_of_not_cls hi] at h

/-! ## Rows of operations -/

/-- Operation `k` of the row paints the pixel. -/
def PaintsAt (m : Machine) (ops : List Operation) (x y k : Nat) (on : Bool) : Prop :=
  ∃ op, ops[k]? = some op ∧ (m.upTo ops k).Paints x y op on

theorem PaintsAt.unique {k : Nat} (h : m.PaintsAt ops x y k on) (h' : m.PaintsAt ops x y k on') :
    on = on' := by
  obtain ⟨op, hop, hp⟩ := h
  obtain ⟨op', hop', hp'⟩ := h'
  obtain rfl := Option.some.inj (hop.symm.trans hop')
  exact hp.unique hp'

theorem get_upTo (hx : x < 64) (hy : y < 32) (m : Machine) (ops : List Operation) :
    (∃ k, Latest (fun k => ∃ on, m.PaintsAt ops x y k on) ops.length k ∧
        ∃ on, m.PaintsAt ops x y k on ∧ (m.afterAll ops).display.get x y = .ok on) ∨
      (∀ k < ops.length, ¬∃ on, m.PaintsAt ops x y k on) ∧
        (m.afterAll ops).display.get x y = m.display.get x y := by
  have hall : m.upTo ops ops.length = m.afterAll ops := by rw [upTo, List.take_length]
  rw [← hall]
  refine latest_or_never (fun k => (m.upTo ops k).display.get x y)
    (fun k v => ∃ on, m.PaintsAt ops x y k on ∧ v = .ok on) ?_ ?_
  · rintro k hk ⟨on, op, hop, hp⟩
    refine ⟨on, ⟨op, hop, hp⟩, ?_⟩
    rw [upTo_succ hop]
    exact get_after_of_paints hx hy hp
  · intro k hk hnot
    have hop : ops[k]? = some ops[k] := List.getElem?_eq_getElem hk
    rw [upTo_succ hop]
    exact get_after_of_not_paints fun on hp => hnot ⟨on, _, hop, hp⟩

/-- **A pixel is as it was painted last**, and no tick ever turns one on. -/
theorem pixel_history (hx : x < 64) (hy : y < 32) (m : Machine) (ops : List Operation) :
    ((m.afterAll ops).display.Lit x y ↔
      (∃ k, Latest (fun k => ∃ on, m.PaintsAt ops x y k on) ops.length k ∧
          m.PaintsAt ops x y k true) ∨
        (∀ k < ops.length, ¬∃ on, m.PaintsAt ops x y k on) ∧ m.display.Lit x y) ∧
      (∀ op, (∀ on, ¬m.Paints x y op on) →
        (m.after op).display.get x y = m.display.get x y) ∧
      (∀ x' y' on, ¬(x' < 64 ∧ y' < 32) → m.after (.display (.set x' y' on)) = m) ∧
      (m.memory.read16 m.pc ≠ .ok 0x00E0 → m.tick.machine.display = m.display) ∧
      (m.tick.machine.display.Lit x y → m.display.Lit x y) := by
  refine ⟨?_, fun op => get_after_of_not_paints, fun x' y' on h => after_set_out_of_range m h on,
    fun h => display_tick_of_not_cls (mt fetches_cls_iff.1 h), lit_of_lit_tick hx hy⟩
  unfold Display.Lit
  rcases get_upTo hx hy m ops with ⟨k, hk, on, hon, hget⟩ | ⟨hnever, hget⟩
  · rw [hget, Except.ok.injEq]
    constructor
    · rintro rfl
      exact .inl ⟨k, hk, hon⟩
    · rintro (⟨k', hk', hon'⟩ | ⟨hnever, -⟩)
      · obtain rfl := hk.unique hk'
        exact hon.unique hon'
      · exact absurd hk.holds (hnever k hk.lt)
  · rw [hget]
    constructor
    · exact fun hlit => .inr ⟨hnever, hlit⟩
    · rintro (⟨k, hk, -⟩ | ⟨-, hlit⟩)
      · exact absurd hk.holds (hnever k hk.lt)
      · exact hlit

/-- A tick clears the display and the host turns a pixel on. A pixel out of range that would share
its place leaves it alone, and so does a tick that fails. -/
theorem lit_beside_out_of_range :
    ∃ (m : Machine) (ops : List Operation),
      Setup.build { rom := [0x00, 0xE0, 0xFF, 0xFF] } = .ok m ∧
      ops = [.display (.set 5 3 true), .tick, .display (.set 5 3 true),
        .display (.set 69 2 false), .tick] ∧
      Display.slot 69 2 = Display.slot 5 3 ∧ m.PaintsAt ops 5 3 1 false ∧
      (m.afterAll ops).display.Lit 5 3 := by
  have hrun : ∃ (m : Machine) (ops : List Operation),
      Setup.build { rom := [0x00, 0xE0, 0xFF, 0xFF] } = .ok m ∧
      ops = [.display (.set 5 3 true), .tick, .display (.set 5 3 true),
        .display (.set 69 2 false), .tick] ∧
      (m.upTo ops 1).memory.read16 (m.upTo ops 1).pc = .ok 0x00E0 ∧
      (m.upTo ops 4).memory.read16 (m.upTo ops 4).pc = .ok 0xFFFF :=
    ⟨_, _, rfl, rfl, by decide +kernel⟩
  obtain ⟨m, ops, hb, hops, hcls, hunknown⟩ := hrun
  have hcleared : m.PaintsAt ops 5 3 1 false := ⟨.tick, by rw [hops]; rfl, .cls hcls⟩
  have hset : m.PaintsAt ops 5 3 2 true := by
    refine ⟨.display (.set 5 3 true), by rw [hops]; rfl, .set (dif_pos (by decide))⟩
  have hlatest : Latest (fun k => ∃ on, m.PaintsAt ops 5 3 k on) ops.length 2 := by
    refine ⟨by rw [hops]; decide, ⟨true, hset⟩, ?_⟩
    rintro j h2 h5 ⟨on, op, hop, hp⟩
    obtain rfl | rfl : j = 3 ∨ j = 4 := by
      rw [hops] at h5
      have hj : j < 5 := h5
      omega
    · rw [hops] at hop
      cases hop
      cases hp
    · rw [hops] at hop
      cases hop
      cases hp with
      | cls h =>
        rw [hunknown] at h
        cases h
  refine ⟨m, ops, hb, hops, rfl, hcleared, ?_⟩
  exact (pixel_history (by decide) (by decide) m ops).1.2 (.inl ⟨2, hlatest, hset⟩)

end Machine

end Chip8
