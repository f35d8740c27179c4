/-! # The call stack

Sixteen slots for return addresses, of which the first `depth` are taken. A slot keeps its address
after it was given up, until a later call takes it again.

* `push?`: takes the next slot, unless all are taken (`push?_eq_none_iff`); `of_push?` says which
  address is in which slot after.
* `pop?`: gives up the slot taken last, unless none is (`pop?_eq_none_iff`); `of_pop?`.
* `occupied`: the addresses in the taken slots, oldest first. It has `depth` members
  (`length_occupied`); taking a slot adds one at its end (`occupied_of_push?`) and giving one up
  takes it away (`occupied_of_pop?`). Neither depends on anything else (`map_occupied_push?`,
  `map_occupied_pop?`). -/

namespace Chip8

structure CallStack where
  slots : Vector UInt16 16
  depth : Nat
  depth_le : depth ≤ 16 := by omega
  deriving DecidableEq

namespace CallStack

def size : Nat := 16

def empty : CallStack := { slots := Vector.replicate 16 0, depth := 0 }

instance : Inhabited CallStack := ⟨empty⟩

def push? (s : CallStack) (a : UInt16) : Option CallStack :=
  if h : s.depth < 16 then some { slots := s.slots.set s.depth a, depth := s.depth + 1 } else none

def pop? (s : CallStack) : Option (UInt16 × CallStack) :=
  if h : s.depth = 0 then none
  else
    have := s.depth_le
    some (s.slots[s.depth - 1], { slots := s.slots, depth := s.depth - 1 })

def occupied (s : CallStack) : List UInt16 :=
  s.slots.toList.take s.depth

theorem push?_eq_none_iff {s : CallStack} {a : UInt16} : s.push? a = none ↔ s.depth = 16 := by
  have := s.depth_le
  simp only [push?, dite_eq_right_iff, reduceCtorEq, imp_false]
  omega

theorem pop?_eq_none_iff {s : CallStack} : s.pop? = none ↔ s.depth = 0 := by
  simp [pop?]

theorem of_push? {s t : CallStack} {a : UInt16} (h : s.push? a = some t) :
    s.depth < 16 ∧ t.depth = s.depth + 1 ∧
      ∀ k (_ : k < 16), t.slots[k] = if s.depth = k then a else s.slots[k] := by
  unfold push? at h
  split at h
  next hd =>
    obtain rfl := Option.some.inj h
    exact ⟨hd, rfl, fun k hk => Vector.getElem_set hd hk⟩
  · cases h

theorem of_pop? {s t : CallStack} {a : UInt16} (h : s.pop? = some (a, t)) :
    t.slots = s.slots ∧ s.depth = t.depth + 1 ∧ ∃ _ : t.depth < 16, a = s.slots[t.depth] := by
  unfold pop? at h
  split at h
  · cases h
  next hd =>
    have := s.depth_le
    obtain ⟨rfl, rfl⟩ := Prod.mk.inj (Option.some.inj h)
    exact ⟨rfl, by dsimp only; omega, by dsimp only; omega, rfl⟩

theorem length_occupied (s : CallStack) : s.occupied.length = s.depth := by
  have := s.depth_le
  simp [occupied]
  omega

theorem occupied_of_push? {s t : CallStack} {a : UInt16} (h : s.push? a = some t) :
    t.occupied = s.occupied ++ [a] := by
  unfold push? at h
  split at h
  · obtain rfl := Option.some.inj h
    simp only [occupied]
    rw [List.take_add_one]
    simp [Vector.toList_set, List.take_set_of_le, *]
  · cases h

theorem occupied_of_pop? {s t : CallStack} {a : UInt16} (h : s.pop? = some (a, t)) :
    s.occupied = t.occupied ++ [a] := by
  unfold pop? at h
  split at h
  · cases h
  · have := s.depth_le
    obtain ⟨rfl, rfl⟩ := Prod.mk.inj (Option.some.inj h)
    simp only [occupied]
    conv => lhs; rw [show s.depth = s.depth - 1 + 1 by omega, List.take_add_one]
    simp [show s.depth - 1 < 16 by omega]

theorem map_occupied_push? (s : CallStack) (a : UInt16) :
    (s.push? a).map occupied =
      if s.occupied.length < 16 then some (s.occupied ++ [a]) else none := by
  rw [length_occupied]
  cases h : s.push? a with
  | none =>
    rw [push?_eq_none_iff.1 h]
    rfl
  | some t => rw [if_pos (of_push? h).1, Option.map_some, occupied_of_push? h]

theorem map_occupied_pop? (s : CallStack) :
    s.pop?.map (Prod.map id occupied) =
      s.occupied.getLast?.map fun a => (a, s.occupied.dropLast) := by
  cases h : s.pop? with
  | none =>
    have hlen := (length_occupied s).trans (pop?_eq_none_iff.1 h)
    rw [List.eq_nil_of_length_eq_zero hlen]
    rfl
  | some r =>
    obtain ⟨a, t⟩ := r
    simp [occupied_of_pop? h]

end CallStack

end Chip8
