/-! # Lists put together from blocks

A list is put together from blocks of one length, one for each member of another list.

* `length_flatMap_of_length`: how long it is.
* `getElem?_flatMap_of_length`: which block a place is in, and where in the block.
* `take_drop_flatMap_of_length`: a part of a block; `block_flatMap_of_length`: all of it. -/

namespace Chip8

variable {α β : Type} {l : List α} {f : α → List β} {w : Nat}

theorem length_flatMap_of_length (h : ∀ a ∈ l, (f a).length = w) :
    (l.flatMap f).length = w * l.length := by
  induction l with
  | nil => rfl
  | cons a l ih =>
    have hrest := ih fun b hb => h b (List.mem_cons_of_mem a hb)
    rw [List.flatMap_cons, List.length_append, h a List.mem_cons_self, hrest, List.length_cons,
      Nat.mul_succ, Nat.add_comm]

theorem getElem?_flatMap_of_length (h : ∀ a ∈ l, (f a).length = w) {i j : Nat} (hj : j < w) :
    (l.flatMap f)[w * i + j]? = l[i]?.bind fun a => (f a)[j]? := by
  induction l generalizing i with
  | nil => rfl
  | cons a l ih =>
    have ha : (f a).length = w := h a List.mem_cons_self
    have hrest := fun i => ih (fun b hb => h b (List.mem_cons_of_mem a hb)) (i := i)
    rw [List.flatMap_cons]
    cases i with
    | zero =>
      rw [Nat.mul_zero, Nat.zero_add, List.getElem?_append_left (by omega), List.getElem?_cons_zero,
        Option.bind_some]
    | succ i =>
      have hplace : w * (i + 1) + j = (f a).length + (w * i + j) := by
        rw [ha, Nat.mul_succ]
        omega
      rw [hplace, List.getElem?_append_right (Nat.le_add_right _ _), Nat.add_sub_cancel_left, hrest,
        List.getElem?_cons_succ]

theorem take_drop_flatMap_of_length (h : ∀ a ∈ l, (f a).length = w) {i j n : Nat} {a : α}
    (ha : l[i]? = some a) (hn : j + n ≤ w) :
    ((l.flatMap f).drop (w * i + j)).take n = ((f a).drop j).take n := by
  apply List.ext_getElem?
  intro k
  rcases Nat.lt_or_ge k n with hk | hk
  · have hplace : (l.flatMap f)[w * i + (j + k)]? = (f a)[j + k]? := by
      rw [getElem?_flatMap_of_length h (by omega), ha, Option.bind_some]
    rw [List.getElem?_take_of_lt hk, List.getElem?_take_of_lt hk, List.getElem?_drop,
      List.getElem?_drop, Nat.add_assoc, hplace]
  · rw [List.getElem?_take_eq_none hk, List.getElem?_take_eq_none hk]

theorem block_flatMap_of_length (h : ∀ a ∈ l, (f a).length = w) {i : Nat} {a : α}
    (ha : l[i]? = some a) : ((l.flatMap f).drop (w * i)).take w = f a := by
  have hlength : (f a).length = w := h a (List.mem_of_getElem? ha)
  have hblock := take_drop_flatMap_of_length h ha (j := 0) (n := w) (by omega)
  rwa [Nat.add_zero, List.drop_zero, List.take_of_length_le (Nat.le_of_eq hlength)] at hblock

end Chip8
