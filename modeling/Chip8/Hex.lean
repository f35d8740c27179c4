/-! # Hexadecimal numerals

* `digits width n`: the lower-case digits of `n`, filled up with zeros on the left to at least
  `width` of them. `length_digits_of_lt`: a number below `16 ^ width` takes exactly `width`, and so
  does its text (`length_lower_of_lt`).
  `value?_digits`: the digits determine the number, so `digits_inj`.
* `lower`, `upper`: the same as texts, the second in capitals and without a width. `lower_inj`,
  `upper_inj`, and `lower_append_inj` for a text that goes on behind the number.
* `digit?`, `value?`, `bytes?`: reading, in either case. `ofBytes` writes a byte string, two digits
  a byte. -/

namespace Chip8.Hex

/-- The lower-case digits of `n`, at least `width` of them. -/
def digits (width n : Nat) : List Char :=
  (Nat.toDigits 16 n).leftpad width '0'

def lower (width n : Nat) : String :=
  String.ofList (digits width n)

/-- The capital digits of `n`, no more than needed. -/
def upper (n : Nat) : String :=
  String.ofList ((Nat.toDigits 16 n).map Char.toUpper)

/-- The value of a digit, in either case. -/
def digit? (c : Char) : Option Nat :=
  if '0' ≤ c ∧ c ≤ '9' then some (c.toNat - '0'.toNat)
  else if 'a' ≤ c ∧ c ≤ 'f' then some (c.toNat - 'a'.toNat + 10)
  else if 'A' ≤ c ∧ c ≤ 'F' then some (c.toNat - 'A'.toNat + 10)
  else none

/-- The number that a row of digits writes, most significant digit first; no digits write `0`. -/
def value? (cs : List Char) : Option Nat :=
  cs.foldlM (fun n c => (digit? c).map (16 * n + ·)) 0

/-- The byte that a pair of digits writes. -/
def byte? (high low : Char) : Option UInt8 := do
  return UInt8.ofNat (16 * (← digit? high) + (← digit? low))

/-- The bytes that a row of digit pairs writes. -/
def bytes? : List Char → Option (List UInt8)
  | [] => some []
  | [_] => none
  | high :: low :: rest => do return (← byte? high low) :: (← bytes? rest)

/-- The two digits of each byte in turn. -/
def ofBytes (data : List UInt8) : String :=
  String.ofList (data.flatMap fun b => digits 2 b.toNat)

/-! ## Length -/

theorem length_digits (width n : Nat) :
    (digits width n).length = max width (Nat.toDigits 16 n).length :=
  List.length_leftpad

theorem length_digits_of_lt {width n : Nat} (hw : 0 < width) (h : n < Nat.pow 16 width) :
    (digits width n).length = width := by
  rw [length_digits, Nat.max_eq_left]
  exact (Nat.length_toDigits_le_iff (by decide) hw).2 h

theorem length_lower_of_lt {width n : Nat} (hw : 0 < width) (h : n < Nat.pow 16 width) :
    (lower width n).length = width := by
  rw [lower, String.length_ofList, length_digits_of_lt hw h]

/-! ## Reading back -/

theorem digit?_digitChar {d : Nat} (h : d < 16) : digit? d.digitChar = some d := by
  have key : ∀ d : Fin 16, digit? d.val.digitChar = some d.val := by decide
  exact key ⟨d, h⟩

theorem value?_concat (cs : List Char) (c : Char) :
    value? (cs ++ [c]) = (value? cs).bind fun n => (digit? c).map (16 * n + ·) := by
  simp only [value?, List.foldlM_append, List.foldlM_cons, List.foldlM_nil]
  congr 1
  funext n
  cases digit? c <;> rfl

/-- The digits may be of either case: `f` turns each into another for the same number. -/
theorem value?_map_toDigits {f : Char → Char} (hf : ∀ d < 16, digit? (f d.digitChar) = some d)
    (n : Nat) : value? ((Nat.toDigits 16 n).map f) = some n := by
  induction n using Nat.strongRecOn with
  | ind n ih =>
    by_cases h : n < 16
    · simp [Nat.toDigits_of_lt_base h, value?, hf n h]
    · rw [Nat.toDigits_of_base_le (by decide) (by omega), List.map_append, List.map_singleton,
        value?_concat, ih (n / 16) (by omega), hf (n % 16) (Nat.mod_lt n (by decide))]
      simp
      omega

theorem value?_toDigits (n : Nat) : value? (Nat.toDigits 16 n) = some n := by
  simpa using value?_map_toDigits (f := id) (fun d => digit?_digitChar) n

theorem value?_upper (n : Nat) : value? (upper n).toList = some n := by
  have hcapital : ∀ d < 16, digit? d.digitChar.toUpper = some d := by decide
  rw [upper, String.toList_ofList]
  exact value?_map_toDigits hcapital n

theorem value?_zero_cons (cs : List Char) : value? ('0' :: cs) = value? cs := rfl

theorem value?_digits (width n : Nat) : value? (digits width n) = some n := by
  unfold digits List.leftpad
  induction width - (Nat.toDigits 16 n).length with
  | zero => simpa using value?_toDigits n
  | succ k ih => rw [List.replicate_succ, List.cons_append, value?_zero_cons, ih]

theorem digits_inj {width m n : Nat} (h : digits width m = digits width n) : m = n := by
  simpa [value?_digits] using congrArg value? h

theorem upper_inj {m n : Nat} (h : upper m = upper n) : m = n := by
  have hvalue := congrArg (fun s => value? s.toList) h
  simpa [value?_upper] using hvalue

theorem lower_inj {width m n : Nat} (h : lower width m = lower width n) : m = n :=
  digits_inj (String.ofList_inj.1 h)

/-- Two numbers that fit the width take up the same part of a text. -/
theorem lower_append_inj {width m n : Nat} {s t : String} (hw : 0 < width)
    (hm : m < Nat.pow 16 width) (hn : n < Nat.pow 16 width)
    (h : lower width m ++ s = lower width n ++ t) : m = n ∧ s = t := by
  have hlist : digits width m ++ s.toList = digits width n ++ t.toList := by
    simpa [lower, String.toList_append, String.toList_ofList] using congrArg String.toList h
  have hlen : (digits width m).length = (digits width n).length := by
    rw [length_digits_of_lt hw hm, length_digits_of_lt hw hn]
  obtain ⟨hdigits, hrest⟩ := List.append_inj hlist hlen
  exact ⟨digits_inj hdigits, String.toList_inj.1 hrest⟩

end Chip8.Hex
