/-! # Control sequences

A text for a terminal is made of characters that it shows and of sequences, opened by the escape
character, that move its cursor or set its colors. `strip` leaves what is shown.

* `Shown c`: outside of a sequence, `c` is shown.
* `Part.next?`: how far a sequence reaches; `State.next`: the same for a text that it may interrupt. -/

namespace Chip8.Text.ControlSequence

/-- Tab, line feed, form feed and carriage return: controls that only move the text. -/
def IsSpacing (c : Char) : Prop := c = '\t' ∨ c = '\n' ∨ c = '\x0c' ∨ c = '\r'

instance (c : Char) : Decidable (IsSpacing c) := by
  unfold IsSpacing; infer_instance

/-- A control above the ASCII range is shown as it is. -/
def Shown (c : Char) : Prop := (' ' ≤ c ∧ c ≠ '\x7f') ∨ IsSpacing c

instance (c : Char) : Decidable (Shown c) := by
  unfold Shown; infer_instance

/-- A place inside a sequence. -/
inductive Part where
  /-- The escape character was the last one. -/
  | start
  /-- Before the last character of a sequence that is neither of the others. -/
  | intermediate
  /-- After `[`: the numbers, up to a letter. -/
  | parameters
  /-- After `]`: a text that the bell ends. -/
  | command
  /-- After `P`: a header, and a text after its letter. A malformed header is a text already. -/
  | device
  /-- In the header, among the numbers. -/
  | deviceNumbers
  /-- In the header, after the numbers. -/
  | deviceIntermediate
  /-- A text that lasts until a string terminator. -/
  | string
  deriving DecidableEq

/-- The byte that terminates a string, alone or within the encoding of a character. -/
def stringTerminator : UInt8 := 0x9c

/-- The place after `c`, or nothing if `c` was the last character of the sequence. -/
def Part.next? (part : Part) (c : Char) : Option Part :=
  match part with
  | start =>
    if c = '[' then some parameters
    else if c = ']' then some command
    else if c = 'P' then some device
    else if c = 'X' ∨ c = '^' ∨ c = '_' then some string
    else if ' ' ≤ c ∧ c ≤ '/' then some intermediate
    else if '0' ≤ c ∧ c ≤ '~' then none
    else some start
  | intermediate => if '0' ≤ c ∧ c ≤ '~' then none else some intermediate
  | parameters => if '@' ≤ c ∧ c ≤ '~' then none else some parameters
  | command => if c = '\x07' then none else some command
  | device =>
    if ' ' ≤ c ∧ c ≤ '/' then some deviceIntermediate
    else if '0' ≤ c ∧ c ≤ '?' then some deviceNumbers
    else if '@' ≤ c ∧ c ≤ '~' then some string
    else some device
  | deviceNumbers =>
    if ' ' ≤ c ∧ c ≤ '/' then some deviceIntermediate
    else if '<' ≤ c ∧ c ≤ '~' then some string
    else some deviceNumbers
  | deviceIntermediate => if '0' ≤ c ∧ c ≤ '~' then some string else some deviceIntermediate
  | string => if stringTerminator ∈ String.utf8EncodeChar c then none else some string

/-- A spacing character in the sequence is shown, and the text goes on after it. -/
def Part.AdmitsText (part : Part) : Prop := part = .start ∨ part = .intermediate ∨ part = .parameters

instance (part : Part) : Decidable part.AdmitsText := by
  unfold Part.AdmitsText; infer_instance

inductive State where
  /-- In the text. The next control takes up the sequence that the text has interrupted, if any. -/
  | text (interrupted : Option Part)
  | sequence (part : Part)
  deriving DecidableEq

namespace State

/-- Escape opens a sequence anywhere; the characters 24 and 26 end one anywhere. -/
def next (state : State) (c : Char) : State :=
  if c = '\x1b' then sequence .start
  else if c = '\x18' ∨ c = '\x1a' then text none
  else match state with
  | text interrupted =>
    if 0x80 ≤ c.toNat then text none
    else if Shown c then text interrupted
    else (interrupted.map sequence).getD (text none)
  | sequence part =>
    if IsSpacing c ∧ part.AdmitsText then text (some part)
    else ((part.next? c).map sequence).getD (text none)

def Shows (state : State) (c : Char) : Prop :=
  match state with
  | text _ => Shown c
  | sequence part => IsSpacing c ∧ part.AdmitsText

instance (state : State) (c : Char) : Decidable (state.Shows c) := by
  unfold Shows; split <;> infer_instance

/-- What is shown of a text that is read in this state. -/
def strip (state : State) : List Char → List Char
  | [] => []
  | c :: rest =>
    if state.Shows c then c :: (state.next c).strip rest else (state.next c).strip rest

end State

def strip (text : List Char) : List Char := (State.text none).strip text

end Chip8.Text.ControlSequence
