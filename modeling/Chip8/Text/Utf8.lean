/-! # Bytes read as UTF-8

`decode` reads any bytes. Where they are not well-formed, each longest start of a character, or a byte
that starts none, becomes one replacement character.

* `Pending`: a character of which some bytes are still to come; `lead?`: the bytes that start one.
* `step`: what the next byte gives; `decode`: the characters of a row of bytes. -/

namespace Chip8.Text.Utf8

def replacement : Char := '\ufffd'

structure Pending where
  /-- The bits that the bytes so far have given. -/
  value : Nat
  /-- The least and the greatest byte that can come next. -/
  least : UInt8 := 0x80
  greatest : UInt8 := 0xbf
  /-- How many bytes follow after the next. -/
  more : Nat

/-- After some first bytes not every second byte is possible: it would give a number that fits into
fewer bytes, is kept free for pairs of 16-bit words, or is too large. -/
def lead? (b : UInt8) : Option Pending :=
  if b < 0xc2 then none
  else if b < 0xe0 then some { value := b.toNat - 0xc0, more := 0 }
  else if b = 0xe0 then some { value := 0, least := 0xa0, more := 1 }
  else if b = 0xed then some { value := 0xd, greatest := 0x9f, more := 1 }
  else if b < 0xf0 then some { value := b.toNat - 0xe0, more := 1 }
  else if b = 0xf0 then some { value := 0, least := 0x90, more := 2 }
  else if b < 0xf4 then some { value := b.toNat - 0xf0, more := 2 }
  else if b = 0xf4 then some { value := 4, greatest := 0x8f, more := 2 }
  else none

/-- What a byte gives that continues no character. -/
def first (b : UInt8) : List Char × Option Pending :=
  if b < 0x80 then ([Char.ofNat b.toNat], none)
  else match lead? b with
  | some p => ([], some p)
  | none => ([replacement], none)

def step (pending : Option Pending) (b : UInt8) : List Char × Option Pending :=
  match pending with
  | none => first b
  | some p =>
    if p.least ≤ b ∧ b ≤ p.greatest then
      let value := 64 * p.value + (b.toNat - 0x80)
      if p.more = 0 then ([Char.ofNat value], none)
      else ([], some { value := value, more := p.more - 1 })
    else (replacement :: (first b).1, (first b).2)

def decodeFrom (pending : Option Pending) : List UInt8 → List Char
  | [] => if pending.isSome then [replacement] else []
  | b :: rest => (step pending b).1 ++ decodeFrom (step pending b).2 rest

def decode (bytes : List UInt8) : List Char := decodeFrom none bytes

end Chip8.Text.Utf8
