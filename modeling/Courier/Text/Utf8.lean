/-
  The eight-bit transformation format: characters as one to four octets.

  Writing is arithmetic on the code point.  Reading never fails: octets that belong to no character
  become the replacement character, one for each longest run that could have begun a character.  The
  reader is a machine with one step per octet (`Utf8.step`), so that it can be fed a text in which
  octets and characters are mixed, as percent decoding needs.
-/
import Courier.Text.Basic

namespace Courier

/-- The character that stands for what could not be read. -/
def replacement : Char := Char.ofNat 0xfffd

/-- The octets of one character. -/
def utf8Char (c : Char) : Bytes :=
  let n := c.toNat
  if n < 0x80 then [UInt8.ofNat n]
  else if n < 0x800 then [UInt8.ofNat (0xc0 + n / 64), UInt8.ofNat (0x80 + n % 64)]
  else if n < 0x10000 then
    [UInt8.ofNat (0xe0 + n / 4096), UInt8.ofNat (0x80 + n / 64 % 64), UInt8.ofNat (0x80 + n % 64)]
  else
    [UInt8.ofNat (0xf0 + n / 262144), UInt8.ofNat (0x80 + n / 4096 % 64),
      UInt8.ofNat (0x80 + n / 64 % 64), UInt8.ofNat (0x80 + n % 64)]

/-- The octets of a text. -/
def utf8 (s : Text) : Bytes := s.flatMap utf8Char

namespace Utf8

/-- A character that has begun: how many octets are missing, the value so far, and the range in which
    the next octet must lie. -/
structure Pending where
  missing : Nat
  value : Nat
  low : Nat
  high : Nat

/-- The reader: the characters read so far, nearest first, and the character that has begun. -/
structure State where
  read : Text := []
  pending : Option Pending := none

/-- What a first octet begins: a whole character, an unfinished one, or nothing. -/
def begin (b : Nat) : Option (Sum Char Pending) :=
  if b < 0x80 then some (.inl (Char.ofNat b))
  else if 0xc2 ≤ b ∧ b ≤ 0xdf then some (.inr ⟨1, b - 0xc0, 0x80, 0xbf⟩)
  else if b = 0xe0 then some (.inr ⟨2, 0, 0xa0, 0xbf⟩)
  else if b = 0xed then some (.inr ⟨2, 0xd, 0x80, 0x9f⟩)
  else if 0xe1 ≤ b ∧ b ≤ 0xef then some (.inr ⟨2, b - 0xe0, 0x80, 0xbf⟩)
  else if b = 0xf0 then some (.inr ⟨3, 0, 0x90, 0xbf⟩)
  else if 0xf1 ≤ b ∧ b ≤ 0xf3 then some (.inr ⟨3, b - 0xf0, 0x80, 0xbf⟩)
  else if b = 0xf4 then some (.inr ⟨3, 4, 0x80, 0x8f⟩)
  else none

/-- Reads the first octet of a character. -/
def first (read : Text) (b : Nat) : State :=
  match begin b with
  | some (.inl c) => { read := c :: read }
  | some (.inr p) => { read, pending := some p }
  | none => { read := replacement :: read }

/-- Reads one octet. -/
def step (st : State) (b : UInt8) : State :=
  let n := b.toNat
  match st.pending with
  | none => first st.read n
  | some p =>
    if p.low ≤ n ∧ n ≤ p.high then
      let value := p.value * 64 + (n - 0x80)
      if p.missing ≤ 1 then { read := Char.ofNat value :: st.read }
      else { read := st.read, pending := some ⟨p.missing - 1, value, 0x80, 0xbf⟩ }
    else first (replacement :: st.read) n

/-- Closes a character that has begun and will not go on. -/
def State.flush (st : State) : State :=
  match st.pending with
  | none => st
  | some _ => { read := replacement :: st.read }

/-- The text that was read. -/
def State.text (st : State) : Text := st.flush.read.reverse

end Utf8

/-- Reads octets as a text, with replacement characters for what is malformed. -/
def ofUtf8 (b : Bytes) : Text := (b.foldl Utf8.step {}).text

end Courier
