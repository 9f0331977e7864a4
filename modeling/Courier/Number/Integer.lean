/-
  Whole numbers in text: how they are written, and how they are read.

  A number is written in base ten or sixteen without leading zeros, or filled with them to a width.

  Reading is more liberal than writing.  Before a number is read, blanks outside ASCII become spaces and
  decimal digits of other scripts become ASCII digits, and the ASCII blanks at both ends are dropped: this is
  the text in which every reader of numbers looks (`numeralText`), that of whole numbers here and that of
  decimal fractions in another module.  A whole number is then an optional sign and decimal digits; single low
  lines may stand between digits.  A text of more than 4300 digits is refused, however small its value.

  A script's ten digits are consecutive, so a table of the zeros says all of them (`zeroDigits`).
-/
import Courier.Text.Basic

namespace Courier

/-! ## Writing -/

/-- A number in decimal, without leading zeros. -/
def decimal (n : Nat) : Text := Nat.toDigits 10 n

/-- An integer in decimal, with a minus sign when it is negative. -/
def decimalInt : Int → Text
  | .ofNat n => decimal n
  | .negSucc n => '-' :: decimal (n + 1)

/-- A number in base sixteen, lower case, without leading zeros. -/
def hex (n : Nat) : Text := Nat.toDigits 16 n

/-- A number in base sixteen, lower case, filled with zeros to a width. -/
def hexWide (width n : Nat) : Text := (hex n).leftpad width '0'

/-- A number in base sixteen, upper case, filled with zeros to a width. -/
def hexWideUpper (width n : Nat) : Text := (hexWide width n).map Char.toUpper

/-- The value of a digit of base sixteen in either case. -/
def hexDigit? (c : Char) : Option Nat :=
  if c.isDigit then some (c.toNat - 48)
  else if 'a' ≤ c ∧ c ≤ 'f' then some (c.toNat - 87)
  else if 'A' ≤ c ∧ c ≤ 'F' then some (c.toNat - 55)
  else none

/-- Whether a character is a digit of base sixteen. -/
def isHexDigit (c : Char) : Bool := (hexDigit? c).isSome

/-- The value of decimal digits read from the left; anything but ASCII digits counts as its distance
    from zero, so callers check the digits first. -/
def decimalValue (digits : Text) : Nat := digits.foldl (fun n c => n * 10 + (c.toNat - 48)) 0

/-- The value of digits of base sixteen read from the left, other characters as zeros. -/
def hexValue (digits : Text) : Nat := digits.foldl (fun n c => n * 16 + (hexDigit? c).getD 0) 0

theorem decimal_value (n : Nat) : Nat.ofDigitChars 10 (decimal n) 0 = n :=
  Nat.ofDigitChars_toDigits (by decide) (by decide)

/-! ## Digits of all scripts -/

/-- The digit zero of each script. -/
def zeroDigits : List Nat :=
  [0x30, 0x660, 0x6f0, 0x7c0, 0x966, 0x9e6, 0xa66, 0xae6, 0xb66, 0xbe6, 0xc66, 0xce6, 0xd66,
   0xde6, 0xe50, 0xed0, 0xf20, 0x1040, 0x1090, 0x17e0, 0x1810, 0x1946, 0x19d0, 0x1a80, 0x1a90,
   0x1b50, 0x1bb0, 0x1c40, 0x1c50, 0xa620, 0xa8d0, 0xa900, 0xa9d0, 0xa9f0, 0xaa50, 0xabf0, 0xff10,
   0x104a0, 0x10d30, 0x11066, 0x110f0, 0x11136, 0x111d0, 0x112f0, 0x11450, 0x114d0, 0x11650,
   0x116c0, 0x11730, 0x118e0, 0x11950, 0x11c50, 0x11d50, 0x11da0, 0x16a60, 0x16ac0, 0x16b50,
   0x1d7ce, 0x1d7d8, 0x1d7e2, 0x1d7ec, 0x1d7f6, 0x1e140, 0x1e2f0, 0x1e950, 0x1fbf0]

/-- The value of a decimal digit of any script. -/
def digitValue? (c : Char) : Option Nat :=
  if c.toNat < 128 then (if c.isDigit then some (c.toNat - 48) else none)
  else (zeroDigits.find? fun z => z ≤ c.toNat && c.toNat < z + 10).map (c.toNat - ·)

/-- One character of a number text in ASCII spelling; what can be no part of a number is kept. -/
def numeralChar (c : Char) : Char :=
  if c.toNat < 127 then c
  else if isBlank c then ' '
  else match digitValue? c with
    | some d => Char.ofNat (48 + d)
    | none => c

/-- The six ASCII blanks. -/
def isAsciiBlank (c : Char) : Bool := (9 ≤ c.toNat && c.toNat ≤ 13) || c == ' '

/-- A number text in ASCII spelling, without the blanks around it. -/
def numeralText (s : Text) : Text := trim isAsciiBlank (s.map numeralChar)

/-- A sign and the text after it; without a sign the number is positive. -/
def takeSign : Text → Bool × Text
  | '-' :: s => (true, s)
  | '+' :: s => (false, s)
  | s => (false, s)

/-! ## Reading -/

/-- The most digits that a whole number in text may have. -/
def maxDigits : Nat := 4300

/-- The digits of a group sequence such as `1_000`: each group between low lines is not empty and
    holds digits only. -/
def groupedDigits? (s : Text) : Option Text :=
  let groups := s.splitOn '_'
  if groups.all fun g => !g.isEmpty && g.all Char.isDigit then some groups.flatten else none

/-- Reads a whole number. -/
def readInteger? (s : Text) : Option Int :=
  let (negative, body) := takeSign (numeralText s)
  match groupedDigits? body with
  | some digits =>
    if digits.length ≤ maxDigits then
      let n : Int := (decimalValue digits : Nat)
      some (if negative then -n else n)
    else none
  | none => none

end Courier
