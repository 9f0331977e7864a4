/-
  Quoted text: how a text or a run of octets is shown inside a message.

  The text stands between single quotes, or between double quotes when it holds a single one and no
  double one.  The quote itself and the backslash get a backslash; tab, line feed and carriage return
  have letters; what else is unprintable is written by its number in base sixteen.  Quoting works on
  code points, since a label of a host name can hold ones that are no characters.
-/
import Courier.Text.Printable
import Courier.Number.Integer

namespace Courier

/-- The code point of the single quote. -/
def singleQuote : Nat := 39

/-- The code point of the double quote. -/
def doubleQuote : Nat := 34

/-- The quote around a text: single, unless only single ones occur inside. -/
def quoteFor (s : List Nat) : Nat :=
  if s.contains singleQuote && !s.contains doubleQuote then doubleQuote else singleQuote

/-- Tab, line feed, carriage return and backslash by their letters. -/
def letterEscape? : Nat → Option Char
  | 9 => some 't'
  | 10 => some 'n'
  | 13 => some 'r'
  | 92 => some '\\'
  | _ => none

/-- An escape by number, with as many digits as the number needs: two, four or eight. -/
def numberEscape (c : Nat) : Text :=
  if c < 0x100 then '\\' :: 'x' :: hexWide 2 c
  else if c < 0x10000 then '\\' :: 'u' :: hexWide 4 c
  else '\\' :: 'U' :: hexWide 8 c

/-- One code point inside quotes; `shown` tells which code points need no escape. -/
def quotedPoint (isQuote shown : Nat → Bool) (c : Nat) : Text :=
  match letterEscape? c with
  | some letter => ['\\', letter]
  | none =>
    if isQuote c then ['\\', Char.ofNat c]
    else if shown c then [Char.ofNat c]
    else numberEscape c

/-- Code points between quotes. -/
def quotedPoints (s : List Nat) : Text :=
  let q := quoteFor s
  Char.ofNat q :: s.flatMap (quotedPoint (· == q) isPrintable) ++ [Char.ofNat q]

/-- A text between quotes. -/
def quoted (s : Text) : Text := quotedPoints (s.map Char.toNat)

/-- Printable ASCII: what quoted octets show as they are. -/
def isPrintableAscii (c : Nat) : Bool := 32 ≤ c && c < 127

/-- Octets between quotes, marked with a `b`. -/
def quotedBytes (b : Bytes) : Text :=
  let s := b.map UInt8.toNat
  let q := quoteFor s
  'b' :: Char.ofNat q :: s.flatMap (quotedPoint (· == q) isPrintableAscii) ++ [Char.ofNat q]

/-- Received octets between quotes, named as a buffer; a single quote inside is always escaped. -/
def quotedBuffer (b : Bytes) : Text :=
  let s := b.map UInt8.toNat
  let q := quoteFor s
  "bytearray(b".toList ++ Char.ofNat q ::
    s.flatMap (quotedPoint (· == singleQuote) isPrintableAscii) ++ [Char.ofNat q, ')']

end Courier
