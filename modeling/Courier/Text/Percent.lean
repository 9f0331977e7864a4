/-
  Percent coding: octets written as a percent sign and two digits of base sixteen.

  Writing keeps the characters of a safe set and writes the octets of every other one.  Reading turns
  each well-formed escape into its octet, and reads the octets between two non-ASCII characters
  together, malformed ones as replacement characters; a percent sign without two digits stays.
-/
import Courier.Text.Utf8
import Courier.Number.Integer

namespace Courier

/-- An octet as an escape, with upper case digits. -/
def percentByte (b : UInt8) : Text := '%' :: hexWideUpper 2 b.toNat

/-- A text with every character outside a safe set escaped. -/
def percentEncode (safe : Char → Bool) (s : Text) : Text :=
  s.flatMap fun c => if safe c then [c] else (utf8Char c).flatMap percentByte

/-- Letters, digits and the four marks that no percent coding escapes. -/
def isUnreserved (c : Char) : Bool := c.isAlphanum || c == '_' || c == '.' || c == '-' || c == '~'

/-- Unreserved characters and the given marks. -/
def safeWith (marks : Text) (c : Char) : Bool := isUnreserved c || marks.contains c

/-- A text taken apart at its escapes: octets from ASCII characters and escapes, or other
    characters; the result so far is in reverse. -/
def percentUnits (done : List (Sum UInt8 Char)) : Text → List (Sum UInt8 Char)
  | [] => done.reverse
  | '%' :: a :: b :: rest =>
    match hexDigit? a, hexDigit? b with
    | some x, some y => percentUnits (.inl (UInt8.ofNat (x * 16 + y)) :: done) rest
    | _, _ => percentUnits (.inl 37 :: done) (a :: b :: rest)
  | c :: rest =>
    percentUnits ((if isAscii c then .inl (UInt8.ofNat c.toNat) else .inr c) :: done) rest

/-- Reads one unit: an octet as part of a character, or a whole character. -/
def readUnit (st : Utf8.State) : Sum UInt8 Char → Utf8.State
  | .inl b => Utf8.step st b
  | .inr c => { read := c :: st.flush.read }

/-- A text with its escapes read. -/
def percentDecode (s : Text) : Text := ((percentUnits [] s).foldl readUnit {}).text

end Courier
