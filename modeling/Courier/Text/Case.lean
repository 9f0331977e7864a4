/-
  Lower and upper case of whole texts.

  A character maps by the simple tables, except for three things: the capital I with a dot above
  becomes two characters in lower case, a hundred characters become several in upper case (sharp s
  becomes two letters), and a capital sigma in lower case takes its final form at the end of a word:
  when a cased character stands before it and none after it, case-ignorable ones skipped.

  ASCII characters are mapped without a table, which is what the lemmas about header names use.
-/
import Courier.Text.CaseTable

namespace Courier

/-- Where a simple mapping sends a code point. -/
def Rows.mapSimple (rows : Rows) (c : Nat) : Nat :=
  match rows.rowAt? c with
  | some [low, high, step, target] =>
    if c ≤ high && (c - low) % step = 0 then target + (c - low) else c
  | _ => c

/-- Whether the nearest character that is not case-ignorable is cased. -/
def startsCased (s : Text) : Bool :=
  match s.dropWhile fun c => caseIgnorableRows.contains c.toNat with
  | [] => false
  | c :: _ => casedRows.contains c.toNat

/-- The lower case of one character, with the text before it (nearest first) and after it. -/
def lowerAt (before : Text) (c : Char) (after : Text) : Text :=
  if c.toNat < 128 then [c.toLower]
  else if c.toNat = 0x3a3 then
    [if startsCased before && !startsCased after then Char.ofNat 0x3c2 else Char.ofNat 0x3c3]
  else if c.toNat = 0x130 then ['i', Char.ofNat 0x307]
  else [Char.ofNat (lowerRows.mapSimple c.toNat)]

/-- Lower case, reading on with the text before in reverse and the result so far in reverse. -/
def lowerFrom (before result : Text) : Text → Text
  | [] => result.reverse
  | c :: after => lowerFrom (c :: before) ((lowerAt before c after).reverse ++ result) after

/-- The lower case of a text. -/
def lower (s : Text) : Text := lowerFrom [] [] s

/-- The upper case of one character. -/
def upperChar (c : Char) : Text :=
  if c.toNat < 128 then [c.toUpper]
  else match wideUpper.get? c.toNat with
    | some several => several.map Char.ofNat
    | none => [Char.ofNat (upperRows.mapSimple c.toNat)]

/-- The upper case of a text. -/
def upper (s : Text) : Text := s.flatMap upperChar

end Courier
