/-
  Tables over code points, written as text and looked up by bisection.

  A table is a sorted array of rows of numbers.  In a module it is written in base sixteen, the
  numbers of a row joined by commas and the rows divided by blanks, which keeps a property with a
  thousand ranges to a page.  `Rows.read` builds the array once, and `Rows.rowAt?` finds the last row
  that starts at or below a code point in a logarithmic number of comparisons.

  A property of code points is a table whose rows are ranges `low,high`, or `low` alone for a range
  of one; a map is a table whose rows say what a range goes to.
-/
import Courier.Text.Basic

namespace Courier

/-- A table of number rows, sorted by their first numbers. -/
abbrev Rows := Array (List Nat)

/-- The value of a digit of base sixteen in lower case. -/
def tableDigit (c : Char) : Nat := if c.isDigit then c.toNat - 48 else c.toNat - 87

/-- The value of a number of a table. -/
def tableNumber (s : Text) : Nat := s.foldl (fun n c => n * 16 + tableDigit c) 0

/-- What divides the rows of a table: a blank or a line end. -/
def dividesRows (c : Char) : Bool := c == ' ' || c == '\n'

/-- Reads a table: commas end a number, blanks and line ends a row. -/
def Rows.read (text : String) : Rows :=
  let rows := (text.toList.splitOnP dividesRows).filter fun row => !row.isEmpty
  (rows.map fun row => (row.splitOn ',').map tableNumber).toArray

/-- The number of positions in `[lo, hi)`, counted from `lo`'s left, whose key is at most `c`: the
    keys are sorted, so the answer is a boundary and half of the interval drops out at each step. -/
def boundary (key : Nat → Nat) (c lo hi : Nat) : Nat :=
  if lo < hi then
    let mid := (lo + hi) / 2
    if key mid ≤ c then boundary key c (mid + 1) hi else boundary key c lo mid
  else lo
termination_by hi - lo

/-- The last row whose first number is at most `c`. -/
def Rows.rowAt? (rows : Rows) (c : Nat) : Option (List Nat) :=
  match boundary (fun i => (rows.getD i []).headD 0) c 0 rows.size with
  | 0 => none
  | i + 1 => rows[i]?

/-- Whether a code point lies in one of the ranges of a table. -/
def Rows.contains (rows : Rows) (c : Nat) : Bool :=
  match rows.rowAt? c with
  | some [low] => c == low
  | some (low :: high :: _) => low ≤ c && c ≤ high
  | _ => false

/-- The row that starts with exactly this number, without that number. -/
def Rows.get? (rows : Rows) (c : Nat) : Option (List Nat) :=
  match rows.rowAt? c with
  | some (low :: rest) => if low = c then some rest else none
  | _ => none

end Courier
