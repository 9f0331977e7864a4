/-
  The direction rule of a label.

  A label that holds no right-to-left character is always in order.  Any other must begin with a letter
  that has a direction, hold only what may stand beside that direction, end with a letter or digit
  (nonspacing marks aside), and, when it runs from right to left, hold digits of one kind only.
-/
import Courier.Idna.CodePointTable
import Courier.Idna.Error

namespace Courier.Idna

/-- The directions that code points of labels have. -/
inductive Direction
  | left
  | right
  | arabic
  | arabicNumber
  | number
  | separator
  | neutral
  | boundary
  | mark
  | unknown
  deriving DecidableEq, Repr

/-- The direction of a code point. -/
def Direction.of (c : Nat) : Direction :=
  if directionUnknown.contains c || newestPoints.contains c then .unknown
  else if directionRight.contains c then .right
  else if directionArabic.contains c then .arabic
  else if directionArabicNumber.contains c then .arabicNumber
  else if directionNumber.contains c then .number
  else if directionSeparator.contains c then .separator
  else if directionNeutral.contains c then .neutral
  else if directionBoundary.contains c then .boundary
  else if directionMark.contains c then .mark
  else .left

/-- Whether a direction makes its label a right-to-left matter. -/
def Direction.isRightToLeft : Direction → Bool
  | .right | .arabic | .arabicNumber => true
  | _ => false

/-- Whether a direction may occur in a label of the given direction. -/
def Direction.isAllowed (rightToLeft : Bool) : Direction → Bool
  | .right | .arabic | .arabicNumber => rightToLeft
  | .left => !rightToLeft
  | .unknown => false
  | _ => true

/-- Whether a label of the given direction may end with this one. -/
def Direction.mayEnd (rightToLeft : Bool) : Direction → Bool
  | .right | .arabic | .arabicNumber => rightToLeft
  | .left => !rightToLeft
  | .number => true
  | _ => false

/-- Walks a label: its place, whether the last character could end it, and the kind of digits seen. -/
def walkDirections (rightToLeft : Bool) (position : Nat) (ends : Bool) (digits : Option Direction) :
    List Direction → Except DirectionError Unit
  | [] => if ends then .ok () else .error .ending
  | d :: rest =>
    if !d.isAllowed rightToLeft then .error (.wrong position rightToLeft)
    else
      let ends := if d = .mark then ends else d.mayEnd rightToLeft
      let isDigit := rightToLeft && (d == .arabicNumber || d == .number)
      if isDigit && digits.any (· != d) then .error .mixedNumbers
      else walkDirections rightToLeft (position + 1) ends (if isDigit then some d else digits) rest

/-- Checks the direction rule. -/
def checkDirections (label : List Nat) : Except DirectionError Unit :=
  let ds := label.map Direction.of
  match ds.findIdx? (· == .unknown), ds with
  | some i, _ => .error (.unknown i label)
  | none, [] => .ok ()
  | none, d :: rest =>
    if !(d :: rest).any Direction.isRightToLeft then .ok ()
    else match d with
      | .right | .arabic => walkDirections true 0 false none (d :: rest)
      | .left => walkDirections false 0 false none (d :: rest)
      | _ => .error (.first label)

end Courier.Idna
