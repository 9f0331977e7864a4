/-
  Why a host name is refused as an international name.
-/
import Courier.Text.Quoted

namespace Courier.Idna

/-- A code point of a label, with its place counted from zero and the label. -/
structure Spot where
  point : Nat
  position : Nat
  label : List Nat
  deriving DecidableEq, Repr

/-- Violations of the direction rule of a label. -/
inductive DirectionError
  | unknown (position : Nat) (label : List Nat)
  | first (label : List Nat)
  | wrong (position : Nat) (rightToLeft : Bool)
  | mixedNumbers
  | ending
  deriving DecidableEq, Repr

/-- Why a name or one of its labels is refused. -/
inductive Error
  | nameTooLong
  | emptyName
  | emptyLabel
  | labelTooLong
  | notNormal
  | innerHyphens
  | outerHyphen
  | initialMark
  | joiner (spot : Spot)
  | unknownNeighbour (spot : Spot)
  | context (spot : Spot)
  | point (spot : Spot)
  | direction (reason : DirectionError)
  | noContent
  | trailingHyphen
  | notPunycode
  | notCanonical
  deriving DecidableEq, Repr

/-- The families of refusals: a code point, a code point in its context, the direction, and all
    others. -/
inductive ErrorKind
  | point
  | context
  | direction
  | general
  deriving DecidableEq, Repr

/-- The family of a refusal. -/
def Error.kind : Error → ErrorKind
  | .point _ => .point
  | .joiner _ => .context
  | .context _ => .context
  | .direction _ => .direction
  | _ => .general

/-- The name that a refusal is reported with. -/
def Error.name (e : Error) : Text :=
  match e.kind with
  | .point => "InvalidCodepoint".toList
  | .context => "InvalidCodepointContext".toList
  | .direction => "IDNABidiError".toList
  | .general => "IDNAError".toList

/-- A code point by its number. -/
def Spot.number (s : Spot) : Text := "U+".toList ++ hexWideUpper 4 s.point

/-- The place of a code point, counted from one. -/
def Spot.place (s : Spot) : Text := decimal (s.position + 1)

/-- The message of a violation of the direction rule. -/
def DirectionError.message : DirectionError → Text
  | .unknown position label =>
    "Unknown directionality in label ".toList ++ quotedPoints label ++ " at position ".toList ++
      decimal (position + 1)
  | .first label =>
    "First codepoint in label ".toList ++ quotedPoints label ++
      " must be directionality L, R or AL".toList
  | .wrong position rightToLeft =>
    "Invalid direction for codepoint at position ".toList ++ decimal (position + 1) ++
      " in a ".toList ++ (if rightToLeft then "right-to-left" else "left-to-right").toList ++
      " label".toList
  | .mixedNumbers => "Can not mix numeral types in a right-to-left label".toList
  | .ending => "Label ends with illegal codepoint directionality".toList

/-- The message of a refusal. -/
def Error.message : Error → Text
  | .nameTooLong => "Domain too long".toList
  | .emptyName => "Empty domain".toList
  | .emptyLabel => "Empty Label".toList
  | .labelTooLong => "Label too long".toList
  | .notNormal => "Label must be in Normalization Form C".toList
  | .innerHyphens => "Label has disallowed hyphens in 3rd and 4th position".toList
  | .outerHyphen => "Label must not start or end with a hyphen".toList
  | .initialMark => "Label begins with an illegal combining character".toList
  | .joiner s =>
    "Joiner ".toList ++ s.number ++ " not allowed at position ".toList ++ s.place ++ " in ".toList ++
      quotedPoints s.label
  | .unknownNeighbour s =>
    "Unknown codepoint adjacent to joiner ".toList ++ s.number ++ " at position ".toList ++ s.place ++
      " in ".toList ++ quotedPoints s.label
  | .context s =>
    "Codepoint ".toList ++ s.number ++ " not allowed at position ".toList ++ s.place ++
      " in ".toList ++ quotedPoints s.label
  | .point s =>
    "Codepoint ".toList ++ s.number ++ " at position ".toList ++ s.place ++ " of ".toList ++
      quotedPoints s.label ++ " not allowed".toList
  | .direction reason => reason.message
  | .noContent => "Malformed A-label, no Punycode eligible content found".toList
  | .trailingHyphen => "A-label must not end with a hyphen".toList
  | .notPunycode => "Invalid A-label".toList
  | .notCanonical => "A-label is not the canonical Punycode encoding of its U-label".toList

end Courier.Idna
