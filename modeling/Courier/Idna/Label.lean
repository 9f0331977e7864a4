/-
  International host names: when a label is valid, the ASCII form of a label and of a name, and the name that
  an ASCII form stands for.

  The checks come in a fixed order, and the first one that fails gives the reason: length, normal form,
  hyphens, a mark at the start, every code point in turn, the direction rule.  Some code points are
  valid only in a context: the two joiners beside a virama or between joining letters, a few marks
  beside letters of their script, Arabic digits only without the other kind of them.

  A name is cut into labels at the full stop and at three ideographic ones; an empty last label is a
  trailing dot and stays one.
-/
import Courier.Idna.Direction
import Courier.Idna.Normal
import Courier.Idna.Punycode

namespace Courier.Idna

/-- How a character joins its neighbours in writing. -/
inductive Joining
  | left
  | right
  | dual
  | causing
  | transparent
  | none
  deriving DecidableEq, Repr

/-- The joining type of a code point. -/
def Joining.of (c : Nat) : Joining :=
  if joiningTransparent.contains c then .transparent
  else if joiningDual.contains c then .dual
  else if joiningRight.contains c then .right
  else if joiningLeft.contains c then .left
  else if joiningCausing.contains c then .causing
  else .none

/-- The joining type of the nearest character that joining does not look through. -/
def nearestJoining (s : List Nat) : Joining :=
  ((s.map Joining.of).find? (· != .transparent)).getD .none

/-- The class of a virama, after which a joiner is allowed. -/
def viramaClass : Nat := 9

/-- Whether a code point has a name. -/
def isNamed (c : Nat) : Bool := !unnamedPoints.contains c && !newestPoints.contains c

/-- Checks a joiner, given what stands before it (nearest first) and after it: either joiner may follow a
    virama, and the one that keeps letters apart may also stand between letters that would join. -/
def checkJoiner (spot : Spot) (before after : List Nat) : Except Error Unit :=
  let class? := before.head?.map combiningClass
  if class? = some viramaClass then .ok ()
  else if class? = some 0 && !before.head?.all isNamed then .error (.unknownNeighbour spot)
  else if spot.point = 0x200c ∧ nearestJoining before ∈ [Joining.left, .dual] ∧
      nearestJoining after ∈ [Joining.right, .dual] then .ok ()
  else .error (.joiner spot)

/-- Whether a code point lies in a range. -/
def within (low high c : Nat) : Bool := low ≤ c && c ≤ high

/-- The code points that are valid only beside certain others. -/
def isContextual (c : Nat) : Bool :=
  [0xb7, 0x375, 0x5f3, 0x5f4, 0x30fb].contains c || within 0x660 0x669 c || within 0x6f0 0x6f9 c

/-- Whether a contextual code point is allowed in a label, given its neighbours. -/
def contextAllowed (label : List Nat) (c : Nat) (previous next : Option Nat) : Bool :=
  if c = 0xb7 then previous == some 0x6c && next == some 0x6c
  else if c = 0x375 then next.any greek.contains
  else if c = 0x5f3 ∨ c = 0x5f4 then previous.any hebrew.contains
  else if c = 0x30fb then
    label.any fun d => d != 0x30fb && (hiragana.contains d || katakana.contains d || han.contains d)
  else if within 0x660 0x669 c then !label.any (within 0x6f0 0x6f9)
  else !label.any (within 0x660 0x669)

/-- Checks the code points of a label from left to right; those before are in reverse. -/
def checkPoints (label : List Nat) (before : List Nat) : List Nat → Except Error Unit
  | [] => .ok ()
  | c :: after =>
    let spot : Spot := ⟨c, before.length, label⟩
    if isValidPoint c then checkPoints label (c :: before) after
    else if c = 0x200c ∨ c = 0x200d then
      match checkJoiner spot before after with
      | .ok () => checkPoints label (c :: before) after
      | .error e => .error e
    else if isContextual c then
      if contextAllowed label c before.head? after.head? then checkPoints label (c :: before) after
      else .error (.context spot)
    else .error (.point spot)

/-- Checks a label. -/
def checkLabel (label : List Nat) : Except Error Unit :=
  if label.isEmpty then .error .emptyLabel
  else if 254 < label.length then .error .labelTooLong
  else if normalForm label != label then .error .notNormal
  else if (label.drop 2).take 2 = [45, 45] then .error .innerHyphens
  else if label.head? = some 45 ∨ label.getLast? = some 45 then .error .outerHyphen
  else if label.head?.any marks.contains then .error .initialMark
  else do
    checkPoints label [] label
    match checkDirections label with
    | .ok () => .ok ()
    | .error reason => .error (.direction reason)

/-- How an ASCII form of a label begins. -/
def asciiMark : Text := "xn--".toList

/-- The label that an ASCII label stands for.  Each label has one ASCII form: a text that is not the one
    that writing gives is refused before the label itself is looked at. -/
def decodeLabel (label : Text) : Except Error (List Nat) :=
  if 1024 < label.length then .error .labelTooLong
  else
    let label := label.map Char.toLower
    if asciiMark.isPrefixOf label then
      let content := label.drop 4
      if content.isEmpty then .error .noContent
      else if content.getLast? = some '-' then .error .trailingHyphen
      else match Punycode.decode? content with
        | none => .error .notPunycode
        | some points =>
          if Punycode.encode points = content then do checkLabel points; .ok points
          else .error .notCanonical
    else
      let points := label.map Char.toNat
      do checkLabel points; .ok points

/-- The ASCII form of a label. -/
def encodeLabel (label : Text) : Except Error Text :=
  if 1024 < label.length then .error .labelTooLong
  else if label.all isAscii then do
    let _ ← decodeLabel label
    if 63 < label.length then .error .labelTooLong else .ok label
  else do
    let points := label.map Char.toNat
    checkLabel points
    let written := asciiMark ++ Punycode.encode points
    if 63 < written.length then .error .labelTooLong else .ok written

/-! ## Names -/

/-- The four characters that divide labels. -/
def isDot (c : Char) : Bool := [0x2e, 0x3002, 0xff0e, 0xff61].contains c.toNat

/-- The labels of a name, and whether it ends with a dot. -/
def labelsOf (name : Text) : Except Error (List Text × Bool) :=
  if 254 < name.length then .error .nameTooLong
  else
    let labels := name.splitOnP isDot
    if labels == [[]] then .error .emptyName
    else if labels.getLast? == some [] then .ok (labels.dropLast, true)
    else .ok (labels, false)

/-- The ASCII form of a name. -/
def encode (name : Text) : Except Error Text := do
  let (labels, dotted) ← labelsOf name
  let written ← labels.mapM encodeLabel
  let result := ['.'].intercalate (written ++ if dotted then [[]] else [])
  if (if dotted then 254 else 253) < result.length then .error .nameTooLong else .ok result

/-- The code points of the name that an ASCII form stands for. -/
def decode (name : Text) : Except Error (List Nat) := do
  let (labels, dotted) ← labelsOf name
  let read ← labels.mapM decodeLabel
  .ok ([46].intercalate (read ++ if dotted then [[]] else []))

end Courier.Idna
