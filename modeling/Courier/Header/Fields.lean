/-
  Lists of header fields: order and repetitions are kept, and look-ups disregard case.

  The look-ups agree with one another: the first value under a name is the head of all its values, and a
  name is there when it has a value.  Joined form has one entry for each name in lower case, at the place
  of its first field, with all its values between commas.
-/
import Courier.Header.Basic
import Courier.Url.Query

namespace Courier

namespace Header

/-- All values under a name, in order. -/
def valuesOf (hs : List Header) (name : Text) : List Text :=
  (hs.filter fun h => h.hasName name).map Header.value

/-- The first value under a name. -/
def valueOf? (hs : List Header) (name : Text) : Option Text :=
  (hs.find? fun h => h.hasName name).map Header.value

/-- Whether some field has a name. -/
def contains (hs : List Header) (name : Text) : Bool := (valueOf? hs name).isSome

/-- What stands between values that are joined. -/
def separator : Text := [',', ' ']

/-- Adds a field to a joined form: after the values that its name has, or as a new entry. -/
def addJoined (done : List (Text × Text)) (h : Header) : List (Text × Text) :=
  let key := lower h.name
  if done.any fun e => e.1 == key then
    done.map fun e => if e.1 == key then (e.1, e.2 ++ separator ++ h.value) else e
  else done ++ [(key, h.value)]

/-- The joined form. -/
def joined (hs : List Header) : List (Text × Text) := hs.foldl addJoined []

/-- The value of a field that a caller gives; an absent one is empty. -/
def valueText : Scalar → Text
  | .absent => []
  | s => s.keyText

/-- The fields of a request from the pairs that a caller gives; the first bad pair is an error. -/
def ofPairs (pairs : List (Scalar × Scalar)) : Except HeaderError (List Header) :=
  pairs.mapM fun pair => ofPair pair.1.keyText (valueText pair.2)

theorem valueOf?_eq_head? (hs : List Header) (name : Text) :
    valueOf? hs name = (valuesOf hs name).head? := by
  simp [valueOf?, valuesOf, List.head?_filter]

end Header

end Courier
