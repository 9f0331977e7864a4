/-
  Query parameters of a caller, and the query of a request made from them and the URL's own.

  Parameters come as an encoded text, as a list of pairs, or as fields with one or several values.  Keys
  are compared as they are given, so that a number and its text are different keys; only then are they
  written as text, and of two keys with the same text the later gives the values and the earlier the
  place.
-/
import Courier.Url.Form
import Courier.Url.Basic
import Courier.Number.Binary64

namespace Courier

/-- A key or a value of a query parameter. -/
inductive Scalar
  | absent
  | flag (b : Bool)
  | integer (n : Int)
  | real (x : Binary64)
  | text (s : Text)
  deriving DecidableEq, Repr

namespace Scalar

/-- The integer that a number is equal to. -/
def integer? : Scalar → Option Int
  | .flag b => some (if b then 1 else 0)
  | .integer n => some n
  | .real (.finite negative m e) =>
    let (n, d) := Binary64.scaled m 1 (-e)
    if n % d = 0 then
      let k : Int := ((n / d : Nat) : Int)
      some (if negative then -k else k)
    else none
  | _ => none

/-- Whether two keys are equal: numbers by value, all else by kind and value. -/
def sameKey (a b : Scalar) : Bool :=
  match a.integer?, b.integer? with
  | some m, some n => m == n
  | none, none => a == b && a != .real .notANumber
  | _, _ => false

/-- A key as text. -/
def keyText : Scalar → Text
  | .absent => "None".toList
  | .flag true => "True".toList
  | .flag false => "False".toList
  | .integer n => decimalInt n
  | .real x => x.text
  | .text s => s

/-- A value as text: nothing for an absent one, lower case words for flags. -/
def valueText : Scalar → Text
  | .absent => []
  | .flag true => "true".toList
  | .flag false => "false".toList
  | s => s.keyText

end Scalar

/-- The parameters that a caller gives with a request. -/
inductive Query
  | absent
  | encoded (s : Text)
  | pairs (ps : List (Scalar × Scalar))
  | fields (fs : List (Scalar × List Scalar))
  deriving Repr

namespace Query

/-- Puts values under a text key: in the place the key has, or at the end. -/
def putText (groups : List (Text × List Text)) (key : Text) (values : List Text) :
    List (Text × List Text) :=
  if groups.any fun g => g.1 == key then
    groups.map fun g => if g.1 == key then (key, values) else g
  else groups ++ [(key, values)]

/-- Groups under raw keys as groups under text keys. -/
def textGroups (groups : List (Scalar × List Scalar)) : List (Text × List Text) :=
  groups.foldl (fun done g => putText done g.1.keyText (g.2.map Scalar.valueText)) []

/-- The parameters as groups of texts. -/
def groups : Query → List (Text × List Text)
  | .absent => []
  | .encoded s => Form.group (· == ·) (Form.decode s)
  | .pairs ps => textGroups (Form.group Scalar.sameKey ps)
  | .fields fs => textGroups fs

/-- The parameters as an encoded text. -/
def text (q : Query) : Text := Form.encode (Form.ungroup q.groups)

end Query

/-- The query of a request with its mark: the URL's own, then the caller's, nothing when both are
    empty. -/
def Url.combineQuery (u : Url) (query : Query) : Text :=
  match u.queryText, query.text with
  | [], [] => []
  | own, [] => '?' :: own
  | [], callers => '?' :: callers
  | own, callers => '?' :: own ++ '&' :: callers

end Courier
