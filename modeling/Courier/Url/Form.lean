/-
  Form-encoded pairs: the text of a query.

  Pairs are joined by ampersands, a name and its value by an equals sign; a space becomes a plus sign and
  all but the unreserved characters is percent-encoded.  Reading skips empty pieces, cuts each other
  piece at its first equals sign, and keeps blank values.

  Grouping puts pairs with equal names together at the place of the first of them.
-/
import Courier.Text.Percent

namespace Courier.Form

/-- A name or a value in encoded form. -/
def encodeText (s : Text) : Text :=
  (percentEncode (fun c => isUnreserved c || c == ' ') s).map fun c => if c = ' ' then '+' else c

/-- A name or a value read from its encoded form. -/
def decodeText (s : Text) : Text := percentDecode (s.map fun c => if c = '+' then ' ' else c)

/-- One pair in encoded form. -/
def encodePair (pair : Text × Text) : Text := encodeText pair.1 ++ '=' :: encodeText pair.2

/-- Pairs in encoded form. -/
def encode (pairs : List (Text × Text)) : Text := ['&'].intercalate (pairs.map encodePair)

/-- One piece of an encoded text as a pair. -/
def decodePair (piece : Text) : Text × Text :=
  (decodeText (beforeMark '=' piece), decodeText (afterMark '=' piece))

/-- The pairs of an encoded text. -/
def decode (s : Text) : List (Text × Text) :=
  ((s.splitOn '&').filter fun piece => !piece.isEmpty).map decodePair

/-- Adds values under a key, in the group that the key has or in a new one at the end. -/
def addTo {α β : Type} (same : α → α → Bool) (groups : List (α × List β)) (key : α) (values : List β) :
    List (α × List β) :=
  if groups.any fun g => same g.1 key then
    groups.map fun g => if same g.1 key then (g.1, g.2 ++ values) else g
  else groups ++ [(key, values)]

/-- Pairs with equal keys together, each group at the place of its first pair. -/
def group {α β : Type} (same : α → α → Bool) (pairs : List (α × β)) : List (α × List β) :=
  pairs.foldl (fun groups pair => addTo same groups pair.1 [pair.2]) []

/-- The pairs of groups, in order. -/
def ungroup {α β : Type} (groups : List (α × List β)) : List (α × β) :=
  groups.flatMap fun g => g.2.map fun v => (g.1, v)

end Courier.Form
