/-
  Punycode: code points of a label written with ASCII letters and digits.

  A label is its ASCII part, a hyphen, and a sequence of variable-length numbers; each number tells how
  far to move on through all pairs of a code point and a place before the next insertion.  The digits
  of a number have thresholds that depend on a bias, which adapts after every insertion.

  Reading consumes at least one digit for each insertion, which is why it ends; writing visits the
  missing code points in ascending order, once over the label for each.
-/
import Courier.Number.Integer

namespace Courier.Idna.Punycode

/-- The threshold of the digit at a place. -/
def threshold (place bias : Nat) : Nat := min 26 (max 1 (36 * (place + 1) - bias))

theorem threshold_pos (place bias : Nat) : 1 ≤ threshold place bias := by
  unfold threshold; omega

theorem threshold_le (place bias : Nat) : threshold place bias ≤ 26 := by
  unfold threshold; omega

/-- Halves a distance by 35 until it is small, counting 36 for each time. -/
def shrink (count delta : Nat) : Nat × Nat :=
  if 455 < delta then shrink (count + 36) (delta / 35) else (count, delta)
termination_by delta

/-- The bias after an insertion: `size` is the length of the label with it. -/
def adapt (delta : Nat) (isFirst : Bool) (size : Nat) : Nat :=
  let delta := if isFirst then delta / 700 else delta / 2
  let (count, delta) := shrink 0 (delta + delta / size)
  count + 36 * delta / (delta + 38)

/-! ## Reading -/

/-- The value of a digit: letters of either case count from 0, decimal digits from 26. -/
def digitValue? (c : Char) : Option Nat :=
  if c.isDigit then some (c.toNat - 22)
  else if c.isLower then some (c.toNat - 97)
  else if c.isUpper then some (c.toNat - 65)
  else none

/-- Reads one number, with the place of the next digit, its weight and the value so far. -/
def readNumber (bias place weight value : Nat) : Text → Option (Nat × Text)
  | [] => none
  | c :: rest =>
    match digitValue? c with
    | none => none
    | some d =>
      let value := value + d * weight
      let t := threshold place bias
      if d < t then some (value, rest) else readNumber bias (place + 1) (weight * (36 - t)) value rest

theorem length_of_readNumber {bias place weight value : Nat} {s rest : Text} {n : Nat}
    (h : readNumber bias place weight value s = some (n, rest)) : rest.length < s.length := by
  induction s generalizing place weight value with
  | nil => simp [readNumber] at h
  | cons c t ih =>
    unfold readNumber at h
    split at h
    · simp at h
    · dsimp only at h
      split at h
      · simp only [Option.some.injEq, Prod.mk.injEq] at h
        simp [← h.2]
      · have := ih h
        simp only [List.length_cons]; omega

/-- Inserts a value at a place of a list. -/
def insertAt (s : List Nat) (i v : Nat) : List Nat := s.take i ++ v :: s.drop i

/-- Reads insertions to the end: the label so far, the last code point, the place after the last
    insertion, and the bias. -/
def readInsertions (label : List Nat) (point place bias : Nat) (isFirst : Bool) (s : Text) :
    Option (List Nat) :=
  if s.isEmpty then some label
  else match h : readNumber bias 0 1 0 s with
    | none => none
    | some (delta, rest) =>
      have : rest.length < s.length := length_of_readNumber h
      let size := label.length + 1
      let position := place + delta
      let point := point + position / size
      if 0x10ffff < point then none
      else
        let i := position % size
        readInsertions (insertAt label i point) point (i + 1) (adapt delta isFirst size) false rest
termination_by s.length

/-- The code points of a punycode text. -/
def decode? (s : Text) : Option (List Nat) :=
  match cutLast '-' s with
  | (none, extended) => readInsertions [] 0x80 0 72 true extended
  | (some base, extended) => readInsertions (base.map Char.toNat) 0x80 0 72 true extended

/-! ## Writing -/

/-- The digit of a value. -/
def digitChar (d : Nat) : Char := if d < 26 then Char.ofNat (97 + d) else Char.ofNat (22 + d)

/-- Writes one number. -/
def writeNumber (bias place n : Nat) : Text :=
  let t := threshold place bias
  if h : n < t then [digitChar n]
  else
    have : (n - t) / (36 - t) < n := by
      have h1 := threshold_pos place bias
      have h2 := threshold_le place bias
      have h3 : 1 ≤ n := Nat.le_trans h1 (Nat.le_of_not_lt h)
      exact Nat.lt_of_le_of_lt (Nat.div_le_self _ _) (Nat.sub_lt h3 h1)
    digitChar (t + (n - t) % (36 - t)) :: writeNumber bias (place + 1) ((n - t) / (36 - t))
termination_by n

/-- The writer: the number of code points placed, the distance since the last insertion, the bias, and
    the digits so far. -/
structure State where
  placed : Nat
  delta : Nat
  bias : Nat
  isFirst : Bool
  out : Text

/-- Passes one code point of the label while `point` is being placed. -/
def pass (point : Nat) (st : State) (c : Nat) : State :=
  if c < point then { st with delta := st.delta + 1 }
  else if c = point then
    { placed := st.placed + 1
      delta := 0
      bias := adapt st.delta st.isFirst (st.placed + 1)
      isFirst := false
      out := st.out ++ writeNumber st.bias 0 st.delta }
  else st

/-- Places all code points of one value: `last` is the value placed before, plus one. -/
def place (label : List Nat) (st : State × Nat) (point : Nat) : State × Nat :=
  let (st, last) := st
  let st := { st with delta := st.delta + (point - last) * (st.placed + 1) }
  let st := label.foldl (pass point) st
  ({ st with delta := st.delta + 1 }, point + 1)

/-- The punycode text of a label. -/
def encode (label : List Nat) : Text :=
  let basic := (label.filter (· < 0x80)).map Char.ofNat
  let points := (label.filter (0x80 ≤ ·)).mergeSort.eraseDups
  let start : State :=
    { placed := basic.length, delta := 0, bias := 72, isFirst := true, out := [] }
  let written := (points.foldl (place label) (start, 0x80)).1.out
  if basic.isEmpty then written else basic ++ '-' :: written

end Courier.Idna.Punycode
