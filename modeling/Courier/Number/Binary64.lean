/-
  Binary floating point numbers of 64 bits: reading them from decimal text, and writing the shortest
  decimal text that reads back.

  A finite number is an integer times a power of two, kept in the one canonical form that the format
  has for it, and all arithmetic is exact on natural numbers: nothing here depends on the machine's
  own floating point.

  Reading rounds to the nearest number, ties to the even one.  Writing looks, for one digit, two
  digits and so on, at the two neighbours of the value on that decimal grid, and takes the first
  grid with a neighbour in the interval of reals that round to the value, of two the nearer one.
-/
import Courier.Number.Integer

namespace Courier

/-- A number of the 64 bit format; a finite one is `mantissa * 2 ^ exponent`. -/
inductive Binary64
  | finite (negative : Bool) (mantissa : Nat) (exponent : Int)
  | infinite (negative : Bool)
  | notANumber
  deriving DecidableEq, Repr

namespace Binary64

/-- The least exponent of the format. -/
def leastExponent : Int := -1074

/-- The greatest exponent of the format. -/
def greatestExponent : Int := 971

/-- The least mantissa of a number that has all the digits of the format: two to the 52. -/
def leastMantissa : Nat := 0x10000000000000

/-- A ratio as numerator and denominator, both scaled to stand for `num / den / 2 ^ e`. -/
def scaled (num den : Nat) (e : Int) : Nat × Nat :=
  match e with
  | .ofNat k => (num, den * Nat.pow 2 k)
  | .negSucc k => (num * Nat.pow 2 (k + 1), den)

/-- The nearest integer to a ratio, ties to the even one. -/
def roundRatio (num den : Nat) : Nat :=
  let q := num / den
  let r := num % den
  if 2 * r < den then q
  else if den < 2 * r then q + 1
  else if q % 2 = 0 then q else q + 1

/-- The number nearest to a ratio of positive numbers. -/
def ofRatio (negative : Bool) (num den : Nat) : Binary64 :=
  let guess : Int := (num.log2 : Int) - (den.log2 : Int) - 52
  let (n, d) := scaled num den guess
  let exponent := if n / d < leastMantissa then guess - 1 else guess
  let exponent := max exponent leastExponent
  let (n, d) := scaled num den exponent
  let m := roundRatio n d
  let (m, exponent) := if m = 2 * leastMantissa then (leastMantissa, exponent + 1) else (m, exponent)
  if exponent > greatestExponent then .infinite negative else .finite negative m exponent

/-- The number nearest to `digits * 10 ^ power`.  A value beyond the format's range is settled by its
    size before the power is computed. -/
def ofDecimal (negative : Bool) (digits : Nat) (power : Int) : Binary64 :=
  let size : Int := ((decimal digits).length : Int) + power
  if digits = 0 ∨ size < -330 then .finite negative 0 leastExponent
  else if size > 320 then .infinite negative
  else match power with
    | .ofNat k => ofRatio negative (digits * Nat.pow 10 k) 1
    | .negSucc k => ofRatio negative digits (Nat.pow 10 (k + 1))

/-- The number nearest to an integer. -/
def ofInt (n : Int) : Binary64 := ofDecimal (n < 0) n.natAbs 0

/-- The integer part of a number, nothing when it is not finite. -/
def toInt? : Binary64 → Option Int
  | .finite negative m e =>
    let (n, d) := scaled m 1 (-e)
    let k : Int := ((n / d : Nat) : Int)
    some (if negative then -k else k)
  | _ => none

/-- Whether a number is greater than zero. -/
def isPositive : Binary64 → Bool
  | .finite negative m _ => !negative && m != 0
  | .infinite negative => !negative
  | .notANumber => false

/-! ## Reading -/

/-- Low lines between digits, and nowhere else, are dropped. -/
def dropLowLines? (s : Text) : Option Text :=
  if s.contains '_' then
    let groups := s.splitOn '_'
    let okAt (g h : Text) : Bool := (g.getLast?.any Char.isDigit) && (h.head?.any Char.isDigit)
    if (groups.zip groups.tail).all fun gh => okAt gh.1 gh.2 then some groups.flatten else none
  else some s

/-- Reads an exponent: a sign and at least one digit. -/
def readExponent? (s : Text) : Option Int :=
  let (negative, digits) := takeSign s
  if digits.isEmpty || !digits.all Char.isDigit then none
  else
    let n : Int := (decimalValue digits : Nat)
    some (if negative then -n else n)

/-- Reads digits with a point and an exponent: at least one digit before the exponent. -/
def readFinite? (negative : Bool) (s : Text) : Option Binary64 :=
  let whole := s.takeWhile Char.isDigit
  let rest := s.dropWhile Char.isDigit
  let (fraction, rest) := match rest with
    | '.' :: r => (r.takeWhile Char.isDigit, r.dropWhile Char.isDigit)
    | r => ([], r)
  if whole.isEmpty && fraction.isEmpty then none
  else
    let value (power : Int) : Binary64 :=
      ofDecimal negative (decimalValue (whole ++ fraction)) (power - fraction.length)
    match rest with
    | [] => some (value 0)
    | c :: r => if c = 'e' ∨ c = 'E' then (readExponent? r).map value else none

/-- Reads a number: decimal digits with a point and an exponent, or the words for infinity and for no
    number, in any case; blanks may stand around it and single low lines between digits. -/
def read? (s : Text) : Option Binary64 :=
  match dropLowLines? (numeralText s) with
  | none => none
  | some body =>
    let (negative, body) := takeSign body
    let word := body.map Char.toLower
    if word = "inf".toList ∨ word = "infinity".toList then some (.infinite negative)
    else if word = "nan".toList then some .notANumber
    else readFinite? negative body

/-! ## Writing -/

/-- The decimal place of a positive ratio: the `k` with `10 ^ (k - 1) ≤ num / den < 10 ^ k`. -/
def decimalPlace (num den : Nat) : Int :=
  let guess : Int := ((decimal num).length : Int) - ((decimal den).length : Int)
  -- the guess is the place or one less
  if tenTimes den guess ≤ num * tenTimes 1 (-guess) then guess + 1 else guess
where
  /-- `n * 10 ^ k`, or `n` for a negative `k`. -/
  tenTimes (n : Nat) (k : Int) : Nat := n * Nat.pow 10 k.toNat

/-- The shortest digits of a positive number, as an integer, and the number of digits, tried from
    `n` digits on. -/
def shortestFrom (m : Nat) (exponent place : Int) (n : Nat) : Nat → Nat × Nat
  | 0 => (0, n)
  | fuel + 1 =>
    -- everything is compared in units of a quarter of the last binary place
    let quarter := exponent - 2
    let unit := place - n
    -- value = v / w, and a candidate c stands for c * g / w
    let two (k : Int) : Nat := Nat.pow 2 k.toNat
    let ten (k : Int) : Nat := Nat.pow 10 k.toNat
    let v := 4 * m * two quarter * ten (-unit)
    let g := ten unit * two (-quarter)
    let below := if m = leastMantissa ∧ exponent > leastExponent then 1 else 2
    let low := (4 * m - below) * two quarter * ten (-unit)
    let high := (4 * m + 2) * two quarter * ten (-unit)
    let inside (c : Nat) : Bool :=
      if m % 2 = 0 then low ≤ c * g && c * g ≤ high else low < c * g && c * g < high
    let down := v / g
    let up := down + 1
    let nearerDown := 2 * (v - down * g) < g || (2 * (v - down * g) = g && down % 2 = 0)
    match inside down, inside up with
    | true, true => (if nearerDown then down else up, n)
    | true, false => (down, n)
    | false, true => (up, n)
    | false, false => shortestFrom m exponent place (n + 1) fuel

/-- The shortest digits of a positive finite number and its decimal place. -/
def shortest (m : Nat) (exponent : Int) : Text × Int :=
  let (num, den) := scaled m 1 (-exponent)
  let place := decimalPlace num den
  let (digits, n) := shortestFrom m exponent place 1 17
  let text := decimal digits
  -- a candidate may be the next power of ten
  (trimRight (· == '0') text, place + ((text.length : Int) - n))

/-- Digits at a decimal place: positional from `0.0001` to below `10 ^ 16`, else with an exponent of
    at least two digits; a positional number has a point with a digit after it. -/
def layout (digits : Text) (place : Int) : Text :=
  if place ≤ -4 ∨ place > 16 then
    let e := place - 1
    let shown := (decimal e.natAbs).leftpad 2 '0'
    (match digits with
      | [d] => [d]
      | d :: rest => d :: '.' :: rest
      | [] => ['0']) ++ 'e' :: (if e < 0 then '-' else '+') :: shown
  else if place ≤ 0 then
    '0' :: '.' :: List.replicate (-place).toNat '0' ++ digits
  else
    let k := place.toNat
    let whole := digits.take k
    let filled := whole ++ List.replicate (k - whole.length) '0'
    let fraction := digits.drop k
    filled ++ '.' :: (if fraction.isEmpty then ['0'] else fraction)

/-- The shortest decimal text of a number. -/
def text : Binary64 → Text
  | .finite negative m e =>
    (if negative then ['-'] else []) ++
      (if m = 0 then "0.0".toList else
        let (digits, place) := shortest m e
        layout digits place)
  | .infinite negative => (if negative then ['-'] else []) ++ "inf".toList
  | .notANumber => "nan".toList

end Binary64

end Courier
