/-
  Numeric addresses of hosts: which texts are addresses of version four and six.

  A version four address is four decimal numbers up to 255 without leading zeros.  A version six
  address is eight groups of up to four hexadecimal digits; one run of groups may be left out between
  two colons, the last two groups may be written as a version four address, and a scope may follow a
  percent sign.
-/
import Courier.Number.Integer

namespace Courier.Url

/-- One number of a version four address. -/
def isOctetText (s : Text) : Bool :=
  !s.isEmpty && s.all Char.isDigit && s.length ≤ 3 && (s == ['0'] || s.head? != some '0') &&
    decimalValue s ≤ 255

/-- A version four address. -/
def isAddress4 (s : Text) : Bool :=
  let parts := s.splitOn '.'
  parts.length == 4 && parts.all isOctetText

/-- One group of a version six address. -/
def isGroupText (s : Text) : Bool := !s.isEmpty && s.all isHexDigit && s.length ≤ 4

/-- The groups of a version six address, a version four ending written as two groups. -/
def addressGroups? (s : Text) : Option (List Text) :=
  let parts := s.splitOn ':'
  let last := parts.getLastD []
  if parts.length < 3 then none
  else if last.contains '.' then
    if isAddress4 last then some (parts.dropLast ++ [['0'], ['0']]) else none
  else some parts

/-- Groups on one side of the run that was left out; the outermost one may be empty only when it is the
    only one there. -/
def isAddressSide (groups : List Text) : Bool := groups == [[]] || groups.all isGroupText

/-- The number of groups written on one side. -/
def sideLength (groups : List Text) : Nat := if groups == [[]] then 0 else groups.length

/-- A version six address without its scope. -/
def isPlainAddress6 (s : Text) : Bool :=
  match addressGroups? s with
  | none => false
  | some groups =>
    let inner := groups.tail.dropLast
    match inner.findIdx? List.isEmpty with
    | none => groups.length == 8 && groups.all isGroupText
    | some i =>
      let high := groups.take (i + 1)
      let low := groups.drop (i + 2)
      groups.length ≤ 9 && !(low.dropLast.any List.isEmpty) && isAddressSide high &&
        isAddressSide low && sideLength high + sideLength low < 8

/-- A version six address: a scope after a percent sign is not empty and holds no other one. -/
def isAddress6 (s : Text) : Bool :=
  !s.contains '/' && match cut '%' s with
    | (address, none) => isPlainAddress6 address
    | (address, some scope) => !scope.isEmpty && !scope.contains '%' && isPlainAddress6 address

/-- Whether a text has the shape of a version four address: four runs of digits divided by dots.  A host
    of this shape must be such an address.

    The dots are dots: a long number and digits divided by anything else are names, and a client gets on with them. -/
def looksNumeric (s : Text) : Bool :=
  let parts := s.splitOn '.'
  parts.length == 4 && parts.all fun part => !part.isEmpty && part.all Char.isDigit

example : ["1.2.3.4", "1.2.3.456", "1234567", "10-20-30-40", "192.168.1001"].map (fun s => looksNumeric s.toList) =
    [true, true, false, false, false] := by decide

end Courier.Url
