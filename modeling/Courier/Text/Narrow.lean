/-
  Texts whose characters fit in one octet: the ASCII and the Latin-1 alphabets.

  Writing fails at the first run of characters that do not fit, and the error keeps the run and its
  place.  Reading Latin-1 cannot fail: an octet is its own code point.
-/
import Courier.Number.Integer

namespace Courier

/-- An alphabet of single octets. -/
inductive Narrow
  | ascii
  | latin1
  deriving DecidableEq, Repr

/-- The first code point outside the alphabet. -/
def Narrow.limit : Narrow → Nat
  | .ascii => 128
  | .latin1 => 256

/-- The name of the alphabet in messages. -/
def Narrow.name : Narrow → Text
  | .ascii => "ascii".toList
  | .latin1 => "latin-1".toList

/-- Whether a character is in the alphabet. -/
def Narrow.holds (a : Narrow) (c : Char) : Bool := c.toNat < a.limit

/-- Characters that an alphabet cannot write: the first run of them and where it starts. -/
structure Unwritable where
  alphabet : Narrow
  position : Nat
  first : Char
  length : Nat
  deriving DecidableEq, Repr

/-- A character by its number, in the width that the number needs. -/
def escapedPoint (c : Char) : Text :=
  let n := c.toNat
  if n < 0x100 then '\\' :: 'x' :: hexWide 2 n
  else if n < 0x10000 then '\\' :: 'u' :: hexWide 4 n
  else '\\' :: 'U' :: hexWide 8 n

/-- The message: one character is shown, a longer run is given by its first and last place. -/
def Unwritable.message (e : Unwritable) : Text :=
  Char.ofNat 39 :: e.alphabet.name ++ Char.ofNat 39 :: " codec can".toList ++
    Char.ofNat 39 :: "t encode character".toList ++
    (if e.length = 1 then
      ' ' :: Char.ofNat 39 :: escapedPoint e.first ++ Char.ofNat 39 :: " in position ".toList ++
        decimal e.position
    else
      "s in position ".toList ++ decimal e.position ++ '-' :: decimal (e.position + e.length - 1)) ++
    ": ordinal not in range(".toList ++ decimal e.alphabet.limit ++ [')']

/-- The octets of a text in the alphabet. -/
def Narrow.write (a : Narrow) (s : Text) : Except Unwritable Bytes :=
  match s.dropWhile a.holds with
  | [] => .ok (s.map fun c => UInt8.ofNat c.toNat)
  | c :: rest => .error {
      alphabet := a
      position := (s.takeWhile a.holds).length
      first := c
      length := 1 + (rest.takeWhile fun d => !a.holds d).length }

/-- The text of octets, each its own code point. -/
def ofLatin1 (b : Bytes) : Text := b.map fun x => Char.ofNat x.toNat

/-- Octets as text can be written back. -/
theorem write_ofLatin1 (b : Bytes) : Narrow.latin1.write (ofLatin1 b) = .ok b := by
  have valid (x : UInt8) : (Char.ofNat x.toNat).toNat = x.toNat := by
    have hx : x.toNat < 256 := x.toNat_lt
    have ok : x.toNat.isValidChar := Or.inl (by omega)
    rw [Char.ofNat, dif_pos ok]; rfl
  have fits (s : Bytes) : (ofLatin1 s).dropWhile Narrow.latin1.holds = [] := by
    induction s with
    | nil => rfl
    | cons x t ih =>
      have hx : x.toNat < 256 := x.toNat_lt
      simp only [ofLatin1, List.map_cons] at ih ⊢
      rw [List.dropWhile_cons_of_pos (by simp [Narrow.holds, Narrow.limit, valid, hx])]
      exact ih
  rw [Narrow.write, fits]
  simp [ofLatin1, List.map_map, Function.comp_def, valid]

end Courier
