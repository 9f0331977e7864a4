/-
  Composed normal form of a sequence of code points.

  Every character is decomposed as far as it goes, combining marks are put in the order of their
  classes, and then each mark that can be is composed with the last starter before it, unless a mark of
  the same or a higher class stands between them.  Hangul syllables are decomposed and composed by
  arithmetic, all other characters by table.
-/
import Courier.Idna.NormalTable

namespace Courier.Idna

/-- The combining class of a code point, zero for a starter. -/
def combiningClass (c : Nat) : Nat :=
  match combiningClasses.rowAt? c with
  | some [low, high, k] => if low ≤ c ∧ c ≤ high then k else 0
  | _ => 0

/-- Decomposes a code point; one step of the table can be followed by a few more. -/
def decompose : Nat → Nat → List Nat
  | 0, c => [c]
  | steps + 1, c =>
    if 0xac00 ≤ c ∧ c ≤ 0xd7a3 then
      let s := c - 0xac00
      let t := s % 28
      [0x1100 + s / 588, 0x1161 + s % 588 / 28] ++ (if t = 0 then [] else [0x11a7 + t])
    else match decompositions.get? c with
      | none => [c]
      | some parts => parts.flatMap (decompose steps)

/-- Sorts each run of combining marks by class, keeping the order of equal ones. -/
def orderMarks (s : List Nat) : List Nat :=
  let (done, run) := s.foldr
    (fun c (done, run) =>
      if combiningClass c = 0 then (c :: run.mergeSort byClass ++ done, [])
      else (done, c :: run))
    (([] : List Nat), ([] : List Nat))
  run.mergeSort byClass ++ done
where
  byClass (a b : Nat) : Bool := combiningClass a ≤ combiningClass b

/-- The character that two others compose to. -/
def composePair? (a b : Nat) : Option Nat :=
  if 0x1100 ≤ a ∧ a ≤ 0x1112 ∧ 0x1161 ≤ b ∧ b ≤ 0x1175 then
    some (0xac00 + ((a - 0x1100) * 21 + (b - 0x1161)) * 28)
  else if 0xac00 ≤ a ∧ a ≤ 0xd7a3 ∧ (a - 0xac00) % 28 = 0 ∧ 0x11a8 ≤ b ∧ b ≤ 0x11c2 then
    some (a + (b - 0x11a7))
  else
    match decompositions.find? fun row => row.tail == [a, b] with
    | some (c :: _) => if compositionExclusions.contains c then none else some c
    | _ => none

/-- The composer: what is finished, in reverse; the last starter; the marks after it that stayed, in
    reverse. -/
structure Composer where
  done : List Nat := []
  starter : Option Nat := none
  kept : List Nat := []

/-- What the composer holds, in reverse. -/
def Composer.held (st : Composer) : List Nat := st.kept ++ st.starter.toList ++ st.done

/-- Takes one code point: composes it with the starter, or keeps it. -/
def Composer.take (st : Composer) (c : Nat) : Composer :=
  let k := combiningClass c
  let apart : Composer :=
    if k = 0 then { done := st.held, starter := some c } else { st with kept := c :: st.kept }
  match st.starter with
  | none => apart
  | some a =>
    let blocked := match st.kept with
      | [] => false
      | m :: _ => combiningClass m ≥ k
    if blocked then apart
    else match composePair? a c with
      | some composed => { st with starter := some composed }
      | none => apart

/-- The composed normal form. -/
def normalForm (s : List Nat) : List Nat :=
  ((orderMarks (s.flatMap (decompose 8))).foldl Composer.take {}).held.reverse

end Courier.Idna
