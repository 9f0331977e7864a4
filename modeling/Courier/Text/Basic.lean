/-
  Text and bytes, and the cuts that every grammar of this library is made of.

  A `Text` is a list of characters and a `Bytes` a list of octets: the grammars below read from the
  front, and a list is what a proof about reading from the front recurses on.

  A character is a Unicode scalar value, so a text holds no lone surrogate.  A string that a caller may hand
  over can hold one: it is no Unicode text and has no UTF-8 form, and the query or the path of a URL, the
  rendering of a cookie and a body that are made from it fail with `UnicodeEncodeError`.  Such strings, and
  with them these failures, lie outside the library.

  Contents: cutting at the first or the last mark (`cut`, `cutLast`), trimming by a class
  (`trimLeft`, `trimRight`, `trim`), the blanks that are trimmed off numbers, switches and parameters
  (`isBlank`, `trimBlank`), looking for one text inside another (`hasInfix`).
  The main facts: a cut loses nothing but its mark, and the part before the mark does not hold it.

  The class of blanks is wider than the six ASCII ones: it holds the four information separators, the
  no-break space, the spaces of general punctuation and the ideographic space.
-/

namespace Courier

/-- Text: the characters in reading order. -/
abbrev Text := List Char

/-- Octets in wire order. -/
abbrev Bytes := List UInt8

/-! ## Cuts -/

/-- What stands before the first `mark`, and what follows it if there is one. -/
def cut {α : Type} [BEq α] (mark : α) (s : List α) : List α × Option (List α) :=
  (s.takeWhile (· != mark), (s.dropWhile (· != mark)).tail?)

/-- What stands before the last `mark` if there is one, and what follows it. -/
def cutLast {α : Type} [BEq α] (mark : α) (s : List α) : Option (List α) × List α :=
  match cut mark s.reverse with
  | (after, before) => (before.map List.reverse, after.reverse)

/-- The part before the first `mark`. -/
def beforeMark {α : Type} [BEq α] (mark : α) (s : List α) : List α := (cut mark s).1

/-- The part after the first `mark`, nothing when there is no mark. -/
def afterMark {α : Type} [BEq α] (mark : α) (s : List α) : List α := (cut mark s).2.getD []

theorem mark_notMem_beforeMark {α : Type} [BEq α] [LawfulBEq α] (mark : α) (s : List α) :
    mark ∉ beforeMark mark s := by
  induction s with
  | nil => simp [beforeMark, cut]
  | cons a t ih =>
    unfold beforeMark cut at ih ⊢
    by_cases h : a = mark
    · simp [h]
    · simp [h, Ne.symm h]
      simpa using ih

/-- A cut at a mark that is there puts the text together again. -/
theorem cut_eq_some {α : Type} [BEq α] [LawfulBEq α] {mark : α} {s before after : List α}
    (h : cut mark s = (before, some after)) : s = before ++ mark :: after := by
  induction s generalizing before with
  | nil => simp [cut] at h
  | cons a t ih =>
    by_cases ha : a = mark
    · subst ha; simp [cut] at h; obtain ⟨rfl, rfl⟩ := h; rfl
    · simp [cut, ha] at h
      obtain ⟨rfl, h⟩ := h
      have := @ih (t.takeWhile (· != mark)) (by simp [cut, h])
      rw [List.cons_append, ← this]

/-! ## Trims -/

/-- Drops the leading characters of a class. -/
def trimLeft {α : Type} (p : α → Bool) (s : List α) : List α := s.dropWhile p

/-- Drops the trailing characters of a class. -/
def trimRight {α : Type} (p : α → Bool) (s : List α) : List α := (s.reverse.dropWhile p).reverse

/-- Drops the characters of a class at both ends. -/
def trim {α : Type} (p : α → Bool) (s : List α) : List α := trimRight p (trimLeft p s)

/-! ## Blanks -/

/-- The blank characters, as ranges of code points. -/
def blanks : List (Nat × Nat) :=
  [(0x09, 0x0d), (0x1c, 0x20), (0x85, 0x85), (0xa0, 0xa0), (0x1680, 0x1680), (0x2000, 0x200a),
   (0x2028, 0x2029), (0x202f, 0x202f), (0x205f, 0x205f), (0x3000, 0x3000)]

/-- Whether a character is blank. -/
def isBlank (c : Char) : Bool := blanks.any fun r => r.1 ≤ c.toNat && c.toNat ≤ r.2

/-- The text without its blanks at both ends. -/
def trimBlank (s : Text) : Text := trim isBlank s

/-! ## Search -/

/-- Whether `needle` stands somewhere in the text; the empty text stands everywhere. -/
def hasInfix {α : Type} [BEq α] (needle : List α) : List α → Bool
  | [] => needle.isEmpty
  | a :: t => needle.isPrefixOf (a :: t) || hasInfix needle t

/-- Code points below 128. -/
def isAscii (c : Char) : Bool := c.toNat < 128

end Courier
