/-
  The texts that are numbers.

  A whole number is a run of digits behind an optional sign (`Numeral.IsWhole`).  A real number is a run of digits
  with a point in it, before it, behind it or nowhere, and perhaps with an exponent, or one of three words in any
  case (`Numeral.IsReal`).  Digits of all scripts are digits, single low lines may stand between two digits, and the
  blanks around a number do not count.

  The rules stand here on their own, apart from the readers: they are what a text is held against, and mention
  neither cutting nor the order in which a reader looks at things.  They are given over any alphabet of digits
  (`digit?`), for this reason.  Readers look at a text in ASCII spelling, and over the ASCII digits that spelling
  obeys the same rules as the text itself does over the digits of all scripts (`Numeral.digits_spelled`,
  `Numeral.signed_spelled`, `Numeral.unsigned_spelled`).

  The plan is one fact for a character, and the same fact for every rule.

  1. A character and its spelling.  Below 127 nothing changes; above, a character is a blank, a digit or neither,
  and `Spelling` says what becomes of each.  From it: the digit that is spelled has the same value
  (`asciiDigit?_spelled`), the blank that is spelled is one of those that may stand around a number
  (`isAsciiBlank_spelled`), and a mark of the rules is the spelling of itself alone (`numeralChar_eq_iff`).

  2. A rule and the spelled text.  Each production is gone through in both directions.  From the spelled text back
  to the text, the list that was mapped is taken apart (`List.map_eq_append_iff`, `cons_of_map`), and a mark in it
  was that mark before.

  The crux is the marks: signs, point, low line and the letters of the words are ASCII and no digits, so nothing
  outside ASCII is spelled as one of them.  A full-width plus sign stays what it is, and is no sign.
-/
import Courier.Number.Integer
import Courier.Number.Binary64
import Courier.Proofs.Basic
import Mathlib.Data.Nat.Digits.Defs

namespace Courier

namespace Numeral

/-! ## Rules

  The rules are relations between a text and what it means, one constructor for each production, over any alphabet
  of digits.  They say nothing of how a text is read: there is no longest match, no cut and no order of alternatives
  in them. -/

section Rules

-- the values of the digits of an alphabet
variable (digit? : Char → Option Nat)

/-- A run of digits with their values: at least one digit, and single low lines between two digits. -/
inductive Digits : Text → List Nat → Prop
  | last {c : Char} {d : Nat} (hd : digit? c = some d) : Digits [c] [d]
  | next {c : Char} {d : Nat} {s : Text} {ds : List Nat} (hd : digit? c = some d) (rest : Digits s ds) :
      Digits (c :: s) (d :: ds)
  | apart {c : Char} {d : Nat} {s : Text} {ds : List Nat} (hd : digit? c = some d) (rest : Digits s ds) :
      Digits (c :: '_' :: s) (d :: ds)

/-- A text behind an optional sign, and whether the sign is a minus. -/
inductive Signed : Text → Bool → Text → Prop
  | bare (s : Text) : Signed s false s
  | plus (s : Text) : Signed ('+' :: s) false s
  | minus (s : Text) : Signed ('-' :: s) true s

/-- Digits with at most one point: their values, and how many stand behind the point. -/
inductive Mantissa : Text → List Nat → Nat → Prop
  | whole {s : Text} {ds : List Nat} (hs : Digits digit? s ds) : Mantissa s ds 0
  | pointed {s : Text} {ds : List Nat} (hs : Digits digit? s ds) : Mantissa (s ++ ['.']) ds 0
  | fraction {t : Text} {es : List Nat} (ht : Digits digit? t es) : Mantissa ('.' :: t) es es.length
  | both {s t : Text} {ds es : List Nat} (hs : Digits digit? s ds) (ht : Digits digit? t es) :
      Mantissa (s ++ '.' :: t) (ds ++ es) es.length

/-- The number that digits from the left make. -/
def valueOf (ds : List Nat) : Nat := Nat.ofDigits 10 ds.reverse

/-- A number with a sign. -/
def withSign (negative : Bool) (n : Nat) : Int := if negative then -n else n

/-- Nothing, or the letter e with the digits of a power of ten that may have a sign. -/
inductive Exponent : Text → Int → Prop
  | absent : Exponent [] 0
  | present {mark : Char} {s t : Text} {negative : Bool} {ds : List Nat} (hmark : mark = 'e' ∨ mark = 'E')
      (hsign : Signed s negative t) (ht : Digits digit? t ds) : Exponent (mark :: s) (withSign negative (valueOf ds))

/-- A real number without its sign, and what it is with it: the number nearest to a decimal fraction, infinity, or no
    number. -/
inductive Unsigned (negative : Bool) : Text → Binary64 → Prop
  | decimal {m e : Text} {ds : List Nat} {places : Nat} {power : Int} (hm : Mantissa digit? m ds places)
      (he : Exponent digit? e power) :
      Unsigned negative (m ++ e) (.ofDecimal negative (valueOf ds) (power - places))
  | infinite {s : Text} (hword : s.map Char.toLower = "inf".toList ∨ s.map Char.toLower = "infinity".toList) :
      Unsigned negative s (.infinite negative)
  | notANumber {s : Text} (hword : s.map Char.toLower = "nan".toList) : Unsigned negative s .notANumber

end Rules

/-- The blanks that may stand around a number: those of ASCII, and outside ASCII all. -/
def isAround (c : Char) : Bool := isAsciiBlank c || (!isAscii c && isBlank c)

/-- **The texts of whole numbers**, of no more digits than are read. -/
def IsWhole (s : Text) (n : Int) : Prop :=
  ∃ negative t ds, Signed (trim isAround s) negative t ∧ Digits digitValue? t ds ∧ ds.length ≤ maxDigits ∧
    n = withSign negative (valueOf ds)

/-- **The texts of real numbers.** -/
def IsReal (s : Text) (x : Binary64) : Prop :=
  ∃ negative t, Signed (trim isAround s) negative t ∧ Unsigned digitValue? negative t x

/-! ## Characters in ASCII spelling

  Numbers may be written with the digits of any script.  Before anything is read, a text is spelled in ASCII: a
  decimal digit becomes the ASCII digit of its value, a blank becomes a space, and every other character outside
  ASCII is kept and stands in no number.  The facts about single characters are collected here, and they are all
  that is used of the tables of Unicode. -/

/-- The values of the ASCII digits. -/
def asciiDigit? (c : Char) : Option Nat := if c.isDigit then some (c.toNat - 48) else none

variable {c m : Char} {d : Nat}

theorem asciiDigit?_eq_some_iff : asciiDigit? c = some d ↔ c.isDigit = true ∧ c.toNat - 48 = d := by
  rw [asciiDigit?]
  cases c.isDigit <;> simp

/-- No blank outside ASCII is a digit. -/
theorem digitValue?_of_blank (hc : 127 ≤ c.toNat) (hblank : isBlank c = true) : digitValue? c = none := by
  -- the ranges of the blanks and the ten places behind every zero lie apart
  have happart : ∀ r ∈ blanks, ∀ z ∈ zeroDigits, r.2 < z ∨ z + 10 ≤ r.1 := by decide
  obtain ⟨r, hr, hin⟩ := List.any_eq_true.mp hblank
  rw [Bool.and_eq_true, decide_eq_true_iff, decide_eq_true_iff] at hin
  have hnone : (zeroDigits.find? fun z => z ≤ c.toNat && c.toNat < z + 10) = none := by
    rw [List.find?_eq_none]
    intro z hz hdigit
    rw [Bool.and_eq_true, decide_eq_true_iff, decide_eq_true_iff] at hdigit
    have hrange := happart r hr z hz
    omega
  -- of the characters below 128 only the last is in question, and that is no blank
  have hascii : ¬ c.toNat < 128 := by
    intro hlow
    have hdelete : c.toNat = 127 := by omega
    have hno : (blanks.any fun r => r.1 ≤ 127 && 127 ≤ r.2) = false := by decide
    rw [isBlank, hdelete, hno] at hblank
    exact Bool.noConfusion hblank
  rw [digitValue?, if_neg hascii, hnone]
  rfl

/-- A digit has a value below ten. -/
theorem lt_ten_of_digitValue? (hc : 127 ≤ c.toNat) (hd : digitValue? c = some d) : d < 10 := by
  rw [digitValue?] at hd
  split at hd
  · -- the last ASCII character is no digit
    split at hd
    · rename_i hdigit
      have hrange : 48 ≤ c.toNat ∧ c.toNat ≤ 57 := Char.isDigit_iff_toNat.mp hdigit
      omega
    · exact nomatch hd
  · obtain ⟨z, hz, rfl⟩ := Option.map_eq_some_iff.mp hd
    have hrange := List.find?_some hz
    rw [Bool.and_eq_true, decide_eq_true_iff, decide_eq_true_iff] at hrange
    omega

/-- What becomes of a character outside ASCII in ASCII spelling. -/
inductive Spelling (c : Char) : Char → Prop
  | blank (hblank : isBlank c = true) (hdigit : digitValue? c = none) : Spelling c ' '
  | digit {d : Nat} (hblank : isBlank c = false) (hd : d < 10) (hdigit : digitValue? c = some d) :
      Spelling c (Char.ofNat (48 + d))
  | other (hblank : isBlank c = false) (hdigit : digitValue? c = none) : Spelling c c

theorem numeralChar_of_lt (hc : c.toNat < 127) : numeralChar c = c := by
  rw [numeralChar, if_pos hc]

/-- What is spelled is what the three kinds say: the order in which they are tried does not matter, as a blank is
    no digit. -/
theorem spelling_of_le (hc : 127 ≤ c.toNat) : Spelling c (numeralChar c) := by
  rw [numeralChar, if_neg (by omega)]
  cases hblank : isBlank c with
  | true => exact .blank hblank (digitValue?_of_blank hc hblank)
  | false =>
    rw [if_neg Bool.false_ne_true]
    cases hdigit : digitValue? c with
    | none => exact .other hblank hdigit
    | some d => exact .digit hblank (lt_ten_of_digitValue? hc hdigit) hdigit

/-- The ten digits in ASCII spelling. -/
theorem asciiDigit_facts (hd : d < 10) :
    (Char.ofNat (48 + d)).isDigit = true ∧ (Char.ofNat (48 + d)).toNat = 48 + d ∧
      isAsciiBlank (Char.ofNat (48 + d)) = false := by
  have hall : ∀ d : Fin 10, (Char.ofNat (48 + d)).isDigit = true ∧ (Char.ofNat (48 + d)).toNat = 48 + d ∧
      isAsciiBlank (Char.ofNat (48 + d)) = false := by decide
  exact hall ⟨d, hd⟩

/-- A digit of any script is the ASCII digit of its value. -/
theorem asciiDigit?_spelled (c : Char) : asciiDigit? (numeralChar c) = digitValue? c := by
  rcases Nat.lt_or_ge c.toNat 127 with hc | hc
  · rw [numeralChar_of_lt hc, digitValue?, if_pos (by omega), asciiDigit?]
  · -- outside ASCII no character is an ASCII digit itself
    have hhigh : asciiDigit? c = none := by
      rw [asciiDigit?, if_neg]
      intro hdigit
      have hrange : 48 ≤ c.toNat ∧ c.toNat ≤ 57 := Char.isDigit_iff_toNat.mp hdigit
      omega
    have hspelling := spelling_of_le hc
    generalize numeralChar c = c' at hspelling
    cases hspelling with
    | blank _ hdigit =>
      rw [hdigit]
      decide
    | digit _ hd hdigit =>
      obtain ⟨hascii, hvalue, _⟩ := asciiDigit_facts hd
      rw [hdigit, asciiDigit?_eq_some_iff]
      exact ⟨hascii, by omega⟩
    | other _ hdigit => rw [hdigit, hhigh]

/-- The blanks around a number are the ASCII blanks of its spelling. -/
theorem isAsciiBlank_spelled (c : Char) : isAsciiBlank (numeralChar c) = isAround c := by
  rcases Nat.lt_or_ge c.toNat 127 with hc | hc
  · have hascii : isAscii c = true := by rw [isAscii, decide_eq_true_iff]; omega
    rw [numeralChar_of_lt hc, isAround, hascii]
    exact (Bool.or_false _).symm
  · have hlow : isAsciiBlank c = false := by
      rw [isAsciiBlank, Bool.or_eq_false_iff, Bool.and_eq_false_iff, decide_eq_false_iff_not, decide_eq_false_iff_not,
        beq_eq_false_iff_ne]
      refine ⟨by omega, ?_⟩
      rintro rfl
      exact absurd hc (by decide)
    rw [isAround, hlow, Bool.false_or]
    have hspelling := spelling_of_le hc
    generalize numeralChar c = c' at hspelling
    cases hspelling with
    | blank hblank _ =>
      -- the last ASCII character is no blank
      have hwide : isAscii c = false := by
        rw [isAscii, decide_eq_false_iff_not]
        intro hlow
        have hdelete : c = Char.ofNat 127 := by
          rw [← Char.ofNat_toNat c, show c.toNat = 127 by omega]
        rw [hdelete] at hblank
        exact absurd hblank (by decide)
      rw [hblank, hwide]
      decide
    | digit hblank hd _ => rw [(asciiDigit_facts hd).2.2, hblank, Bool.and_false]
    | other hblank _ => rw [hlow, hblank, Bool.and_false]

/-- The marks of the rules: ASCII characters that are neither a space nor a digit. -/
def isMark (m : Char) : Bool := m.toNat < 127 && m != ' ' && !m.isDigit

/-- A mark stands only for itself. -/
theorem numeralChar_eq_iff (hm : isMark m = true) : numeralChar c = m ↔ c = m := by
  rw [isMark, Bool.and_eq_true, Bool.and_eq_true, decide_eq_true_iff, bne_iff_ne, Bool.not_eq_true'] at hm
  obtain ⟨⟨hlow, hspace⟩, hdigit⟩ := hm
  constructor
  · intro hc
    rcases Nat.lt_or_ge c.toNat 127 with hlow' | hhigh
    · rwa [numeralChar_of_lt hlow'] at hc
    · have hspelling := spelling_of_le hhigh
      rw [hc] at hspelling
      cases hspelling with
      | blank _ _ => exact absurd rfl hspace
      | digit _ hd _ => exact absurd (asciiDigit_facts hd).1 (by rw [hdigit]; decide)
      | other _ _ => rfl
  · rintro rfl
    exact numeralChar_of_lt hlow

/-- Blanks are dropped around a text before it is spelled or after. -/
theorem numeralText_eq (s : Text) : numeralText s = (trim isAround s).map numeralChar := by
  have hclass : (isAsciiBlank ∘ numeralChar) = isAround := funext isAsciiBlank_spelled
  rw [numeralText, trim, trim, trimLeft, trimLeft, trimRight, trimRight, List.dropWhile_map, hclass,
    ← List.map_reverse, List.dropWhile_map, hclass, ← List.map_reverse]

/-! ## Texts in ASCII spelling

  Spelling keeps every production in both directions: a text is a number exactly when its spelling is one over the
  ASCII digits, with the same value.  A mark of the grammar stands only for itself, which is why no character of
  another script can take the part of a sign, a point or a low line. -/

variable {s t : Text} {ds : List Nat} {places : Nat} {power : Int} {negative : Bool} {x : Binary64}

/-- A text of marks is spelled with itself. -/
theorem map_eq_self_of_marks (h : ∀ c ∈ s, isMark c = true) : s.map numeralChar = s :=
  (List.map_congr_left fun c hc => (numeralChar_eq_iff (h c hc)).mpr rfl).trans (List.map_id s)

/-- A mark in front of a spelled text stood in front of the text. -/
theorem cons_of_map (hm : isMark m = true) (h : s.map numeralChar = m :: t) :
    ∃ rest, s = m :: rest ∧ rest.map numeralChar = t := by
  obtain ⟨c, rest, rfl, hc, hrest⟩ := List.map_eq_cons_iff.mp h
  exact ⟨rest, by rw [(numeralChar_eq_iff hm).mp hc], hrest⟩

theorem map_cons_mark (hm : isMark m = true) (s : Text) : (m :: s).map numeralChar = m :: s.map numeralChar := by
  rw [List.map_cons, (numeralChar_eq_iff hm).mpr rfl]

/-- Digits are digits in ASCII spelling, with the same values. -/
theorem digits_spelled : Digits asciiDigit? (s.map numeralChar) ds ↔ Digits digitValue? s ds := by
  constructor
  · intro h
    -- the induction is on the rule for the spelled text, which has to be a variable for it
    generalize hs : s.map numeralChar = t at h
    induction h generalizing s with
    | last hd =>
      obtain ⟨c, rfl, rfl⟩ := List.map_eq_singleton_iff.mp hs
      rw [asciiDigit?_spelled] at hd
      exact .last hd
    | next hd _ ih =>
      obtain ⟨c, rest, rfl, rfl, hrest⟩ := List.map_eq_cons_iff.mp hs
      rw [asciiDigit?_spelled] at hd
      exact .next hd (ih hrest)
    | apart hd _ ih =>
      obtain ⟨c, back, rfl, rfl, hback⟩ := List.map_eq_cons_iff.mp hs
      obtain ⟨rest, rfl, hrest⟩ := cons_of_map (by decide) hback
      rw [asciiDigit?_spelled] at hd
      exact .apart hd (ih hrest)
  · intro h
    induction h with
    | last hd => exact .last ((asciiDigit?_spelled _).trans hd)
    | next hd _ ih => exact .next ((asciiDigit?_spelled _).trans hd) ih
    | apart hd _ ih =>
      rw [List.map_cons, map_cons_mark (by decide)]
      exact .apart ((asciiDigit?_spelled _).trans hd) ih

/-- A text with a sign is one in ASCII spelling, and what follows the sign is spelled. -/
theorem signed_spelled {t' : Text} :
    Signed (s.map numeralChar) negative t' ↔ ∃ t, Signed s negative t ∧ t.map numeralChar = t' := by
  constructor
  · intro h
    generalize hs : s.map numeralChar = s' at h
    cases h with
    | bare => exact ⟨s, .bare s, hs⟩
    | plus =>
      obtain ⟨rest, rfl, hrest⟩ := cons_of_map (by decide) hs
      exact ⟨rest, .plus rest, hrest⟩
    | minus =>
      obtain ⟨rest, rfl, hrest⟩ := cons_of_map (by decide) hs
      exact ⟨rest, .minus rest, hrest⟩
  · rintro ⟨t, h, rfl⟩
    cases h with
    | bare => exact .bare _
    | plus =>
      rw [map_cons_mark (by decide)]
      exact .plus _
    | minus =>
      rw [map_cons_mark (by decide)]
      exact .minus _

/-- Digits with a point are such in ASCII spelling, with as many behind the point. -/
theorem mantissa_spelled :
    Mantissa asciiDigit? (s.map numeralChar) ds places ↔ Mantissa digitValue? s ds places := by
  constructor
  · intro h
    generalize hs : s.map numeralChar = s' at h
    cases h with
    | whole hdigits =>
      rw [← hs, digits_spelled] at hdigits
      exact .whole hdigits
    | pointed hdigits =>
      obtain ⟨front, back, rfl, rfl, hback⟩ := List.map_eq_append_iff.mp hs
      obtain ⟨rest, rfl, hrest⟩ := cons_of_map (by decide) hback
      rw [List.map_eq_nil_iff] at hrest
      rw [hrest]
      exact .pointed (digits_spelled.mp hdigits)
    | fraction hdigits =>
      obtain ⟨rest, rfl, rfl⟩ := cons_of_map (by decide) hs
      exact .fraction (digits_spelled.mp hdigits)
    | both hfront hback =>
      obtain ⟨front, back, rfl, rfl, hrest⟩ := List.map_eq_append_iff.mp hs
      obtain ⟨rest, rfl, rfl⟩ := cons_of_map (by decide) hrest
      exact .both (digits_spelled.mp hfront) (digits_spelled.mp hback)
  · intro h
    cases h with
    | whole hdigits => exact .whole (digits_spelled.mpr hdigits)
    | pointed hdigits =>
      rw [List.map_append, map_cons_mark (by decide)]
      exact .pointed (digits_spelled.mpr hdigits)
    | fraction hdigits =>
      rw [map_cons_mark (by decide)]
      exact .fraction (digits_spelled.mpr hdigits)
    | both hfront hback =>
      rw [List.map_append, map_cons_mark (by decide)]
      exact .both (digits_spelled.mpr hfront) (digits_spelled.mpr hback)

theorem isMark_of_exponent {mark : Char} (h : mark = 'e' ∨ mark = 'E') : isMark mark = true := by
  rcases h with rfl | rfl
  · decide
  · decide

/-- An exponent is one in ASCII spelling. -/
theorem exponent_spelled : Exponent asciiDigit? (s.map numeralChar) power ↔ Exponent digitValue? s power := by
  constructor
  · intro h
    generalize hs : s.map numeralChar = s' at h
    cases h with
    | absent =>
      rw [List.map_eq_nil_iff.mp hs]
      exact .absent
    | present hmark hsign hdigits =>
      obtain ⟨rest, rfl, rfl⟩ := cons_of_map (isMark_of_exponent hmark) hs
      obtain ⟨t, hsigned, rfl⟩ := signed_spelled.mp hsign
      exact .present hmark hsigned (digits_spelled.mp hdigits)
  · intro h
    cases h with
    | absent => exact .absent
    | present hmark hsign hdigits =>
      rw [map_cons_mark (isMark_of_exponent hmark)]
      exact .present hmark (signed_spelled.mpr ⟨_, hsign, rfl⟩) (digits_spelled.mpr hdigits)

/-- The words are spelled with themselves. -/
theorem word_spelled {word : Text} (hword : ∀ m ∈ word, isMark m = true) :
    (s.map numeralChar).map Char.toLower = word ↔ s.map Char.toLower = word := by
  -- lower case makes a mark of nothing else: outside ASCII a character keeps the case that it has
  have hlower : ∀ m : Char, isMark m.toLower = true → isMark m = true := by
    intro m hm
    by_cases hascii : m.toNat < 128
    · revert hm
      exact ascii_forall m hascii (by decide +kernel)
    · rwa [toLower_of_not_ascii (by omega)] at hm
  have hmarks {u : Text} (hu : u.map Char.toLower = word) : ∀ m ∈ u, isMark m = true := by
    intro m hm
    exact hlower m (hword _ (hu ▸ List.mem_map_of_mem hm))
  constructor
  · intro h
    -- the spelled text is made of marks, and a character that is spelled as a mark is that mark
    have hself : s.map numeralChar = s := by
      refine (List.map_congr_left fun c hc => ?_).trans (List.map_id s)
      exact ((numeralChar_eq_iff (hmarks h _ (List.mem_map_of_mem hc))).mp rfl).symm
    rwa [hself] at h
  · intro h
    rwa [map_eq_self_of_marks (hmarks h)]

/-- **A real number is spelled like any other, over the ASCII digits.** -/
theorem unsigned_spelled :
    Unsigned asciiDigit? negative (s.map numeralChar) x ↔ Unsigned digitValue? negative s x := by
  have hinf : ∀ m ∈ "inf".toList, isMark m = true := List.all_eq_true.mp (by decide)
  have hinfinity : ∀ m ∈ "infinity".toList, isMark m = true := List.all_eq_true.mp (by decide)
  have hnan : ∀ m ∈ "nan".toList, isMark m = true := List.all_eq_true.mp (by decide)
  constructor
  · intro h
    generalize hs : s.map numeralChar = s' at h
    cases h with
    | decimal hm he =>
      obtain ⟨front, back, rfl, rfl, rfl⟩ := List.map_eq_append_iff.mp hs
      exact .decimal (mantissa_spelled.mp hm) (exponent_spelled.mp he)
    | infinite hword =>
      rw [← hs, word_spelled hinf, word_spelled hinfinity] at hword
      exact .infinite hword
    | notANumber hword =>
      rw [← hs, word_spelled hnan] at hword
      exact .notANumber hword
  · intro h
    cases h with
    | decimal hm he =>
      rw [List.map_append]
      exact .decimal (mantissa_spelled.mpr hm) (exponent_spelled.mpr he)
    | infinite hword => exact .infinite (by rwa [word_spelled hinf, word_spelled hinfinity])
    | notANumber hword => exact .notANumber (by rwa [word_spelled hnan])

end Numeral

end Courier
