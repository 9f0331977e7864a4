/-
  What readers of numbers accept, and what they make of it.

  A text is read as a whole number exactly if it is one by the grammar, and as the number that the grammar gives it
  (`readInteger?_eq_some_iff`); so is a real number (`Binary64.read?_eq_some_iff`).

  Both readers look at the text in ASCII spelling, where the grammar is the same over fewer digits
  (`Numeral.isWhole_iff`, `Numeral.isReal_iff`).  From there the two part.

  A whole number keeps its low lines until the end: behind its sign stand groups, and groups are digits of the
  grammar.  Its proof is a composition of what the two modules before this one say.

  A real number loses its low lines first.  So its proof goes through a text without them, where everything is
  simpler: digits are a run of ASCII digits, and a mantissa is two runs with a point between them or a single run
  (`Numeral.mantissa_iff_of_notMem`).  The reader takes the first run, looks for a point, takes the second run, and
  looks at what is left, all by `takeWhile` and `dropWhile`.  `Parted` says what these cuts have in common with the
  grammar: two runs of digits, and a rest that does not begin with a digit.  A text has one such cut
  (`exists_parted`), what is read depends on it alone (`Parted.readFinite?_eq`), and the grammar cuts in the same
  places (`parted_append`), because an exponent begins with a letter and so stops the digits.

  The crux is that the grammar may be ambiguous and the reader is not.  Two things keep the words `inf` and `nan`
  apart from digits and the sign from what follows it: the first character decides (`Mantissa.head`,
  `Unsigned.head`).

  The refusals are the same statements read the other way (`readInteger?_eq_none_iff`,
  `Binary64.read?_eq_none_iff`).
-/
import Courier.Proofs.Number.Digits

namespace Courier

namespace Numeral

variable {s t : Text} {ds : List Nat} {places : Nat} {power : Int} {negative : Bool} {x : Binary64}

/-! ## Signs

  The reader takes a sign off if there is one, and the grammar lets a text have one.  The two agree because digits
  do not begin with a sign. -/

theorem signed_takeSign (s : Text) : Signed s (takeSign s).1 (takeSign s).2 := by
  rw [takeSign.eq_def]
  split
  · exact .minus _
  · exact .plus _
  · exact .bare _

/-- Behind a sign stands nothing that did not stand in the text. -/
theorem Signed.notMem {c : Char} (h : Signed s negative t) (hs : c ∉ s) : c ∉ t := by
  cases h with
  | bare => exact hs
  | plus => exact fun hmem => hs (List.mem_cons_of_mem _ hmem)
  | minus => exact fun hmem => hs (List.mem_cons_of_mem _ hmem)

/-- A text that begins with no sign is what follows one sign at most. -/
theorem takeSign_of_signed (ht : ∀ c ∈ t.head?, c ≠ '+' ∧ c ≠ '-') (h : Signed s negative t) :
    takeSign s = (negative, t) := by
  cases h with
  | bare =>
    rw [takeSign.eq_def]
    -- the text begins with what follows the sign, so the sign that would be taken is none
    split
    · exact absurd rfl (ht '-' rfl).2
    · exact absurd rfl (ht '+' rfl).1
    · rfl
  | plus => rfl
  | minus => rfl

/-- Before digits the sign that is taken is the one of the grammar, which leaves no choice. -/
theorem Digits.takeSign (hdigits : Digits asciiDigit? t ds) (h : Signed s negative t) :
    Courier.takeSign s = (negative, t) := by
  obtain ⟨c, rest, rfl, hc⟩ := hdigits.head
  refine takeSign_of_signed (fun d hd => ?_) h
  obtain rfl := Option.some.inj hd
  exact ⟨ne_of_isDigit hc (by decide), ne_of_isDigit hc (by decide)⟩

/-! ## Whole numbers

  Spelling, the sign and the groups are put together.  The bound on the number of digits is part of the grammar and
  of the reader alike, and it counts digits and not characters: a text with low lines between its digits may be
  longer. -/

/-- The grammar of whole numbers in ASCII spelling. -/
theorem isWhole_iff {n : Int} :
    IsWhole s n ↔ ∃ negative t ds, Signed (numeralText s) negative t ∧ Digits asciiDigit? t ds ∧
      ds.length ≤ maxDigits ∧ n = withSign negative (valueOf ds) := by
  rw [numeralText_eq]
  constructor
  · rintro ⟨negative, t, ds, hsigned, hdigits, hlimit, hn⟩
    exact ⟨negative, _, ds, signed_spelled.mpr ⟨t, hsigned, rfl⟩, digits_spelled.mpr hdigits, hlimit, hn⟩
  · rintro ⟨negative, _, ds, hspelled, hdigits, hlimit, hn⟩
    obtain ⟨t, hsigned, rfl⟩ := signed_spelled.mp hspelled
    exact ⟨negative, t, ds, hsigned, digits_spelled.mp hdigits, hlimit, hn⟩

end Numeral

open Numeral in
theorem readInteger?_eq (s : Text) :
    readInteger? s = (groupedDigits? (takeSign (numeralText s)).2).bind fun digits =>
      if digits.length ≤ maxDigits then some (withSign (takeSign (numeralText s)).1 (decimalValue digits)) else none := by
  rw [readInteger?]
  rcases takeSign (numeralText s) with ⟨negative, body⟩
  dsimp only
  cases groupedDigits? body with
  | none => rfl
  | some digits => rfl

open Numeral in
/-- **A whole number is read exactly where the grammar has one.** -/
theorem readInteger?_eq_some_iff {s : Text} {n : Int} : readInteger? s = some n ↔ IsWhole s n := by
  rw [isWhole_iff, readInteger?_eq, Option.bind_eq_some_iff]
  constructor
  · rintro ⟨digits, hdigits, h⟩
    obtain ⟨hlimit, hn⟩ := Option.ite_none_right_eq_some.mp h
    refine ⟨_, _, values digits, signed_takeSign _, digits_iff_grouped.mpr ⟨digits, hdigits, rfl⟩, ?_, ?_⟩
    · rwa [length_values]
    · rw [valueOf_values]
      exact (Option.some.inj hn).symm
  · rintro ⟨negative, t, ds, hsigned, hdigits, hlimit, rfl⟩
    obtain ⟨digits, hgroups, rfl⟩ := digits_iff_grouped.mp hdigits
    rw [length_values] at hlimit
    refine ⟨digits, ?_, ?_⟩
    · rw [hdigits.takeSign hsigned, hgroups]
    · rw [hdigits.takeSign hsigned, if_pos hlimit, valueOf_values]

/-- A whole number is refused exactly where the grammar has none. -/
theorem readInteger?_eq_none_iff {s : Text} : readInteger? s = none ↔ ¬ ∃ n, Numeral.IsWhole s n := by
  simp only [Option.eq_none_iff_forall_ne_some, ← readInteger?_eq_some_iff, not_exists]

namespace Numeral

/-! ## Real numbers without low lines

  The reader takes as many digits as it can, then a point and as many digits as it can again, and what is left has
  to be an exponent or nothing.  `Parted` is this cut of a text, and its two uses are the two directions: every text
  has one, and a text that the grammar reads is cut at the same places, since what follows a mantissa begins with no
  digit. -/

/-- Where no low line stands, a mantissa is digits with a point between them or with none. -/
theorem mantissa_iff_of_notMem (h : '_' ∉ s) :
    Mantissa asciiDigit? s ds places ↔ ∃ whole fraction, IsGroup (whole ++ fraction) ∧ values (whole ++ fraction) = ds ∧
      fraction.length = places ∧ (s = whole ++ '.' :: fraction ∨ fraction = [] ∧ s = whole) := by
  constructor
  · intro hs
    cases hs with
    | whole hdigits =>
      obtain ⟨hgroup, rfl⟩ := (digits_iff_of_notMem h).mp hdigits
      exact ⟨s, [], by rwa [List.append_nil], by rw [List.append_nil], rfl, Or.inr ⟨rfl, rfl⟩⟩
    | @pointed front _ hdigits =>
      obtain ⟨hgroup, rfl⟩ := (digits_iff_of_notMem (fun hmem => h (List.mem_append_left _ hmem))).mp hdigits
      exact ⟨front, [], by rwa [List.append_nil], by rw [List.append_nil], rfl, Or.inl rfl⟩
    | @fraction back _ hdigits =>
      obtain ⟨hgroup, rfl⟩ := (digits_iff_of_notMem (fun hmem => h (List.mem_cons_of_mem _ hmem))).mp hdigits
      exact ⟨[], back, hgroup, rfl, (length_values back).symm, Or.inl rfl⟩
    | @both front back _ _ hfront hback =>
      obtain ⟨hfrontGroup, rfl⟩ := (digits_iff_of_notMem (fun hmem => h (List.mem_append_left _ hmem))).mp hfront
      have hbackMark : '_' ∉ back := fun hmem => h (List.mem_append_right _ (List.mem_cons_of_mem _ hmem))
      obtain ⟨hbackGroup, rfl⟩ := (digits_iff_of_notMem hbackMark).mp hback
      refine ⟨front, back, ⟨?_, ?_⟩, values_append .., (length_values back).symm, Or.inl rfl⟩
      · exact List.append_ne_nil_of_left_ne_nil hfrontGroup.1 back
      · exact List.forall_mem_append.mpr ⟨hfrontGroup.2, hbackGroup.2⟩
  · -- which rule it is depends on which of the two runs are empty
    rintro ⟨whole, fraction, ⟨hne, hall⟩, rfl, rfl, rfl | ⟨rfl, rfl⟩⟩
    · obtain ⟨hwhole, hfraction⟩ := List.forall_mem_append.mp hall
      cases hw : whole with
      | nil =>
        rw [hw, List.nil_append] at hne
        rw [← length_values]
        exact .fraction (digits_of_isGroup ⟨hne, hfraction⟩)
      | cons c front =>
        rw [← hw]
        have hdigits := digits_of_isGroup ⟨hw ▸ List.cons_ne_nil c front, hwhole⟩
        cases hf : fraction with
        | nil =>
          rw [List.append_nil]
          exact .pointed hdigits
        | cons d back =>
          rw [← hf, values_append, ← length_values]
          exact .both hdigits (digits_of_isGroup ⟨hf ▸ List.cons_ne_nil d back, hfraction⟩)
    · rw [List.append_nil] at hne hall ⊢
      exact .whole (digits_of_isGroup ⟨hne, hall⟩)

/-- What is read behind the digits and the point. -/
def readPower? : Text → Option Int
  | [] => some 0
  | c :: s => if c = 'e' ∨ c = 'E' then Binary64.readExponent? s else none

theorem readExponent?_eq (s : Text) :
    Binary64.readExponent? s =
      if (takeSign s).2.isEmpty || !(takeSign s).2.all Char.isDigit then none
      else some (withSign (takeSign s).1 (decimalValue (takeSign s).2)) := rfl

/-- An exponent behind its letter is a sign and digits. -/
theorem readExponent?_eq_some_iff (h : '_' ∉ s) {k : Int} :
    Binary64.readExponent? s = some k ↔
      ∃ negative t ds, Signed s negative t ∧ Digits asciiDigit? t ds ∧ k = withSign negative (valueOf ds) := by
  have hgroup (t : Text) : ¬ (t.isEmpty || !t.all Char.isDigit) = true ↔ IsGroup t := by
    rw [IsGroup, Bool.or_eq_true, List.isEmpty_iff, Bool.not_eq_true', ← Bool.not_eq_true, List.all_eq_true,
      not_or, not_not]
  rw [readExponent?_eq, Option.ite_none_left_eq_some, hgroup, Option.some_inj]
  constructor
  · rintro ⟨hdigits, rfl⟩
    refine ⟨_, _, _, signed_takeSign s, digits_of_isGroup hdigits, ?_⟩
    rw [valueOf_values]
  · rintro ⟨negative, t, ds, hsigned, hdigits, rfl⟩
    rw [hdigits.takeSign hsigned]
    obtain ⟨hall, rfl⟩ := (digits_iff_of_notMem (hsigned.notMem h)).mp hdigits
    exact ⟨hall, by rw [valueOf_values]⟩

/-- What is read behind the digits and the point is the exponent of the grammar. -/
theorem readPower?_eq_some_iff (h : '_' ∉ s) : readPower? s = some power ↔ Exponent asciiDigit? s power := by
  cases s with
  | nil =>
    constructor
    · intro hread
      obtain rfl := Option.some.inj hread
      exact .absent
    · intro hpower
      cases hpower with
      | absent => rfl
  | cons c rest =>
    have hrest : '_' ∉ rest := fun hmem => h (List.mem_cons_of_mem _ hmem)
    rw [readPower?, Option.ite_none_right_eq_some, readExponent?_eq_some_iff hrest]
    constructor
    · rintro ⟨hmark, negative, t, ds, hsigned, hdigits, rfl⟩
      exact .present hmark hsigned hdigits
    · intro hpower
      cases hpower with
      | present hmark hsigned hdigits => exact ⟨hmark, _, _, _, hsigned, hdigits, rfl⟩

/-- A text cut behind its first digits, and if a point follows them behind the digits after it. -/
structure Parted (s whole fraction rest : Text) : Prop where
  digits : ∀ c ∈ whole ++ fraction, c.isDigit = true
  stops : ∀ c ∈ rest.head?, c.isDigit = false
  parts : s = whole ++ '.' :: (fraction ++ rest) ∨ fraction = [] ∧ s = whole ++ rest ∧ '.' ∉ rest.head?

theorem stops_dropWhile (s : Text) : ∀ c ∈ (s.dropWhile Char.isDigit).head?, c.isDigit = false := by
  intro c hc
  have hstop := List.head?_dropWhile_not Char.isDigit s
  rw [Option.mem_def.mp hc] at hstop
  exact hstop

theorem forall_takeWhile (s : Text) : ∀ c ∈ s.takeWhile Char.isDigit, c.isDigit = true :=
  fun _ hc => List.mem_takeWhile_imp hc

/-- Digits before anything else are all that is taken. -/
theorem span_append {front : Text} (hfront : ∀ c ∈ front, c.isDigit = true) (ht : ∀ c ∈ t.head?, c.isDigit = false) :
    (front ++ t).takeWhile Char.isDigit = front ∧ (front ++ t).dropWhile Char.isDigit = t := by
  rw [List.takeWhile_append_of_pos hfront, List.dropWhile_append_of_pos hfront]
  cases t with
  | nil => exact ⟨List.append_nil front, rfl⟩
  | cons c rest =>
    have hc : ¬ c.isDigit = true := by
      rw [ht c rfl]
      exact Bool.false_ne_true
    rw [List.takeWhile_cons_of_neg hc, List.dropWhile_cons_of_neg hc]
    exact ⟨List.append_nil front, rfl⟩

/-- A text has such a cut: at the end of its first digits, or of the digits behind the point that follows them. -/
theorem exists_parted (s : Text) : ∃ whole fraction rest, Parted s whole fraction rest := by
  have hs : s = s.takeWhile Char.isDigit ++ s.dropWhile Char.isDigit := List.takeWhile_append_dropWhile.symm
  have hstops := stops_dropWhile s
  have hwhole := forall_takeWhile s
  generalize s.takeWhile Char.isDigit = whole at hs hwhole
  generalize s.dropWhile Char.isDigit = rest at hs hstops
  -- with no point behind the first digits the second run is empty
  by_cases hpoint : '.' ∈ rest.head?
  · obtain ⟨back, rfl⟩ := List.head?_eq_some_iff.mp hpoint
    have hback : back = back.takeWhile Char.isDigit ++ back.dropWhile Char.isDigit :=
      List.takeWhile_append_dropWhile.symm
    exact ⟨whole, _, _, List.forall_mem_append.mpr ⟨hwhole, forall_takeWhile back⟩, stops_dropWhile back,
      Or.inl (by rw [← hback, hs])⟩
  · exact ⟨whole, [], rest, by rwa [List.append_nil], hstops, Or.inr ⟨rfl, hs, hpoint⟩⟩

/-- What is read behind the digits makes the number. -/
theorem map_readPower? (value : Int → Binary64) (rest : Text) :
    (readPower? rest).map value = match rest with
      | [] => some (value 0)
      | c :: r => if c = 'e' ∨ c = 'E' then (Binary64.readExponent? r).map value else none := by
  cases rest with
  | nil => rfl
  | cons c r =>
    rw [readPower?]
    by_cases hmark : c = 'e' ∨ c = 'E'
    · rw [if_pos hmark]
      exact (if_pos hmark).symm
    · rw [if_neg hmark]
      exact (if_neg hmark).symm

/-- What is read of a text that is cut. -/
theorem Parted.readFinite?_eq {whole fraction rest : Text} (h : Parted s whole fraction rest) (negative : Bool) :
    Binary64.readFinite? negative s =
      if whole.isEmpty && fraction.isEmpty then none
      else (readPower? rest).map fun power =>
        .ofDecimal negative (decimalValue (whole ++ fraction)) (power - fraction.length) := by
  obtain ⟨hwhole, hfraction⟩ := List.forall_mem_append.mp h.digits
  rw [Binary64.readFinite?, map_readPower?]
  -- the two cuts of the reader fall where the parts meet
  rcases h.parts with rfl | ⟨rfl, rfl, hpoint⟩
  · have hstop : ∀ c ∈ ('.' :: (fraction ++ rest)).head?, c.isDigit = false := by
      intro c hc
      obtain rfl := Option.some.inj hc
      decide
    obtain ⟨htake, hdrop⟩ := span_append hwhole hstop
    obtain ⟨htake', hdrop'⟩ := span_append hfraction h.stops
    rw [htake, hdrop]
    dsimp only
    split
    · rename_i back hback
      obtain ⟨_, rfl⟩ := List.cons.inj hback
      rw [htake', hdrop']
      rfl
    · rename_i hpoint
      exact absurd rfl (hpoint _)
  · obtain ⟨htake, hdrop⟩ := span_append hwhole h.stops
    rw [htake, hdrop]
    dsimp only
    split
    · exact absurd rfl hpoint
    · rfl

/-- An exponent that is there begins with its letter. -/
theorem Exponent.head (h : Exponent asciiDigit? s power) : ∀ c ∈ s.head?, c = 'e' ∨ c = 'E' := by
  intro c hc
  cases h with
  | absent => exact nomatch hc
  | present hmark _ _ =>
    obtain rfl := Option.some.inj hc
    exact hmark

/-- The grammar cuts a text where its digits end. -/
theorem parted_append {m whole fraction : Text} (hdigits : ∀ c ∈ whole ++ fraction, c.isDigit = true)
    (hm : m = whole ++ '.' :: fraction ∨ fraction = [] ∧ m = whole) (h : Exponent asciiDigit? s power) :
    Parted (m ++ s) whole fraction s := by
  have hhead := h.head
  refine ⟨hdigits, fun c hc => (exponentMark_facts (hhead c hc)).1, ?_⟩
  rcases hm with rfl | ⟨rfl, rfl⟩
  · exact Or.inl (by rw [List.append_assoc, List.cons_append])
  · refine Or.inr ⟨rfl, rfl, fun hpoint => ?_⟩
    exact absurd (hhead _ hpoint) (by decide)

/-- A number without low lines is read as its mantissa and its exponent say. -/
theorem readFinite?_eq_some_iff (h : '_' ∉ s) :
    Binary64.readFinite? negative s = some x ↔
      ∃ m e ds places power, s = m ++ e ∧ Mantissa asciiDigit? m ds places ∧ Exponent asciiDigit? e power ∧
        x = .ofDecimal negative (valueOf ds) (power - places) := by
  constructor
  · -- from the cut to the grammar: the runs and the point are the mantissa, the rest is the exponent
    intro hread
    obtain ⟨whole, fraction, rest, hparted⟩ := exists_parted s
    rw [hparted.readFinite?_eq, Option.ite_none_left_eq_some, Option.map_eq_some_iff] at hread
    obtain ⟨hne, power, hpower, hx⟩ := hread
    have hgroup : IsGroup (whole ++ fraction) := by
      refine ⟨fun hnil => hne ?_, hparted.digits⟩
      obtain ⟨rfl, rfl⟩ := List.append_eq_nil_iff.mp hnil
      rfl
    obtain ⟨m, rfl, hm⟩ : ∃ m, s = m ++ rest ∧ (m = whole ++ '.' :: fraction ∨ fraction = [] ∧ m = whole) := by
      rcases hparted.parts with hs | ⟨hfraction, hs, _⟩
      · exact ⟨_, by rw [hs, List.append_assoc, List.cons_append], Or.inl rfl⟩
      · exact ⟨whole, hs, Or.inr ⟨hfraction, rfl⟩⟩
    have hmark : '_' ∉ m := fun hmem => h (List.mem_append_left _ hmem)
    have hmark' : '_' ∉ rest := fun hmem => h (List.mem_append_right _ hmem)
    refine ⟨m, rest, _, _, power, rfl, (mantissa_iff_of_notMem hmark).mpr ⟨whole, fraction, hgroup, rfl, rfl, hm⟩,
      (readPower?_eq_some_iff hmark').mp hpower, ?_⟩
    rw [valueOf_values]
    exact hx.symm
  · -- from the grammar to the cut, which is the one that the reader makes
    rintro ⟨m, e, ds, places, power, rfl, hmantissa, he, rfl⟩
    have hmark : '_' ∉ m := fun hmem => h (List.mem_append_left _ hmem)
    have hmark' : '_' ∉ e := fun hmem => h (List.mem_append_right _ hmem)
    obtain ⟨whole, fraction, hgroup, rfl, rfl, hm⟩ := (mantissa_iff_of_notMem hmark).mp hmantissa
    have hne : ¬ (whole.isEmpty && fraction.isEmpty) = true := by
      intro hnil
      rw [Bool.and_eq_true, List.isEmpty_iff, List.isEmpty_iff] at hnil
      exact hgroup.1 (List.append_eq_nil_iff.mpr hnil)
    rw [(parted_append hgroup.2 hm he).readFinite?_eq, if_neg hne, (readPower?_eq_some_iff hmark').mpr he,
      valueOf_values]
    rfl

/-! ## Real numbers

  Signs, words and low lines come on top.  A word is told from a number by its first letter, so the order in which
  the reader tries them does not matter. -/

/-- What is read of a number behind its sign. -/
def readUnsigned? (negative : Bool) (s : Text) : Option Binary64 :=
  let word := s.map Char.toLower
  if word = "inf".toList ∨ word = "infinity".toList then some (.infinite negative)
  else if word = "nan".toList then some .notANumber
  else Binary64.readFinite? negative s

/-- A mantissa begins with a digit or with a point. -/
theorem Mantissa.head (h : Mantissa asciiDigit? s ds places) :
    ∃ c rest, s = c :: rest ∧ (c.isDigit = true ∨ c = '.') := by
  cases h with
  | whole hdigits =>
    obtain ⟨c, rest, rfl, hc⟩ := hdigits.head
    exact ⟨c, rest, rfl, Or.inl hc⟩
  | pointed hdigits =>
    obtain ⟨c, rest, rfl, hc⟩ := hdigits.head
    exact ⟨c, _, rfl, Or.inl hc⟩
  | fraction _ => exact ⟨'.', _, rfl, Or.inr rfl⟩
  | both hdigits _ =>
    obtain ⟨c, rest, rfl, hc⟩ := hdigits.head
    exact ⟨c, _, rfl, Or.inl hc⟩

/-- No word begins as a mantissa does. -/
theorem toLower_ne {c : Char} (hc : c.isDigit = true ∨ c = '.') : c.toLower ≠ 'i' ∧ c.toLower ≠ 'n' := by
  rcases hc with hc | rfl
  · rw [toLower_of_isDigit hc]
    exact ⟨ne_of_isDigit hc (by decide), ne_of_isDigit hc (by decide)⟩
  · decide

/-- Behind its sign a number without low lines is read as the grammar says. -/
theorem readUnsigned?_eq_some_iff (h : '_' ∉ s) :
    readUnsigned? negative s = some x ↔ Unsigned asciiDigit? negative s x := by
  rw [readUnsigned?]
  constructor
  · intro hread
    split at hread
    · rename_i hword
      obtain rfl := Option.some.inj hread
      exact .infinite hword
    · split at hread
      · rename_i hword
        obtain rfl := Option.some.inj hread
        exact .notANumber hword
      · obtain ⟨m, e, ds, places, power, rfl, hm, he, rfl⟩ := (readFinite?_eq_some_iff h).mp hread
        exact .decimal hm he
  · intro hunsigned
    cases hunsigned with
    | @decimal _ e _ _ _ hm he =>
      obtain ⟨c, rest, rfl, hc⟩ := hm.head
      obtain ⟨hi, hn⟩ := toLower_ne hc
      -- the words are tried first, so a number in digits must not look like one
      have hword {d : Char} {word : Text} (hd : c.toLower ≠ d) : (c :: rest ++ e).map Char.toLower ≠ d :: word :=
        fun heq => hd (List.cons.inj heq).1
      rw [if_neg (fun h => h.elim (hword hi) (hword hi)), if_neg (show _ ≠ "nan".toList from hword hn)]
      exact (readFinite?_eq_some_iff h).mpr ⟨_, _, _, _, _, rfl, hm, he, rfl⟩
    | infinite hword => rw [if_pos hword]
    | notANumber hword =>
      rw [hword, if_neg (by decide), if_pos rfl]

/-- No number begins with a sign behind its sign. -/
theorem Unsigned.head (h : Unsigned asciiDigit? negative s x) : ∀ c ∈ s.head?, c ≠ '+' ∧ c ≠ '-' := by
  intro c hc
  obtain ⟨rest, rfl⟩ := List.head?_eq_some_iff.mp hc
  -- a word begins with a letter, in either case
  have hword {d : Char} {word : Text} (hd : d ≠ '+' ∧ d ≠ '-') (h : (c :: rest).map Char.toLower = d :: word) :
      c ≠ '+' ∧ c ≠ '-' := by
    obtain ⟨rfl, _⟩ := List.cons.inj h
    constructor
    · rintro rfl
      exact absurd rfl hd.1
    · rintro rfl
      exact absurd rfl hd.2
  generalize hs : c :: rest = s at h
  cases h with
  | decimal hm _ =>
    obtain ⟨d, front, rfl, hd⟩ := hm.head
    obtain ⟨rfl, _⟩ := List.cons.inj hs
    rcases hd with hd | rfl
    · exact ⟨ne_of_isDigit hd (by decide), ne_of_isDigit hd (by decide)⟩
    · decide
  | infinite h =>
    rw [← hs] at h
    exact h.elim (hword (by decide)) (hword (by decide))
  | notANumber h =>
    rw [← hs] at h
    exact hword (by decide) h

/-- The grammar of real numbers in ASCII spelling. -/
theorem isReal_iff :
    IsReal s x ↔ ∃ negative t, Signed (numeralText s) negative t ∧ Unsigned asciiDigit? negative t x := by
  rw [numeralText_eq]
  constructor
  · rintro ⟨negative, t, hsigned, h⟩
    exact ⟨negative, _, signed_spelled.mpr ⟨t, hsigned, rfl⟩, unsigned_spelled.mpr h⟩
  · rintro ⟨negative, _, hspelled, h⟩
    obtain ⟨t, hsigned, rfl⟩ := signed_spelled.mp hspelled
    exact ⟨negative, t, hsigned, unsigned_spelled.mp h⟩

end Numeral

open Numeral in
theorem Binary64.read?_eq (s : Text) :
    read? s = (dropLowLines? (numeralText s)).bind fun t => readUnsigned? (takeSign t).1 (takeSign t).2 := by
  rw [read?]
  cases dropLowLines? (numeralText s) with
  | none => rfl
  | some t => rfl

open Numeral in
/-- **A real number is read exactly where the grammar has one.** -/
theorem Binary64.read?_eq_some_iff {s : Text} {x : Binary64} : read? s = some x ↔ IsReal s x := by
  rw [isReal_iff, read?_eq, Option.bind_eq_some_iff]
  constructor
  · rintro ⟨t, ht, h⟩
    -- the text that is read has no low lines; they are put back behind the sign and then in the number
    have hunscored := dropLowLines?_eq_some_iff.mp ht
    have hsigned := signed_takeSign t
    obtain ⟨v, hv, hunscored'⟩ := signed_unscored.mp ⟨t, hunscored, hsigned⟩
    have hunsigned := (readUnsigned?_eq_some_iff (hsigned.notMem hunscored.notMem)).mp h
    exact ⟨_, v, hv, unsigned_unscored.mp ⟨_, hunscored', hunsigned⟩⟩
  · rintro ⟨negative, v, hv, hunsigned⟩
    -- the low lines of the number are dropped, and those of the whole text are the same ones
    obtain ⟨u, hu, hunsigned⟩ := unsigned_unscored.mpr hunsigned
    obtain ⟨t, ht, hsigned⟩ := signed_unscored.mpr ⟨v, hv, hu⟩
    refine ⟨t, dropLowLines?_eq_some_iff.mpr ht, ?_⟩
    rw [takeSign_of_signed hunsigned.head hsigned]
    exact (readUnsigned?_eq_some_iff hu.notMem).mpr hunsigned

/-- A real number is refused exactly where the grammar has none. -/
theorem Binary64.read?_eq_none_iff {s : Text} : read? s = none ↔ ¬ ∃ x, Numeral.IsReal s x := by
  simp only [Option.eq_none_iff_forall_ne_some, ← read?_eq_some_iff, not_exists]

end Courier
