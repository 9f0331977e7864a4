/-
  Digits, and the low lines between them.

  Two readers drop low lines, each in its own way: the one of whole numbers wants every group between two of them to
  be digits (`groupedDigits?`), the one of real numbers looks at the two characters around each, before it knows
  what the text is (`Binary64.dropLowLines?`).  Both ways lead to the digits of the grammar: the groups are its
  digits (`Numeral.digits_iff_grouped`), and a text that keeps its low lines is a number exactly if the text without
  them is one (`Numeral.digits_unscored`, `Numeral.signed_unscored`, `Numeral.unsigned_unscored`).

  The plan has three steps.

  1. Groups.  `Digits asciiDigit? s ds` goes by its own constructors: a last digit, a digit and more, a digit and a
  low line and more.  Cutting at low lines follows the same three cases, since a digit is no low line: the first two
  put a character in front of the first group, and the third begins a new group (`groups_of_digits`).

  2. The relation `Unscored s t` says that `t` is `s` without its low lines, and that each of these stood between
  two digits.  It is stated by constructors, so that it can be gone through together with the grammar, and it knows
  nothing of groups.  `dropLowLines?_eq_some_iff` is the one place where it meets the program, which cuts the text
  at low lines and compares the ends of neighbouring groups (`meet`).

  3. Every production of the grammar is unscored: there is a reading of `s` just when there is one of some `t` with
  `Unscored s t`.  From right to left a text without low lines is built; from left to right they are put back, and
  what makes this possible is that no mark of a number but the low line stands between digits.  So a text is split
  at its point, or at its `e`, before low lines are dropped or after, all the same (`Unscored.split`).

  The crux is the last remark.  A low line next to a point or an `e` is not between two digits, so the program
  refuses it although dropping it would leave a number; in the relation it is simply that no constructor applies.
-/
import Courier.Proofs.Number.Grammar

namespace Courier

namespace Numeral

/-! ## Values of digits

  Over the ASCII digits the relation of the grammar is a function: a text of digits has one list of values, and the
  number that the list makes is the one that the library reads.  A text of digits and nothing else is called a
  group, because it is what stands between two low lines. -/

/-- The values of ASCII digits. -/
def values (s : Text) : List Nat := s.map fun c => c.toNat - 48

theorem values_append (s t : Text) : values (s ++ t) = values s ++ values t := List.map_append ..

theorem length_values (s : Text) : (values s).length = s.length := List.length_map ..

/-- The value of a text is that of its digits. -/
theorem valueOf_values (s : Text) : valueOf (values s) = decimalValue s := by
  -- from the right, as the value is summed from the last digit on
  induction s using List.reverseRecOn with
  | nil => rfl
  | append_singleton s c ih =>
    rw [valueOf] at ih
    rw [valueOf, values_append, List.reverse_append, decimalValue, List.foldl_append, ← decimalValue, ← ih]
    show c.toNat - 48 + 10 * Nat.ofDigits 10 (values s).reverse = _
    rw [Nat.add_comm, Nat.mul_comm]
    rfl

variable {s t u : Text} {ds es : List Nat} {c : Char}

/-- A digit is none of the marks, which are no digits. -/
theorem ne_of_isDigit {m : Char} (hc : c.isDigit = true) (hm : m.isDigit = false) : c ≠ m := by
  rintro rfl
  exact Bool.false_ne_true (hm.symm.trans hc)

theorem ne_lowLine_of_isDigit (hc : c.isDigit = true) : c ≠ '_' := ne_of_isDigit hc (by decide)

/-- A text of ASCII digits alone, with at least one of them. -/
def IsGroup (s : Text) : Prop := s ≠ [] ∧ ∀ c ∈ s, c.isDigit = true

theorem isGroup_singleton (hc : c.isDigit = true) : IsGroup [c] := by
  refine ⟨List.cons_ne_nil c [], fun d hd => ?_⟩
  rwa [List.mem_singleton.mp hd]

/-- A digit before digits, or before nothing. -/
theorem isGroup_cons (hc : c.isDigit = true) (hs : ∀ d ∈ s, d.isDigit = true) : IsGroup (c :: s) :=
  ⟨List.cons_ne_nil c s, List.forall_mem_cons.mpr ⟨hc, hs⟩⟩

/-- A group is digits with their values. -/
theorem digits_of_isGroup (h : IsGroup s) : Digits asciiDigit? s (values s) := by
  obtain ⟨hne, hs⟩ := h
  have hvalue {c : Char} (hc : c.isDigit = true) : asciiDigit? c = some (c.toNat - 48) :=
    asciiDigit?_eq_some_iff.mpr ⟨hc, rfl⟩
  induction s with
  | nil => exact absurd rfl hne
  | cons c rest ih =>
    have hc := hvalue (hs c (List.mem_cons_self ..))
    -- the last digit and the others are made by different rules
    cases rest with
    | nil => exact .last hc
    | cons d rest => exact .next hc (ih (List.cons_ne_nil d rest) fun c hc => hs c (List.mem_cons_of_mem _ hc))

/-- Digits begin with a digit. -/
theorem Digits.head (h : Digits asciiDigit? s ds) : ∃ c rest, s = c :: rest ∧ c.isDigit = true := by
  cases h with
  | last hd => exact ⟨_, _, rfl, (asciiDigit?_eq_some_iff.mp hd).1⟩
  | next hd _ => exact ⟨_, _, rfl, (asciiDigit?_eq_some_iff.mp hd).1⟩
  | apart hd _ => exact ⟨_, _, rfl, (asciiDigit?_eq_some_iff.mp hd).1⟩

/-- Where no low line stands, digits are a group. -/
theorem digits_iff_of_notMem (h : '_' ∉ s) : Digits asciiDigit? s ds ↔ IsGroup s ∧ values s = ds := by
  constructor
  · intro hs
    induction hs with
    | last hd =>
      obtain ⟨hdigit, rfl⟩ := asciiDigit?_eq_some_iff.mp hd
      exact ⟨isGroup_singleton hdigit, rfl⟩
    | next hd _ ih =>
      obtain ⟨hdigit, rfl⟩ := asciiDigit?_eq_some_iff.mp hd
      obtain ⟨hgroup, rfl⟩ := ih (fun hmem => h (List.mem_cons_of_mem _ hmem))
      exact ⟨isGroup_cons hdigit hgroup.2, rfl⟩
    -- this rule has a low line in the text
    | apart _ _ _ => exact absurd (List.mem_cons_of_mem _ (List.mem_cons_self ..)) h
  · rintro ⟨hs, rfl⟩
    exact digits_of_isGroup hs

/-! ## Groups

  The reader of whole numbers cuts at every low line and asks of each piece whether it is a group.  The grammar has
  no pieces: it adds one digit at a time at the front, with a low line before it or without.  From groups to the
  grammar the way is by induction over the groups, and back it is by induction over the derivation, where a low line
  begins a new group and a digit goes to the front of the first one. -/

/-- Digits, a low line and digits are digits: the rules put new digits in front, so the low line is put behind the
    first ones by going through them. -/
theorem Digits.append_apart (hs : Digits asciiDigit? s ds) (ht : Digits asciiDigit? t es) :
    Digits asciiDigit? (s ++ '_' :: t) (ds ++ es) := by
  induction hs with
  | last hd => exact .apart hd ht
  | next hd _ ih => exact .next hd ih
  | apart hd _ ih => exact .apart hd ih

/-- Groups with single low lines between them. -/
theorem digits_of_groups {groups : List Text} (hne : groups ≠ []) (h : ∀ g ∈ groups, IsGroup g) :
    Digits asciiDigit? (['_'].intercalate groups) (values groups.flatten) := by
  induction groups with
  | nil => exact absurd rfl hne
  | cons g rest ih =>
    have hfirst := digits_of_isGroup (h g (List.mem_cons_self ..))
    rw [List.flatten_cons, values_append]
    cases rest with
    | nil =>
      rw [List.intercalate_singleton, List.flatten_nil]
      exact (List.append_nil (values g)).symm ▸ hfirst
    | cons g' rest =>
      rw [List.intercalate_cons_cons, List.append_assoc]
      exact hfirst.append_apart (ih (List.cons_ne_nil g' rest) fun k hk => h k (List.mem_cons_of_mem _ hk))

/-- A character that is not the mark goes to the front of the first part. -/
theorem splitOn_cons {mark : Char} (hc : c ≠ mark) (s : Text) :
    (c :: s).splitOn mark = (s.splitOn mark).modifyHead (c :: ·) := by
  rw [List.splitOn_cons_eq_if_modifyHead, if_neg (by rwa [beq_iff_eq])]

theorem splitOn_mark (mark : Char) (s : Text) : (mark :: s).splitOn mark = [] :: s.splitOn mark := by
  rw [List.splitOn_cons_eq_if_modifyHead, if_pos (beq_self_eq_true mark)]

/-- Between low lines stand the groups. -/
theorem groups_of_digits (h : Digits asciiDigit? s ds) :
    (∀ g ∈ s.splitOn '_', IsGroup g) ∧ values (s.splitOn '_').flatten = ds := by
  induction h with
  | last hd =>
    obtain ⟨hdigit, rfl⟩ := asciiDigit?_eq_some_iff.mp hd
    rw [splitOn_cons (ne_lowLine_of_isDigit hdigit)]
    exact ⟨List.forall_mem_singleton.mpr (isGroup_singleton hdigit), rfl⟩
  | @next c _ rest _ hd _ ih =>
    obtain ⟨hdigit, rfl⟩ := asciiDigit?_eq_some_iff.mp hd
    -- the digit joins the first of the groups that there are already
    obtain ⟨first, others, hsplit⟩ := List.exists_cons_of_ne_nil (List.splitOn_ne_nil '_' rest)
    rw [hsplit] at ih
    obtain ⟨hall, rfl⟩ := ih
    obtain ⟨hfirst, hothers⟩ := List.forall_mem_cons.mp hall
    rw [splitOn_cons (ne_lowLine_of_isDigit hdigit), hsplit]
    exact ⟨List.forall_mem_cons.mpr ⟨isGroup_cons hdigit hfirst.2, hothers⟩, rfl⟩
  | apart hd _ ih =>
    obtain ⟨hdigit, rfl⟩ := asciiDigit?_eq_some_iff.mp hd
    obtain ⟨hall, rfl⟩ := ih
    -- the low line closes a group that is this digit alone
    rw [splitOn_cons (ne_lowLine_of_isDigit hdigit), splitOn_mark]
    exact ⟨List.forall_mem_cons.mpr ⟨isGroup_singleton hdigit, hall⟩, rfl⟩

/-- What the reader of whole numbers makes of a text, with the groups as a proposition. -/
theorem groupedDigits?_eq_some_iff :
    groupedDigits? s = some t ↔ (∀ g ∈ s.splitOn '_', IsGroup g) ∧ (s.splitOn '_').flatten = t := by
  have hgroup (g : Text) : (!g.isEmpty && g.all Char.isDigit) = true ↔ IsGroup g := by
    rw [IsGroup, Bool.and_eq_true, Bool.not_eq_true', List.isEmpty_eq_false_iff, List.all_eq_true]
  rw [groupedDigits?, Option.ite_none_right_eq_some, List.all_eq_true, Option.some_inj]
  exact and_congr_left' (forall₂_congr fun g _ => hgroup g)

/-- **The groups between low lines are the digits of the grammar.** -/
theorem digits_iff_grouped : Digits asciiDigit? s ds ↔ ∃ t, groupedDigits? s = some t ∧ values t = ds := by
  constructor
  · intro h
    obtain ⟨hgroups, hvalues⟩ := groups_of_digits h
    exact ⟨_, groupedDigits?_eq_some_iff.mpr ⟨hgroups, rfl⟩, hvalues⟩
  · rintro ⟨t, h, rfl⟩
    obtain ⟨hgroups, rfl⟩ := groupedDigits?_eq_some_iff.mp h
    have hdigits := digits_of_groups (List.splitOn_ne_nil '_' s) hgroups
    rwa [List.intercalate_splitOn] at hdigits

/-! ## Low lines dropped

  The reader of real numbers does not know yet what it reads when it drops low lines, so what it does is described
  for any text.  A low line between two digits goes and every other one is an error.  That this is a matter of
  places in the text, and not of groups, is what makes it fit the grammar of a text with a point and an exponent. -/

/-- A text, and the text without its low lines, each of which stands between two digits. -/
inductive Unscored : Text → Text → Prop
  | nil : Unscored [] []
  | keep {c : Char} {s t : Text} (hc : c ≠ '_') (rest : Unscored s t) : Unscored (c :: s) (c :: t)
  | drop {c d : Char} {s t : Text} (hc : c.isDigit = true) (hd : d.isDigit = true) (rest : Unscored (d :: s) t) :
      Unscored (c :: '_' :: d :: s) (c :: t)

/-- No low line is left. -/
theorem Unscored.notMem (h : Unscored s t) : '_' ∉ t := by
  induction h with
  | nil => exact List.not_mem_nil
  | keep hc _ ih => exact List.not_mem_cons_of_ne_of_not_mem hc.symm ih
  | drop hc _ _ ih => exact List.not_mem_cons_of_ne_of_not_mem (ne_lowLine_of_isDigit hc).symm ih

/-- A text without low lines is left as it is. -/
theorem unscored_self (h : '_' ∉ s) : Unscored s s := by
  induction s with
  | nil => exact .nil
  | cons c rest ih =>
    obtain ⟨hc, hrest⟩ := not_or.mp (mt List.mem_cons.mpr h)
    exact .keep (Ne.symm hc) (ih hrest)

/-- Texts one after the other: no low line is at an end of either, so none comes to stand between them. -/
theorem Unscored.append {s' t' : Text} (h : Unscored s t) (h' : Unscored s' t') : Unscored (s ++ s') (t ++ t') := by
  induction h with
  | nil => exact h'
  | keep hc _ ih => exact .keep hc ih
  | drop hc hd _ ih => exact .drop hc hd ih

/-- A character that is no digit stands in both texts, with what is before it and behind it. -/
theorem Unscored.split {m : Char} (hm : m.isDigit = false) (h : Unscored s (t ++ m :: u)) :
    ∃ front back, s = front ++ m :: back ∧ Unscored front t ∧ Unscored back u := by
  -- the text without low lines is made of parts, and the induction wants it to be a variable
  generalize ht : t ++ m :: u = whole at h
  induction h generalizing t with
  | nil => exact absurd ht (by simp)
  | @keep c s _ hc rest ih =>
    cases t with
    | nil =>
      obtain ⟨rfl, rfl⟩ := List.cons.inj ht
      exact ⟨[], s, rfl, .nil, rest⟩
    | cons c' t =>
      obtain ⟨rfl, htail⟩ := List.cons.inj ht
      obtain ⟨front, back, rfl, hfront, hback⟩ := ih htail
      exact ⟨c' :: front, back, rfl, .keep hc hfront, hback⟩
  | drop hc hd rest ih =>
    cases t with
    | nil =>
      obtain ⟨rfl, _⟩ := List.cons.inj ht
      -- the mark would be the digit in front of a low line
      exact absurd rfl (ne_of_isDigit hc hm)
    | cons c' t =>
      obtain ⟨rfl, htail⟩ := List.cons.inj ht
      obtain ⟨front, back, hs, hfront, hback⟩ := ih htail
      cases front with
      | nil =>
        obtain ⟨rfl, _⟩ := List.cons.inj hs
        -- the mark would be the digit behind the low line
        exact absurd rfl (ne_of_isDigit hd hm)
      | cons d' front =>
        obtain ⟨rfl, rfl⟩ := List.cons.inj hs
        exact ⟨c' :: '_' :: _ :: front, back, rfl, .drop hc hd hfront, hback⟩

/-- Nothing is dropped where there is no low line. -/
theorem Unscored.eq_of_notMem (hs : '_' ∉ s) (h : Unscored s t) : s = t := by
  induction h with
  | nil => rfl
  | keep _ _ ih => rw [ih fun hmem => hs (List.mem_cons_of_mem _ hmem)]
  | drop _ _ _ _ => exact absurd (List.mem_cons_of_mem _ (List.mem_cons_self ..)) hs

/-- Nothing was dropped where there is no digit: a low line that is dropped leaves the digits around it. -/
theorem Unscored.eq_of_forall (ht : ∀ c ∈ t, c.isDigit = false) (h : Unscored s t) : s = t := by
  induction h with
  | nil => rfl
  | keep _ _ ih => rw [ih fun c hc => ht c (List.mem_cons_of_mem _ hc)]
  | drop hc _ _ _ => exact absurd rfl (ne_of_isDigit hc (ht _ (List.mem_cons_self ..)))

/-- Whether the last character of a text and the first of the next are digits. -/
def meet (s u : Text) : Bool := s.getLast?.any Char.isDigit && u.head?.any Char.isDigit

/-- Around a low line stand the last character before it and the first behind it, both digits. -/
theorem unscored_append_lowLine (hs : '_' ∉ s) :
    Unscored (s ++ '_' :: u) t ↔ meet s u = true ∧ ∃ t', Unscored u t' ∧ s ++ t' = t := by
  constructor
  · intro h
    induction s generalizing t with
    -- nothing stands before the low line, so it could not be dropped
    | nil =>
      cases h with
      | keep hc _ => exact absurd rfl hc
      | drop hc _ _ => exact absurd hc (by decide)
    | cons c rest ih =>
      obtain ⟨_, hrest⟩ := not_or.mp (mt List.mem_cons.mpr hs)
      generalize hwhole : c :: rest ++ '_' :: u = whole at h
      cases h with
      | nil => exact absurd hwhole (List.cons_ne_nil _ _)
      -- the low line is further behind: it is met in the rest
      | keep _ h =>
        obtain ⟨rfl, rfl⟩ := List.cons.inj hwhole
        obtain ⟨hmeet, t', ht', rfl⟩ := ih hrest h
        refine ⟨?_, t', ht', rfl⟩
        cases rest with
        | nil => exact nomatch hmeet
        | cons d rest => rwa [meet, List.getLast?_cons_cons]
      | drop hc hd h =>
        obtain ⟨rfl, htail⟩ := List.cons.inj hwhole
        cases rest with
        | nil =>
          -- this is the low line, and the two digits are those around it
          obtain ⟨_, rfl⟩ := List.cons.inj htail
          exact ⟨(Bool.and_eq_true ..).mpr ⟨hc, hd⟩, _, h, rfl⟩
        | cons d rest =>
          obtain ⟨rfl, _⟩ := List.cons.inj htail
          exact absurd (List.mem_cons_self ..) hrest
  · rintro ⟨hmeet, t', ht', rfl⟩
    rw [meet, Bool.and_eq_true, Option.any_eq_true, Option.any_eq_true] at hmeet
    obtain ⟨⟨c, hc, hcdigit⟩, d, hd, hddigit⟩ := hmeet
    -- the last character before it is taken off, and put back by the rule that drops
    obtain ⟨front, rfl⟩ := List.getLast?_eq_some_iff.mp hc
    obtain ⟨back, rfl⟩ := List.head?_eq_some_iff.mp hd
    have hfront : '_' ∉ front := fun hmem => hs (List.mem_append_left _ hmem)
    rw [List.append_assoc, List.append_assoc]
    exact (unscored_self hfront).append (.drop hcdigit hddigit ht')

/-- Whether a text meets some groups is decided by the first of them. -/
theorem meet_intercalate (s g : Text) (rest : List Text) : meet s (['_'].intercalate (g :: rest)) = meet s g := by
  cases rest with
  | nil => rw [List.intercalate_singleton]
  | cons g' rest =>
    rw [List.intercalate_cons_cons]
    cases g with
    | nil => rfl
    | cons c g => rfl

/-- Low lines between groups of any characters. -/
theorem unscored_groups {groups : List Text} (hne : groups ≠ []) (h : ∀ g ∈ groups, '_' ∉ g) :
    Unscored (['_'].intercalate groups) t ↔
      ((groups.zip groups.tail).all fun gh => meet gh.1 gh.2) = true ∧ groups.flatten = t := by
  induction groups generalizing t with
  | nil => exact absurd rfl hne
  | cons g rest ih =>
    obtain ⟨hg, hrest⟩ := List.forall_mem_cons.mp h
    cases rest with
    | nil =>
      rw [List.intercalate_singleton, List.flatten_cons, List.flatten_nil, List.append_nil]
      constructor
      · exact fun hself => ⟨rfl, hself.eq_of_notMem hg⟩
      · rintro ⟨_, rfl⟩
        exact unscored_self hg
    | cons g' rest =>
      -- the first low line is looked at, and the others are those between the other groups
      have hothers {t' : Text} := ih (t := t') (List.cons_ne_nil g' rest) hrest
      rw [List.intercalate_cons_cons, List.append_assoc, List.singleton_append, unscored_append_lowLine hg,
        meet_intercalate, List.tail_cons, List.zip_cons_cons, List.all_cons, Bool.and_eq_true, List.flatten_cons]
      constructor
      · rintro ⟨hmeet, t', ht', rfl⟩
        obtain ⟨hall, rfl⟩ := hothers.mp ht'
        exact ⟨⟨hmeet, hall⟩, rfl⟩
      · rintro ⟨⟨hmeet, hall⟩, rfl⟩
        exact ⟨hmeet, _, hothers.mpr ⟨hall, rfl⟩, rfl⟩

/-- **The low lines that are dropped are those between two digits, and there may be no other.** -/
theorem dropLowLines?_eq_some_iff : Binary64.dropLowLines? s = some t ↔ Unscored s t := by
  have hgroups := unscored_groups (t := t) (List.splitOn_ne_nil '_' s) fun g hg => notMem_of_mem_splitOn hg
  rw [List.intercalate_splitOn] at hgroups
  rw [Binary64.dropLowLines?]
  by_cases hs : '_' ∈ s
  · rw [if_pos (List.contains_iff_mem.mpr hs), Option.ite_none_right_eq_some, Option.some_inj, hgroups]
    rfl
  · rw [if_neg (mt List.contains_iff_mem.mp hs), Option.some_inj]
    constructor
    · rintro rfl
      exact unscored_self hs
    · exact fun h => h.eq_of_notMem hs

/-! ## Numbers without their low lines

  One lemma for each production, from the digits up to the whole number, and each in both directions: what the
  production says of a text it says of the text without its low lines, and the other way round.  Where a production
  puts two parts together, the character between them is no digit, so dropping low lines from the whole is dropping
  them from the parts. -/

variable {negative : Bool} {places : Nat} {power : Int} {x : Binary64}

/-- Low lines that were dropped from digits are put back between them. -/
theorem Digits.of_unscored (hunscored : Unscored s t) (h : Digits asciiDigit? t ds) : Digits asciiDigit? s ds := by
  induction hunscored generalizing ds with
  | nil => exact nomatch h
  | @keep c s t hc rest ih =>
    cases h with
    | last hd =>
      cases rest with
      | nil => exact .last hd
    | next hd hrest => exact .next hd (ih hrest)
    -- there is no low line in what is left, so this rule made nothing of it
    | apart _ _ => exact absurd (List.mem_cons_self ..) rest.notMem
  | drop hc hd rest ih =>
    cases h with
    | last hvalue => exact nomatch rest
    | next hvalue hrest => exact .apart hvalue (ih hrest)
    | apart _ _ => exact absurd (List.mem_cons_self ..) rest.notMem

/-- Digits are digits with their low lines and without them. -/
theorem digits_unscored : (∃ t, Unscored s t ∧ Digits asciiDigit? t ds) ↔ Digits asciiDigit? s ds := by
  constructor
  · rintro ⟨t, hunscored, h⟩
    exact h.of_unscored hunscored
  · intro h
    induction h with
    | last hd =>
      exact ⟨_, .keep (ne_lowLine_of_isDigit (asciiDigit?_eq_some_iff.mp hd).1) .nil, .last hd⟩
    | next hd _ ih =>
      obtain ⟨t, hunscored, hdigits⟩ := ih
      exact ⟨_, .keep (ne_lowLine_of_isDigit (asciiDigit?_eq_some_iff.mp hd).1) hunscored, .next hd hdigits⟩
    | apart hd hrest ih =>
      obtain ⟨t, hunscored, hdigits⟩ := ih
      -- what is behind a low line begins with a digit, so the low line is one that is dropped
      obtain ⟨d, rest, rfl, hdigit⟩ := hrest.head
      exact ⟨_, .drop (asciiDigit?_eq_some_iff.mp hd).1 hdigit hunscored, .next hd hdigits⟩

/-- A sign is taken off before low lines are dropped or after. -/
theorem signed_unscored :
    (∃ t, Unscored s t ∧ Signed t negative u) ↔ ∃ v, Signed s negative v ∧ Unscored v u := by
  constructor
  · rintro ⟨t, hunscored, h⟩
    cases h with
    | bare => exact ⟨s, .bare s, hunscored⟩
    -- a sign is no digit, so no low line was dropped behind it
    | plus =>
      cases hunscored with
      | keep _ hrest => exact ⟨_, .plus _, hrest⟩
      | drop hc _ _ => exact absurd hc (by decide)
    | minus =>
      cases hunscored with
      | keep _ hrest => exact ⟨_, .minus _, hrest⟩
      | drop hc _ _ => exact absurd hc (by decide)
  · rintro ⟨v, h, hunscored⟩
    cases h with
    | bare => exact ⟨u, hunscored, .bare u⟩
    | plus => exact ⟨_, .keep (by decide) hunscored, .plus u⟩
    | minus => exact ⟨_, .keep (by decide) hunscored, .minus u⟩

/-- Digits with a point are such with their low lines and without them: the point is no digit, so it parts the low
    lines of the two sides. -/
theorem mantissa_unscored :
    (∃ t, Unscored s t ∧ Mantissa asciiDigit? t ds places) ↔ Mantissa asciiDigit? s ds places := by
  constructor
  · rintro ⟨t, hunscored, h⟩
    cases h with
    | whole hdigits => exact .whole (hdigits.of_unscored hunscored)
    | pointed hdigits =>
      obtain ⟨front, back, rfl, hfront, hback⟩ := hunscored.split (by decide)
      cases hback with
      | nil => exact .pointed (hdigits.of_unscored hfront)
    | fraction hdigits =>
      cases hunscored with
      | keep _ hrest => exact .fraction (hdigits.of_unscored hrest)
      | drop hc _ _ => exact absurd hc (by decide)
    | both hfront hback =>
      obtain ⟨front, back, rfl, hfront', hback'⟩ := hunscored.split (by decide)
      exact .both (hfront.of_unscored hfront') (hback.of_unscored hback')
  · intro h
    cases h with
    | whole hdigits =>
      obtain ⟨t, hunscored, hdigits⟩ := digits_unscored.mpr hdigits
      exact ⟨t, hunscored, .whole hdigits⟩
    | pointed hdigits =>
      obtain ⟨t, hunscored, hdigits⟩ := digits_unscored.mpr hdigits
      exact ⟨t ++ ['.'], hunscored.append (.keep (by decide) .nil), .pointed hdigits⟩
    | fraction hdigits =>
      obtain ⟨t, hunscored, hdigits⟩ := digits_unscored.mpr hdigits
      exact ⟨'.' :: t, .keep (by decide) hunscored, .fraction hdigits⟩
    | both hfront hback =>
      obtain ⟨front, hfront', hfront⟩ := digits_unscored.mpr hfront
      obtain ⟨back, hback', hback⟩ := digits_unscored.mpr hback
      exact ⟨front ++ '.' :: back, hfront'.append (.keep (by decide) hback'), .both hfront hback⟩

theorem exponentMark_facts {mark : Char} (h : mark = 'e' ∨ mark = 'E') : mark.isDigit = false ∧ mark ≠ '_' := by
  rcases h with rfl | rfl
  · decide
  · decide

/-- An exponent is one with its low lines and without them. -/
theorem exponent_unscored :
    (∃ t, Unscored s t ∧ Exponent asciiDigit? t power) ↔ Exponent asciiDigit? s power := by
  constructor
  · rintro ⟨t, hunscored, h⟩
    cases h with
    | absent =>
      cases hunscored with
      | nil => exact .absent
    | present hmark hsign hdigits =>
      cases hunscored with
      | keep _ hrest =>
        obtain ⟨v, hsigned, hv⟩ := signed_unscored.mp ⟨_, hrest, hsign⟩
        exact .present hmark hsigned (hdigits.of_unscored hv)
      | drop hc _ _ => exact absurd rfl (ne_of_isDigit hc (exponentMark_facts hmark).1)
  · intro h
    cases h with
    | absent => exact ⟨[], .nil, .absent⟩
    | @present mark _ _ _ _ hmark hsign hdigits =>
      obtain ⟨u, hu, hdigits⟩ := digits_unscored.mpr hdigits
      obtain ⟨t, ht, hsigned⟩ := signed_unscored.mpr ⟨_, hsign, hu⟩
      exact ⟨mark :: t, .keep (exponentMark_facts hmark).2 ht, .present hmark hsigned hdigits⟩

/-- The exponent is cut off before or after low lines are dropped. -/
theorem Unscored.split_exponent (h : Unscored s (t ++ u)) (he : Exponent asciiDigit? u power) :
    ∃ front back, s = front ++ back ∧ Unscored front t ∧ Unscored back u := by
  cases he with
  | absent =>
    rw [List.append_nil] at h
    exact ⟨s, [], (List.append_nil s).symm, h, .nil⟩
  | @present mark _ _ _ _ hmark _ _ =>
    obtain ⟨hdigit, hlow⟩ := exponentMark_facts hmark
    obtain ⟨front, back, rfl, hfront, hback⟩ := h.split hdigit
    exact ⟨front, mark :: back, rfl, hfront, .keep hlow hback⟩

/-- Digits have no case. -/
theorem toLower_of_isDigit (hc : c.isDigit = true) : c.toLower = c := by
  have hrange : 48 ≤ c.toNat ∧ c.toNat ≤ 57 := Char.isDigit_iff_toNat.mp hc
  revert hc
  exact ascii_forall c (by omega) (by decide +kernel)

/-- The characters that stand in no digits. -/
def isOutside (c : Char) : Bool := !c.isDigit && c != '_'

/-- No low line is dropped next to a letter. -/
theorem word_unscored {word : Text} (hword : ∀ m ∈ word, isOutside m = true) :
    (∃ t, Unscored s t ∧ t.map Char.toLower = word) ↔ s.map Char.toLower = word := by
  constructor
  · rintro ⟨t, hunscored, rfl⟩
    -- a digit would be a digit in lower case as well, and the word has none
    have hno : ∀ c ∈ t, c.isDigit = false := by
      intro c hc
      have hlower := hword _ (List.mem_map_of_mem hc)
      rw [isOutside, Bool.and_eq_true, Bool.not_eq_true'] at hlower
      cases hdigit : c.isDigit with
      | false => rfl
      | true =>
        rw [toLower_of_isDigit hdigit, hdigit] at hlower
        exact hlower.1
    rw [hunscored.eq_of_forall hno]
  · intro h
    -- a low line would be one in lower case as well
    refine ⟨s, unscored_self fun hmem => ?_, h⟩
    have hlow := hword ('_').toLower (h ▸ List.mem_map_of_mem hmem)
    exact absurd hlow (by decide)

/-- **A real number is one with its low lines and without them.** -/
theorem unsigned_unscored :
    (∃ t, Unscored s t ∧ Unsigned asciiDigit? negative t x) ↔ Unsigned asciiDigit? negative s x := by
  have hinf : ∀ m ∈ "inf".toList, isOutside m = true := List.all_eq_true.mp (by decide)
  have hinfinity : ∀ m ∈ "infinity".toList, isOutside m = true := List.all_eq_true.mp (by decide)
  have hnan : ∀ m ∈ "nan".toList, isOutside m = true := List.all_eq_true.mp (by decide)
  constructor
  · rintro ⟨t, hunscored, h⟩
    cases h with
    | decimal hm he =>
      obtain ⟨front, back, rfl, hfront, hback⟩ := hunscored.split_exponent he
      exact .decimal (mantissa_unscored.mp ⟨_, hfront, hm⟩) (exponent_unscored.mp ⟨_, hback, he⟩)
    | infinite hword =>
      exact .infinite (hword.imp (fun h => (word_unscored hinf).mp ⟨t, hunscored, h⟩)
        fun h => (word_unscored hinfinity).mp ⟨t, hunscored, h⟩)
    | notANumber hword => exact .notANumber ((word_unscored hnan).mp ⟨t, hunscored, hword⟩)
  · intro h
    cases h with
    | decimal hm he =>
      obtain ⟨t, ht, hm⟩ := mantissa_unscored.mpr hm
      obtain ⟨u, hu, he⟩ := exponent_unscored.mpr he
      exact ⟨t ++ u, ht.append hu, .decimal hm he⟩
    | infinite hword =>
      rcases hword with hword | hword
      · obtain ⟨t, ht, hword⟩ := (word_unscored hinf).mpr hword
        exact ⟨t, ht, .infinite (Or.inl hword)⟩
      · obtain ⟨t, ht, hword⟩ := (word_unscored hinfinity).mpr hword
        exact ⟨t, ht, .infinite (Or.inr hword)⟩
    | notANumber hword =>
      obtain ⟨t, ht, hword⟩ := (word_unscored hnan).mpr hword
      exact ⟨t, ht, .notANumber hword⟩

end Numeral

end Courier
