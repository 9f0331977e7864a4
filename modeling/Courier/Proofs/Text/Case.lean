/-
  Lower case, and the texts that are in it.

  A character is steady when lower case leaves it alone; whether it does cannot depend on the characters around it,
  because only the capital sigma looks at those and it is never left alone (`lowerAt_of_isSteady`).

  The crux is that what lower case writes is steady (`isSteady_of_mem_lowerAt`): what the rows of the table send
  code points to, none of its rows sends on.  That is a finite check of the table, of the code points that its rows
  map against those that they map to.  There are well over a thousand of each, so the check is not made pair by
  pair: both are taken as the bits of a number, and no bit is set in both (`areApart`, `lowerRows_settles`).

  From this everything else follows.  A text is in lower case exactly when all its characters are steady
  (`lower_eq_self_iff`).  So lower case is idempotent (`lower_lower`), and any part of a text in lower case is in
  lower case (`lower_eq_self_of_subset`), which is not evident from the definition, since a sigma at the end of a
  word has a lower case of its own.

  Two more things are needed of lower case.

  1. What follows a text changes the text only through a sigma that looks for a cased character behind it.  A
     semicolon is none, and is not passed over in the search, so a text and what is written behind a semicolon are
     put in lower case each by itself (`lower_append_semicolon`).

  2. A text in which its own lower case stands is in lower case itself, blanks around it and full stops in front of
     it apart (`lower_eq_self_of_infix`).  This is a count.  Characters other than full stops and blanks do not
     become fewer in lower case, so all those of the text are used up by what stands in it, and that is steady.
-/
import Courier.Proofs.Basic
import Courier.Proofs.Text.Ranges
import Courier.Text.Case
import Mathlib.Data.Nat.Bitwise

namespace Courier

/-! ## Sets of numbers as bits

  Lists of code points are compared in the check of a table, and as lists that is slow.  A list is the bits of one
  number, two lists have nothing in common when the two numbers have no bit in common, and this is one operation on
  large numbers. -/

/-- Numbers as the bits of one number. -/
def bitsOf (points : List Nat) : Nat := points.foldl (fun bits c => bits ||| 1 <<< c) 0

/-- The bit of a number is set when the number is in the list. -/
theorem testBit_bitsOf (points : List Nat) (c : Nat) : (bitsOf points).testBit c = decide (c ∈ points) := by
  have hfrom (bits : Nat) : (points.foldl (fun bits c => bits ||| 1 <<< c) bits).testBit c =
      (bits.testBit c || decide (c ∈ points)) := by
    induction points generalizing bits with
    | nil => simp
    | cons d rest ih =>
      rw [List.foldl_cons, ih, Nat.testBit_lor, Nat.one_shiftLeft, Nat.testBit_two_pow, Bool.or_assoc]
      congr 1
      by_cases hd : d = c
      · simp [hd]
      · simp [hd, Ne.symm hd]
  rw [bitsOf, hfrom, Nat.zero_testBit, Bool.false_or]

/-- Whether two lists have no number in common. -/
def areApart (xs ys : List Nat) : Bool := bitsOf xs &&& bitsOf ys == 0

/-- Lists without a bit in common have no number in common. -/
theorem notMem_of_areApart {xs ys : List Nat} (h : areApart xs ys = true) {c : Nat} (hx : c ∈ xs) : c ∉ ys := by
  intro hy
  have hbit : (bitsOf xs &&& bitsOf ys).testBit c = true := by
    rw [Nat.testBit_land, testBit_bitsOf, testBit_bitsOf, decide_eq_true hx, decide_eq_true hy]
    rfl
  rw [beq_iff_eq.mp h, Nat.zero_testBit] at hbit
  exact Bool.noConfusion hbit

/-! ## Simple mappings

  A simple mapping is given by rows: an interval of code points, a step, and a distance.  Its sources and its images
  are lists that can be computed from the rows. -/

namespace Rows

/-- The distances from the first code point of a row of a simple mapping at which it maps. -/
def offsets (low high step : Nat) : List Nat := (List.range (high - low + 1)).filter fun k => k % step == 0

/-- The code points that a row of a simple mapping maps. -/
def sources : List Nat → List Nat
  | [low, high, step, _] => (offsets low high step).map (low + ·)
  | _ => []

/-- What a row of a simple mapping maps them to. -/
def images : List Nat → List Nat
  | [low, high, step, target] => (offsets low high step).map (target + ·)
  | _ => []

variable {rows : Rows} {c : Nat}

/-- A simple mapping leaves a code point alone, or maps it by one of its rows. -/
theorem mapSimple_cases (rows : Rows) (c : Nat) :
    rows.mapSimple c = c ∨
      c ∈ rows.toList.flatMap sources ∧ rows.mapSimple c ∈ rows.toList.flatMap images := by
  rw [mapSimple]
  split
  · rename_i low high step target hrow
    split
    · -- a row that begins at or below the code point, and maps it by its distance
      rename_i hmaps
      rw [Bool.and_eq_true, decide_eq_true_iff, decide_eq_true_iff] at hmaps
      have hlow : low ≤ c := le_of_rowAt? hrow
      have hoffset : c - low ∈ offsets low high step := by
        rw [offsets, List.mem_filter, List.mem_range, beq_iff_eq]
        exact ⟨by omega, hmaps.2⟩
      refine Or.inr ⟨List.mem_flatMap.mpr ⟨_, mem_of_rowAt? hrow, ?_⟩,
        List.mem_flatMap.mpr ⟨_, mem_of_rowAt? hrow, List.mem_map_of_mem hoffset⟩⟩
      have hmem := List.mem_map_of_mem (f := (low + ·)) hoffset
      rwa [show low + (c - low) = c by omega] at hmem
    · exact Or.inl rfl
  · exact Or.inl rfl

theorem mapSimple_of_notMem (h : c ∉ rows.toList.flatMap sources) : rows.mapSimple c = c :=
  (rows.mapSimple_cases c).resolve_right fun hmaps => h hmaps.1

end Rows

/-! ## The table of lower case

  Everything that has to be known of the table is checked once, by computation on the text that it is written as. -/

/-- The blank characters as code points. -/
def blankPoints : List Nat := blanks.flatMap fun r => List.range' r.1 (r.2 + 1 - r.1)

/-- The code points of the full stop and of the blanks. -/
def hollowPoints : List Nat := 0x2e :: blankPoints

/-- The code points that the two capitals with a rule of their own go to, outside ASCII. -/
def stillPoints : List Nat := [0x3c2, 0x3c3, 0x307]

/-- A code point of a character that has no rule of its own, and in ASCII is no capital. -/
def isLowered (v : Nat) : Bool :=
  v.isValidChar && v != 0x130 && v != 0x3a3 && (Char.ofNat v).toLower == Char.ofNat v

/-- Whether a simple mapping is done in one step, and has nothing to do with full stops and blanks: what it maps to
    it leaves alone. -/
def Rows.settles (rows : List (List Nat)) : Bool :=
  areApart (rows.flatMap images ++ stillPoints) (rows.flatMap sources) &&
    areApart hollowPoints (rows.flatMap images ++ stillPoints ++ rows.flatMap sources) &&
    (rows.flatMap images ++ stillPoints ++ hollowPoints).all isLowered

set_option maxRecDepth 100000 in
/-- The table of lower case, checked. -/
theorem lowerRows_settles : Rows.settles lowerRows.toList = true := by
  have hread : ∀ s, Rows.settles (Rows.readList s) = true → Rows.settles (Rows.read (String.ofList s)).toList = true := by
    intro s hs
    rw [Rows.toList_read]
    exact hs
  unfold lowerRows
  apply hread
  decide +kernel

/-- Lower case sends no code point on that it sends another one to. -/
theorem notMem_sources {v : Nat} (h : v ∈ lowerRows.toList.flatMap Rows.images ++ stillPoints) :
    v ∉ lowerRows.toList.flatMap Rows.sources := by
  have hsettles := lowerRows_settles
  rw [Rows.settles, Bool.and_eq_true, Bool.and_eq_true] at hsettles
  exact notMem_of_areApart hsettles.1.1 h

/-- Lower case sends no code point to a full stop or a blank. -/
theorem notMem_hollowPoints {v : Nat} (h : v ∈ lowerRows.toList.flatMap Rows.images ++ stillPoints) :
    v ∉ hollowPoints := by
  have hsettles := lowerRows_settles
  rw [Rows.settles, Bool.and_eq_true, Bool.and_eq_true] at hsettles
  exact fun hv => notMem_of_areApart hsettles.1.2 hv (List.mem_append_left _ h)

theorem notMem_sources_of_hollow {v : Nat} (h : v ∈ hollowPoints) :
    v ∉ lowerRows.toList.flatMap Rows.sources := by
  have hsettles := lowerRows_settles
  rw [Rows.settles, Bool.and_eq_true, Bool.and_eq_true] at hsettles
  exact fun hv => notMem_of_areApart hsettles.1.2 h (List.mem_append_right _ hv)

/-- What it sends code points to are characters, and no capitals. -/
theorem isLowered_of_mem {v : Nat}
    (h : v ∈ lowerRows.toList.flatMap Rows.images ++ stillPoints ∨ v ∈ hollowPoints) : isLowered v = true := by
  have hsettles := lowerRows_settles
  rw [Rows.settles, Bool.and_eq_true, Bool.and_eq_true] at hsettles
  exact List.all_eq_true.mp hsettles.2 v (List.mem_append.mpr h)

/-! ## Steady characters

  Lower case looks at one character, and for the capital sigma at what stands around it.  A character is steady when
  lower case leaves it alone wherever it stands, and everything that lower case writes is steady. -/

/-- A character that lower case leaves alone. -/
def isSteady (c : Char) : Bool := lowerAt [] c [] == [c]

/-- Lower case of a character outside ASCII that has no rule of its own. -/
theorem lowerAt_of_simple {c : Char} (hascii : 128 ≤ c.toNat) (hsigma : c.toNat ≠ 0x3a3) (hdotted : c.toNat ≠ 0x130)
    (before after : Text) : lowerAt before c after = [Char.ofNat (lowerRows.mapSimple c.toNat)] := by
  rw [lowerAt, if_neg (by omega), if_neg hsigma, if_neg hdotted]

theorem lowerAt_of_ascii {c : Char} (h : c.toNat < 128) (before after : Text) :
    lowerAt before c after = [c.toLower] := by
  rw [lowerAt, if_pos h]

/-- What stands around a steady character does not matter. -/
theorem lowerAt_of_isSteady {c : Char} (h : isSteady c = true) (before after : Text) :
    lowerAt before c after = [c] := by
  rw [isSteady, beq_iff_eq] at h
  by_cases hascii : c.toNat < 128
  · rw [lowerAt_of_ascii hascii] at h ⊢
    exact h
  · by_cases hsigma : c.toNat = 0x3a3
    · -- the capital sigma is not steady
      have hlower : lowerAt [] c [] = [Char.ofNat 0x3c3] := by
        rw [lowerAt, if_neg hascii, if_pos hsigma]
        rfl
      rw [hlower, List.cons.injEq] at h
      rw [← h.1] at hsigma
      exact absurd hsigma (by decide)
    · by_cases hdotted : c.toNat = 0x130
      · rw [lowerAt, if_neg hascii, if_neg hsigma, if_pos hdotted] at h
        exact absurd h (by simp)
      · rw [lowerAt_of_simple (by omega) hsigma hdotted] at h ⊢
        exact h

/-- A number that is a code point is that of its character. -/
theorem toNat_ofNat {v : Nat} (h : v.isValidChar) : (Char.ofNat v).toNat = v := by
  rw [Char.ofNat, dif_pos h]
  rfl

/-- A code point that is no capital and is not sent on is that of a steady character. -/
theorem isSteady_ofNat {v : Nat} (hlowered : isLowered v = true) (hstill : v ∉ lowerRows.toList.flatMap Rows.sources) :
    isSteady (Char.ofNat v) = true := by
  rw [isLowered, Bool.and_eq_true, Bool.and_eq_true, Bool.and_eq_true, decide_eq_true_iff, bne_iff_ne, bne_iff_ne,
    beq_iff_eq] at hlowered
  obtain ⟨⟨⟨hvalid, hdotted⟩, hsigma⟩, hsmall⟩ := hlowered
  have hv := toNat_ofNat hvalid
  rw [isSteady, beq_iff_eq]
  by_cases hascii : v < 128
  · rw [lowerAt_of_ascii (by rw [hv]; exact hascii), hsmall]
  · rw [lowerAt_of_simple (by omega) (by rw [hv]; exact hsigma) (by rw [hv]; exact hdotted), hv,
      Rows.mapSimple_of_notMem hstill]

theorem isSteady_toLower {c : Char} (h : c.toNat < 128) : isSteady c.toLower = true := by
  have hc : c.toLower.toNat < 128 ∧ c.toLower.toLower = c.toLower := ascii_forall c h (by decide +kernel)
  rw [isSteady, lowerAt_of_ascii hc.1, hc.2, beq_iff_eq]

/-- **What lower case writes is steady.** -/
theorem isSteady_of_mem_lowerAt {before after : Text} {c d : Char} (h : d ∈ lowerAt before c after) :
    isSteady d = true := by
  have hstill {v : Nat} (hv : v ∈ stillPoints) : isSteady (Char.ofNat v) = true :=
    isSteady_ofNat (isLowered_of_mem (Or.inl (List.mem_append_right _ hv)))
      (notMem_sources (List.mem_append_right _ hv))
  by_cases hascii : c.toNat < 128
  · rw [lowerAt_of_ascii hascii, List.mem_singleton] at h
    rw [h]
    exact isSteady_toLower hascii
  · by_cases hsigma : c.toNat = 0x3a3
    · -- the capital sigma goes to one of two small ones
      rw [lowerAt, if_neg hascii, if_pos hsigma, List.mem_singleton] at h
      rw [h]
      split
      · exact hstill (by decide)
      · exact hstill (by decide)
    · by_cases hdotted : c.toNat = 0x130
      · -- the dotted capital I goes to two characters
        rw [lowerAt, if_neg hascii, if_neg hsigma, if_pos hdotted, List.mem_cons, List.mem_singleton] at h
        rcases h with rfl | rfl
        · exact isSteady_toLower (c := 'i') (by decide)
        · exact hstill (by decide)
      · rw [lowerAt_of_simple (by omega) hsigma hdotted, List.mem_singleton] at h
        rcases lowerRows.mapSimple_cases c.toNat with hsame | ⟨_, himage⟩
        · rw [hsame, Char.ofNat_toNat] at h
          rw [h, isSteady, lowerAt_of_simple (by omega) hsigma hdotted, hsame, Char.ofNat_toNat, beq_iff_eq]
        · rw [h]
          exact isSteady_ofNat (isLowered_of_mem (Or.inl (List.mem_append_left _ himage)))
            (notMem_sources (List.mem_append_left _ himage))

/-! ## Texts in lower case

  From characters to texts. -/

/-- What is done stays in front. -/
theorem lowerFrom_append_result (before result s : Text) :
    lowerFrom before result s = result.reverse ++ lowerFrom before [] s := by
  induction s generalizing before result with
  | nil => exact (List.append_nil _).symm
  | cons c after ih =>
    rw [lowerFrom, lowerFrom, ih (c :: before), ih (c :: before) ((lowerAt before c after).reverse ++ []),
      List.reverse_append, List.reverse_append, List.append_assoc]
    rfl

theorem lowerFrom_cons (before : Text) (c : Char) (after : Text) :
    lowerFrom before [] (c :: after) = lowerAt before c after ++ lowerFrom (c :: before) [] after := by
  rw [lowerFrom, lowerFrom_append_result, List.append_nil, List.reverse_reverse]

/-- All that lower case writes of a text is steady. -/
theorem isSteady_of_mem_lowerFrom {before s : Text} {c : Char} (h : c ∈ lowerFrom before [] s) :
    isSteady c = true := by
  induction s generalizing before with
  | nil => exact absurd h List.not_mem_nil
  | cons d after ih =>
    rw [lowerFrom_cons] at h
    rcases List.mem_append.mp h with h | h
    · exact isSteady_of_mem_lowerAt h
    · exact ih h

/-- Steady characters are left as they are. -/
theorem lowerFrom_of_isSteady {s : Text} (h : ∀ c ∈ s, isSteady c = true) (before : Text) :
    lowerFrom before [] s = s := by
  induction s generalizing before with
  | nil => rfl
  | cons c after ih =>
    rw [lowerFrom_cons, lowerAt_of_isSteady (h c (List.mem_cons_self ..)),
      ih fun d hd => h d (List.mem_cons_of_mem _ hd)]
    rfl

/-- **A text is in lower case exactly when all its characters are steady.** -/
theorem lower_eq_self_iff {s : Text} : lower s = s ↔ ∀ c ∈ s, isSteady c = true := by
  constructor
  · intro h c hc
    rw [← h] at hc
    exact isSteady_of_mem_lowerFrom hc
  · intro h
    exact lowerFrom_of_isSteady h []

theorem lower_lower (s : Text) : lower (lower s) = lower s :=
  lower_eq_self_iff.mpr fun _ => isSteady_of_mem_lowerFrom

/-- What is in lower case stays so before and after a text in lower case. -/
theorem lower_append_eq_self {s t : Text} (hs : lower s = s) (ht : lower t = t) : lower (s ++ t) = s ++ t := by
  rw [lower_eq_self_iff] at hs ht ⊢
  intro c hc
  exact (List.mem_append.mp hc).elim (hs c) (ht c)

/-- A part of a text in lower case is in lower case. -/
theorem lower_eq_self_of_subset {s t : Text} (h : t ⊆ s) (hs : lower s = s) : lower t = t := by
  rw [lower_eq_self_iff] at hs ⊢
  exact fun c hc => hs c (h hc)

/-- In front of a text, ASCII is put in lower case by itself. -/
theorem lowerFrom_ascii_append {s : Text} (h : ∀ c ∈ s, isAscii c = true) (before t : Text) :
    lowerFrom before [] (s ++ t) = s.map Char.toLower ++ lowerFrom (s.reverse ++ before) [] t := by
  induction s generalizing before with
  | nil => rfl
  | cons c rest ih =>
    have hc : c.toNat < 128 := of_decide_eq_true (h c (List.mem_cons_self ..))
    rw [List.cons_append, lowerFrom_cons, lowerAt_of_ascii hc, ih fun d hd => h d (List.mem_cons_of_mem _ hd),
      List.reverse_cons, List.append_assoc]
    rfl

/-- Lower case of ASCII, character by character. -/
theorem lower_of_ascii {s : Text} (h : ∀ c ∈ s, isAscii c = true) : lower s = s.map Char.toLower := by
  have hlower := lowerFrom_ascii_append h [] []
  rw [List.append_nil] at hlower
  exact hlower.trans (List.append_nil _)

/-! ## A text and what follows it

  Only the capital sigma looks ahead, and it looks for a cased character.  So a text is put in lower case by itself
  when what follows it begins with a character that is neither cased nor skipped. -/

/-- What begins with no cased character leaves the text in front of it as it was. -/
theorem startsCased_append {t : Text} (h : startsCased t = false) (s : Text) : startsCased (s ++ t) = startsCased s := by
  rw [startsCased, startsCased, List.dropWhile_append]
  cases s.dropWhile fun c => caseIgnorableRows.contains c.toNat with
  | nil => exact h
  | cons c rest => rfl

theorem lowerAt_append {t : Text} (h : startsCased t = false) (before : Text) (c : Char) (after : Text) :
    lowerAt before c (after ++ t) = lowerAt before c after := by
  rw [lowerAt, lowerAt, startsCased_append h]

/-- The capital sigma apart, which looks for a cased character behind it, a text is put in lower case by itself. -/
theorem lowerFrom_append {t : Text} (h : startsCased t = false) (before s : Text) :
    lowerFrom before [] (s ++ t) = lowerFrom before [] s ++ lowerFrom (s.reverse ++ before) [] t := by
  induction s generalizing before with
  | nil => rfl
  | cons c rest ih =>
    rw [List.cons_append, lowerFrom_cons, lowerFrom_cons, lowerAt_append h, ih, List.append_assoc, List.reverse_cons,
      List.append_assoc]
    rfl

set_option maxRecDepth 100000 in
/-- A semicolon is neither cased nor skipped in the search for a cased character. -/
theorem startsCased_semicolon (t : Text) : startsCased (';' :: t) = false := by
  have hcased : casedRows.contains 0x3b = false := by
    unfold casedRows
    apply Rows.contains_read_eq_false
    decide +kernel
  have hignorable : caseIgnorableRows.contains 0x3b = false := by
    unfold caseIgnorableRows
    apply Rows.contains_read_eq_false
    decide +kernel
  rw [startsCased, List.dropWhile_cons_of_neg]
  · exact hcased
  · exact ne_true_of_eq_false hignorable

/-- Lower case of a text and of what follows it behind a semicolon. -/
theorem lower_append_semicolon {t : Text} (h : ∀ c ∈ t, isAscii c = true) (s : Text) :
    lower (s ++ ';' :: t) = lower s ++ ';' :: t.map Char.toLower := by
  have hend := lowerFrom_ascii_append (List.forall_mem_cons.mpr ⟨(by decide : isAscii ';' = true), h⟩) s.reverse []
  rw [List.append_nil] at hend
  rw [lower, lowerFrom_append (startsCased_semicolon t), List.append_nil, hend]
  exact congrArg (lower s ++ ·) (List.append_nil _)

/-! ## Solid characters

  Trimming blanks and dropping full stops takes no solid character away, and lower case makes none go.  Counting
  them shows that a text whose lower case stands in it has nothing besides but blanks and full stops. -/

/-- A character that is neither a full stop nor a blank. -/
def isSolid (c : Char) : Bool := c != '.' && !isBlank c

theorem isSolid_iff {c : Char} : isSolid c = true ↔ c ≠ '.' ∧ isBlank c = false := by
  rw [isSolid, Bool.and_eq_true, bne_iff_ne, Bool.not_eq_true']

theorem mem_blankPoints_iff {v : Nat} : v ∈ blankPoints ↔ (blanks.any fun r => r.1 ≤ v && v ≤ r.2) = true := by
  simp only [blankPoints, List.mem_flatMap, List.mem_range'_1, List.any_eq_true, Bool.and_eq_true,
    decide_eq_true_iff]
  refine exists_congr fun r => and_congr_right fun _ => ?_
  omega

/-- The other characters are the points that the table was checked for. -/
theorem isSolid_eq_false_iff {c : Char} : isSolid c = false ↔ c.toNat ∈ hollowPoints := by
  have hdot : c = '.' ↔ c.toNat = 0x2e :=
    ⟨fun h => by rw [h]; rfl, fun h => by rw [← Char.ofNat_toNat c, h]⟩
  rw [← Bool.not_eq_true, isSolid_iff, hollowPoints, List.mem_cons, mem_blankPoints_iff, ← isBlank, ne_eq, hdot]
  cases isBlank c <;> simp

/-- Full stops and blanks are steady. -/
theorem isSteady_of_not_isSolid {c : Char} (h : isSolid c = false) : isSteady c = true := by
  rw [isSolid_eq_false_iff] at h
  have hc := isSteady_ofNat (isLowered_of_mem (Or.inr h)) (notMem_sources_of_hollow h)
  rwa [Char.ofNat_toNat] at hc

/-- The lower case of a solid character holds a solid one. -/
theorem exists_solid_mem_lowerAt {c : Char} (h : isSolid c = true) (before after : Text) :
    ∃ d ∈ lowerAt before c after, isSolid d = true := by
  have htarget {v : Nat} (hv : v ∈ lowerRows.toList.flatMap Rows.images ++ stillPoints) :
      isSolid (Char.ofNat v) = true := by
    rw [← Bool.not_eq_false, isSolid_eq_false_iff]
    have hlowered := isLowered_of_mem (Or.inl hv)
    rw [isLowered, Bool.and_eq_true, Bool.and_eq_true, Bool.and_eq_true, decide_eq_true_iff] at hlowered
    rw [toNat_ofNat hlowered.1.1.1]
    exact notMem_hollowPoints hv
  by_cases hlow : c.toNat < 128
  · refine ⟨_, by rw [lowerAt_of_ascii hlow]; exact List.mem_singleton_self _, ?_⟩
    revert h
    exact ascii_forall c hlow (by decide +kernel)
  · by_cases hsigma : c.toNat = 0x3a3
    · refine ⟨_, by rw [lowerAt, if_neg hlow, if_pos hsigma]; exact List.mem_singleton_self _, ?_⟩
      split
      · exact htarget (List.mem_append_right _ (by decide))
      · exact htarget (List.mem_append_right _ (by decide))
    · by_cases hdotted : c.toNat = 0x130
      · refine ⟨'i', ?_, by decide⟩
        rw [lowerAt, if_neg hlow, if_neg hsigma, if_pos hdotted]
        exact List.mem_cons_self ..
      · refine ⟨_, by rw [lowerAt_of_simple (by omega) hsigma hdotted]; exact List.mem_singleton_self _, ?_⟩
        rcases lowerRows.mapSimple_cases c.toNat with hsame | ⟨_, himage⟩
        · rwa [hsame, Char.ofNat_toNat]
        · exact htarget (List.mem_append_left _ himage)

/-- Lower case keeps as many solid characters as there are. -/
theorem countP_isSolid_le_lower (s : Text) : s.countP isSolid ≤ (lower s).countP isSolid := by
  have hfrom (before : Text) : s.countP isSolid ≤ (lowerFrom before [] s).countP isSolid := by
    induction s generalizing before with
    | nil => exact Nat.le_refl _
    | cons c after ih =>
      rw [lowerFrom_cons, List.countP_append, List.countP_cons]
      have hrest := ih (c :: before)
      split
      · rename_i hc
        have hone : 0 < (lowerAt before c after).countP isSolid :=
          List.countP_pos_iff.mpr (exists_solid_mem_lowerAt hc before after)
        omega
      · omega
  exact hfrom []

theorem countP_trimLeft {p q : Char → Bool} (h : ∀ c, p c = true → q c = false) (s : Text) :
    (trimLeft p s).countP q = s.countP q := by
  have hsplit : (s.takeWhile p ++ s.dropWhile p).countP q = (s.takeWhile p).countP q + (s.dropWhile p).countP q :=
    List.countP_append
  have hnone : (s.takeWhile p).countP q = 0 := by
    rw [List.countP_eq_zero]
    intro c hc
    rw [h c (List.all_eq_true.mp List.all_takeWhile c hc)]
    exact Bool.false_ne_true
  rw [List.takeWhile_append_dropWhile, hnone, Nat.zero_add] at hsplit
  exact hsplit.symm

/-- Trimming what is not counted leaves the count. -/
theorem countP_trim {p q : Char → Bool} (h : ∀ c, p c = true → q c = false) (s : Text) :
    (trim p s).countP q = s.countP q := by
  have hright (t : Text) : (trimRight p t).countP q = t.countP q := by
    rw [trimRight, List.countP_reverse]
    exact (countP_trimLeft h t.reverse).trans List.countP_reverse
  rw [trim, hright, countP_trimLeft h]

/-- **A text whose lower case stands in it is in lower case itself**, blanks around it and full stops in front of it
    apart. -/
theorem lower_eq_self_of_infix {s : Text} (h : trimLeft (· == '.') (lower (trimBlank s)) <:+: s) : lower s = s := by
  have hblank (c : Char) (hc : isBlank c = true) : isSolid c = false := by
    rw [isSolid, hc, Bool.not_true, Bool.and_false]
  have hdot (c : Char) (hc : (c == '.') = true) : isSolid c = false := by
    rw [isSolid, bne, hc]
    rfl
  -- what stands in the text is steady, and has as many solid characters as the text has
  have hsteady : ∀ c ∈ trimLeft (· == '.') (lower (trimBlank s)), isSteady c = true := fun c hc =>
    isSteady_of_mem_lowerFrom ((List.dropWhile_sublist _).subset hc)
  have hcount : (s.filter isSolid).length ≤ (s.filter isSolid).countP isSteady := by
    calc (s.filter isSolid).length = s.countP isSolid := List.countP_eq_length_filter.symm
      _ = (trimBlank s).countP isSolid := (countP_trim hblank s).symm
      _ ≤ (lower (trimBlank s)).countP isSolid := countP_isSolid_le_lower _
      _ = (trimLeft (· == '.') (lower (trimBlank s))).countP isSolid := (countP_trimLeft hdot _).symm
      _ = (trimLeft (· == '.') (lower (trimBlank s))).countP fun c => isSteady c && isSolid c := by
        refine List.countP_congr fun c hc => ?_
        rw [hsteady c hc, Bool.true_and]
      _ ≤ s.countP fun c => isSteady c && isSolid c := h.sublist.countP_le
      _ = (s.filter isSolid).countP isSteady := List.countP_filter.symm
  have hall := List.countP_eq_length.mp (Nat.le_antisymm List.countP_le_length hcount)
  rw [lower_eq_self_iff]
  intro c hc
  cases hsolid : isSolid c with
  | true => exact hall c (List.mem_filter.mpr ⟨hc, hsolid⟩)
  | false => exact isSteady_of_not_isSolid hsolid

end Courier
