/-
  Punycode is read back as it was written.

  The writer goes over the label once for each of its code points outside ASCII, in ascending order, and counts the
  places that it passes; the reader moves on by these counts.  Both count the same thing: the pairs of a code point
  and a place that lie between one insertion and the next.  When the writer stands at a place with a point, the
  label of the reader holds what is below the point, and the point where it was passed, and the sum

  `place of the reader + count of the writer = (point − point of the reader) · (length + 1) + places passed`

  does not change while the writer moves on.  So the number that it writes takes the reader to the same point and
  place, and at the end the label is there (`Punycode.decode?_encode`).

  1. A number is read back as it was written, digit by digit (`readNumber_writeNumber`).  The writer stops below a
     threshold that depends on the place of the digit, and the reader stops at the same digit.

  2. `Reads` says where the reader has come to when it has read all that is written: a label, a point and a place.
     It is said of every continuation of the text, so that reading can go on from there.  `Reads.written` is one
     insertion, in which division and remainder by the length take the number apart into the point and the place
     that the sum put together.

  3. `Scans` is the invariant within a turn, with the label cut where the writer stands.  One step keeps it in each
     of its three cases: a smaller point is a place that is passed, the point itself is an insertion, and a larger
     point is not there yet (`scans_pass`).

  4. `Stands` is the invariant between turns.  Points that the label has none of are passed all at once
     (`Stands.scans`), which is what the writer does by a multiplication.

  The points are in ascending order and without repetitions because they were sorted (`pairwise_wides`), and the
  numbers hold no hyphen, so the text is cut at the right one.
-/
import Courier.Proofs.Idna.Length
import Courier.Proofs.Text.Case
import Mathlib.Tactic.Ring

namespace Courier

namespace Idna

namespace Punycode

/-! ## Numbers

  A number is written in digits of a base that changes from place to place, and it ends with a digit below the
  threshold of its place.  By induction along the writer, the reader takes off the digits that were written and no
  more, and adds up what they are worth. -/

theorem digitValue?_digitChar {d : Nat} (h : d < 36) : digitValue? (digitChar d) = some d := by
  have hall : ∀ d : Fin 36, digitValue? (digitChar d) = some d.val := by decide +kernel
  exact hall ⟨d, h⟩

/-- **A number is read back**, with what it is worth from its place on. -/
theorem readNumber_writeNumber (bias place n : Nat) (weight value : Nat) (rest : Text) :
    readNumber bias place weight value (writeNumber bias place n ++ rest) = some (value + n * weight, rest) := by
  fun_induction writeNumber bias place n generalizing weight value with
  -- the last digit: the reader stops where the writer did
  | case1 place n t hlt =>
    have ht : t ≤ 26 := threshold_le place bias
    have hdigit : digitValue? (digitChar n) = some n := digitValue?_digitChar (by omega)
    rw [List.singleton_append, readNumber, hdigit]
    exact if_pos hlt
  | case2 place n t hge hlt ih =>
    have ht : t ≤ 26 := threshold_le place bias
    have hmod : (n - t) % (36 - t) < 36 - t := Nat.mod_lt _ (by omega)
    have hdigit : digitValue? (digitChar (t + (n - t) % (36 - t))) = some (t + (n - t) % (36 - t)) :=
      digitValue?_digitChar (by omega)
    have hlarge : ¬ t + (n - t) % (36 - t) < threshold place bias := Nat.not_lt.mpr (Nat.le_add_right t _)
    -- the digit and what follows it make up the number
    have hsum : t + (n - t) % (36 - t) + (n - t) / (36 - t) * (36 - t) = n := by
      have hdiv := Nat.mod_add_div' (n - t) (36 - t)
      omega
    rw [List.cons_append, readNumber, hdigit]
    dsimp only
    rw [if_neg hlarge, ih, Option.some.injEq, Prod.mk.injEq]
    refine ⟨?_, rfl⟩
    calc value + (t + (n - t) % (36 - t)) * weight + (n - t) / (36 - t) * (weight * (36 - t))
        = value + (t + (n - t) % (36 - t) + (n - t) / (36 - t) * (36 - t)) * weight := by ring
      _ = value + n * weight := by rw [hsum]

/-! ## Insertions

  A number tells the reader how many places to pass before it puts in a code point.  Counting goes through the pairs
  of a code point and a place, in order. -/

theorem readInsertions_nil (label : List Nat) (point place bias : Nat) (isFirst : Bool) :
    readInsertions label point place bias isFirst [] = some label := by
  rw [readInsertions]
  rfl

/-- A number moves the reader on through the pairs of a point and a place. -/
theorem readInsertions_of_number {label : List Nat} {point place bias delta : Nat} {isFirst : Bool} {s rest : Text}
    (h : readNumber bias 0 1 0 s = some (delta, rest))
    (hpoint : point + (place + delta) / (label.length + 1) ≤ 0x10ffff) :
    readInsertions label point place bias isFirst s =
      readInsertions
        (insertAt label ((place + delta) % (label.length + 1)) (point + (place + delta) / (label.length + 1)))
        (point + (place + delta) / (label.length + 1)) ((place + delta) % (label.length + 1) + 1)
        (adapt delta isFirst (label.length + 1)) false rest := by
  have hne : s.isEmpty = false := by
    cases s with
    | nil => exact absurd h (by simp [readNumber])
    | cons c t => rfl
  rw [readInsertions, hne, if_neg Bool.false_ne_true]
  split
  · rename_i hnone
    exact absurd (hnone.symm.trans h) (by simp)
  · rename_i found left hfound
    obtain ⟨rfl, rfl⟩ := Prod.mk.inj (Option.some.inj (hfound.symm.trans h))
    dsimp only
    rw [if_neg (Nat.not_lt_of_le hpoint)]

/-- Reading what a writer has written, from this label on, leads to this label, point and place. -/
structure Reads (start : List Nat) (st : State) (label : List Nat) (point place : Nat) : Prop where
  read : ∀ rest, readInsertions start 0x80 0 72 true (st.out ++ rest) =
    readInsertions label point place st.bias st.isFirst rest
  placed : st.placed = label.length

variable {start label : List Nat} {st : State} {point place : Nat}

/-- **An insertion**: the writer stops with a count that leads to this point and this place. -/
theorem Reads.written {next k : Nat} (h : Reads start st label point place) (hle : point ≤ next)
    (hnext : next ≤ 0x10ffff) (hk : k ≤ label.length)
    (hcount : place + st.delta = (next - point) * (label.length + 1) + k) :
    Reads start
      { placed := st.placed + 1, delta := 0, bias := adapt st.delta st.isFirst (st.placed + 1), isFirst := false
        out := st.out ++ writeNumber st.bias 0 st.delta }
      (insertAt label k next) next (k + 1) := by
  -- the count is the point and the place in one number
  have hdiv : (place + st.delta) / (label.length + 1) = next - point := by
    rw [hcount, Nat.mul_comm, Nat.mul_add_div (Nat.succ_pos _), Nat.div_eq_of_lt (by omega), Nat.add_zero]
  have hmod : (place + st.delta) % (label.length + 1) = k := by
    rw [hcount, Nat.mul_comm, Nat.mul_add_mod, Nat.mod_eq_of_lt (by omega)]
  have hsame : point + (next - point) = next := by omega
  constructor
  case read =>
    intro rest
    have hnumber : readNumber st.bias 0 1 0 (writeNumber st.bias 0 st.delta ++ rest) = some (st.delta, rest) := by
      rw [readNumber_writeNumber, Nat.zero_add, Nat.mul_one]
    rw [List.append_assoc, h.read, readInsertions_of_number hnumber (by omega), hdiv, hmod, hsame, h.placed]
  case placed =>
    show st.placed + 1 = (insertAt label k next).length
    rw [insertAt, List.length_append, List.length_cons, List.length_take, List.length_drop, h.placed]
    omega

/-! ## Once over the label

  The writer goes through the label once for each code point, and counts the places at which a smaller one stands
  already.  Where the code point itself stands it writes the count and begins anew. -/

/-- The writer has passed the front of the label with this point, and the back of it is to come. -/
def Scans (start : List Nat) (point : Nat) (front back : List Nat) (st : State) : Prop :=
  ∃ before place, before ≤ point ∧
    Reads start st (front.filter (· ≤ point) ++ back.filter (· < point)) before place ∧
    place + st.delta = (point - before) * ((front.filter (· ≤ point) ++ back.filter (· < point)).length + 1) +
      (front.filter (· ≤ point)).length

variable {front back : List Nat}

/-- **One step of the writer.** -/
theorem scans_pass {c : Nat} (h : Scans start point front (c :: back) st) (hpoint : point ≤ 0x10ffff) :
    Scans start point (front ++ [c]) back (pass point st c) := by
  obtain ⟨before, place, hbefore, hreads, hcount⟩ := h
  rw [pass]
  rcases Nat.lt_trichotomy c point with hlt | rfl | hgt
  · -- a place that is passed
    have hback : (c :: back).filter (· < point) = c :: back.filter (· < point) :=
      List.filter_cons_of_pos (decide_eq_true hlt)
    have hone : [c].filter (· ≤ point) = [c] := List.filter_cons_of_pos (decide_eq_true (Nat.le_of_lt hlt))
    have hfront : (front ++ [c]).filter (· ≤ point) = front.filter (· ≤ point) ++ [c] := by
      rw [List.filter_append, hone]
    rw [hback] at hreads hcount
    rw [if_pos hlt]
    refine ⟨before, place, hbefore, ?_, ?_⟩
    · rw [hfront, List.append_assoc]
      exact ⟨hreads.read, hreads.placed⟩
    · rw [hfront, List.append_assoc, List.singleton_append, @List.length_append _ (front.filter _) [c]]
      show place + (st.delta + 1) = _
      rw [← Nat.add_assoc, hcount, Nat.add_assoc]
      rfl
  · -- the place of an insertion
    have hback : (c :: back).filter (· < c) = back.filter (· < c) :=
      List.filter_cons_of_neg (by simp)
    have hone : [c].filter (· ≤ c) = [c] := List.filter_cons_of_pos (decide_eq_true (Nat.le_refl c))
    have hfront : (front ++ [c]).filter (· ≤ c) = front.filter (· ≤ c) ++ [c] := by
      rw [List.filter_append, hone]
    rw [hback] at hreads hcount
    rw [if_neg (Nat.lt_irrefl c), if_pos rfl]
    have hinsert : insertAt (front.filter (· ≤ c) ++ back.filter (· < c)) (front.filter (· ≤ c)).length c =
        (front ++ [c]).filter (· ≤ c) ++ back.filter (· < c) := by
      rw [insertAt, List.take_left, List.drop_left, hfront, List.append_assoc, List.singleton_append]
    have hwritten := hreads.written hbefore hpoint (by rw [List.length_append]; omega) hcount
    rw [hinsert] at hwritten
    refine ⟨c, _, Nat.le_refl c, hwritten, ?_⟩
    rw [hfront, @List.length_append _ (front.filter _) [c], Nat.sub_self, Nat.zero_mul, Nat.zero_add]
    rfl
  · -- a point of a later turn
    have hback : (c :: back).filter (· < point) = back.filter (· < point) :=
      List.filter_cons_of_neg (by simp; omega)
    have hnone : [c].filter (· ≤ point) = [] := List.filter_cons_of_neg (by simp; omega)
    have hfront : (front ++ [c]).filter (· ≤ point) = front.filter (· ≤ point) := by
      rw [List.filter_append, hnone, List.append_nil]
    rw [hback] at hreads hcount
    rw [if_neg (by omega), if_neg (by omega)]
    refine ⟨before, place, hbefore, ?_, ?_⟩
    · rw [hfront]
      exact hreads
    · rw [hfront]
      exact hcount

/-- A whole turn. -/
theorem scans_foldl_pass (h : Scans start point front back st) (hpoint : point ≤ 0x10ffff) :
    Scans start point (front ++ back) [] (back.foldl (pass point) st) := by
  induction back generalizing front st with
  | nil =>
    rw [List.append_nil]
    exact h
  | cons c back ih =>
    have hrest := ih (scans_pass h hpoint)
    rw [List.append_assoc, List.singleton_append] at hrest
    exact hrest

/-! ## Over all points

  In the outer recursion the code points come in ascending order.  The invariant says which of them are placed, and
  where the reader stands when it has read what was written. -/

/-- The writer stands between two points: what is below the second is placed. -/
def Stands (start label : List Nat) (next : Nat) (st : State) : Prop :=
  ∃ before place, before ≤ next ∧ Reads start st (label.filter (· < next)) before place ∧
    place + st.delta = (next - before) * ((label.filter (· < next)).length + 1)

/-- Points that the label has none of are passed all at once. -/
theorem Stands.scans {next : Nat} (h : Stands start label next st) (hle : next ≤ point)
    (hnone : ∀ c ∈ label, next ≤ c → point ≤ c) :
    Scans start point [] label { st with delta := st.delta + (point - next) * (st.placed + 1) } := by
  obtain ⟨before, place, hbefore, hreads, hcount⟩ := h
  have hsame : label.filter (· < point) = label.filter (· < next) := by
    refine List.filter_congr fun c hc => decide_eq_decide.mpr ⟨fun hlt => ?_, fun hlt => by omega⟩
    by_contra hge
    exact absurd (hnone c hc (Nat.le_of_not_lt hge)) (Nat.not_le_of_lt hlt)
  have hsum : (next - before) + (point - next) = point - before := by omega
  refine ⟨before, place, by omega, ?_, ?_⟩
  · rw [List.filter_nil, List.nil_append, hsame]
    exact ⟨hreads.read, hreads.placed⟩
  · rw [List.filter_nil, List.nil_append, hsame, List.length_nil, Nat.add_zero, ← hsum, Nat.add_mul, ← hcount,
      hreads.placed]
    exact (Nat.add_assoc ..).symm

/-- Behind the label, the next point begins. -/
theorem Scans.stands (h : Scans start point label [] st) :
    Stands start label (point + 1) { st with delta := st.delta + 1 } := by
  obtain ⟨before, place, hbefore, hreads, hcount⟩ := h
  have hsame : label.filter (· < point + 1) = label.filter (· ≤ point) :=
    List.filter_congr fun c _ => decide_eq_decide.mpr Nat.lt_succ_iff
  have hsucc : point + 1 - before = (point - before) + 1 := by omega
  rw [List.filter_nil, List.append_nil] at hreads hcount
  refine ⟨before, place, by omega, ?_, ?_⟩
  · rw [hsame]
    exact ⟨hreads.read, hreads.placed⟩
  · rw [hsame, hsucc, Nat.add_mul, Nat.one_mul]
    show place + (st.delta + 1) = _
    omega

theorem stands_place {next : Nat} (h : Stands start label next st) (hle : next ≤ point) (hpoint : point ≤ 0x10ffff)
    (hnone : ∀ c ∈ label, next ≤ c → point ≤ c) :
    Stands start label (point + 1) (Punycode.place label (st, next) point).1 :=
  (scans_foldl_pass (h.scans hle hnone) hpoint).stands

/-- **All points** are placed in ascending order, and then the label is complete. -/
theorem reads_foldl_place {next : Nat} {points : List Nat} (h : Stands start label next st)
    (hsorted : points.Pairwise (· < ·)) (hlow : ∀ p ∈ points, next ≤ p ∧ p ≤ 0x10ffff)
    (hall : ∀ c ∈ label, next ≤ c → c ∈ points) :
    readInsertions start 0x80 0 72 true (points.foldl (Punycode.place label) (st, next)).1.out = some label := by
  induction points generalizing next st with
  | nil =>
    -- nothing of the label is left above the last point
    have hcomplete : label.filter (· < next) = label := by
      refine List.filter_eq_self.mpr fun c hc => decide_eq_true ?_
      by_contra hge
      exact absurd (hall c hc (Nat.le_of_not_lt hge)) List.not_mem_nil
    obtain ⟨before, place, _, hreads, _⟩ := h
    have hread := hreads.read []
    rw [List.append_nil, readInsertions_nil, hcomplete] at hread
    exact hread
  -- no point of the label lies between the last one and this one
  | cons p rest ih =>
    obtain ⟨hbelow, hsorted⟩ := List.pairwise_cons.mp hsorted
    obtain ⟨hle, hpoint⟩ := hlow p (List.mem_cons_self ..)
    have hstands := stands_place h hle hpoint fun c hc hge => by
      rcases List.mem_cons.mp (hall c hc hge) with rfl | hrest
      · exact Nat.le_refl c
      · exact Nat.le_of_lt (hbelow c hrest)
    refine ih hstands hsorted (fun q hq => ⟨hbelow q hq, (hlow q (List.mem_cons_of_mem _ hq)).2⟩) fun c hc hge => ?_
    rcases List.mem_cons.mp (hall c hc (by omega)) with rfl | hrest
    · exact absurd hge (Nat.not_succ_le_self c)
    · exact hrest

/-! ## The points

  The code points outside ASCII, sorted and each once, are what the outer recursion goes through. -/

/-- Sorted without repetitions is strictly sorted. -/
theorem pairwise_lt_eraseDups {s : List Nat} (h : s.Pairwise (· ≤ ·)) : s.eraseDups.Pairwise (· < ·) := by
  induction hn : s.length using Nat.strongRecOn generalizing s with
  | ind n ih =>
    cases s with
    | nil => exact List.Pairwise.nil
    | cons a rest =>
      obtain ⟨hbelow, hrest⟩ := List.pairwise_cons.mp h
      have hshort : (rest.filter fun b => !b == a).length < n := by
        rw [← hn, List.length_cons]
        exact Nat.lt_succ_of_le (List.length_filter_le _ _)
      rw [List.eraseDups_cons, List.pairwise_cons]
      refine ⟨fun b hb => ?_, ih _ hshort (hrest.sublist List.filter_sublist) rfl⟩
      obtain ⟨hb, hne⟩ := List.mem_filter.mp (List.mem_eraseDups.mp hb)
      exact Nat.lt_of_le_of_ne (hbelow b hb) fun hsame => by simp [hsame] at hne

/-- The points outside ASCII stand in ascending order, each once. -/
theorem pairwise_wides (label : List Nat) : (wides label).Pairwise (· < ·) := by
  refine pairwise_lt_eraseDups ?_
  have hsorted : (label.filter (0x80 ≤ ·)).mergeSort.Pairwise fun a b => decide (a ≤ b) = true :=
    List.pairwise_mergeSort (by simp; omega) (by simp; omega) (label.filter (0x80 ≤ ·))
  exact hsorted.imp fun h => of_decide_eq_true h

/-- The reader begins with the ASCII points of the label. -/
theorem map_toNat_basics (label : List Nat) : (basics label).map Char.toNat = label.filter (· < 0x80) := by
  rw [basics, List.map_map]
  refine (List.map_congr_left fun c hc => ?_).trans (List.map_id _)
  have hlow : c < 0x80 := of_decide_eq_true (List.mem_filter.mp hc).2
  exact toNat_ofNat (Or.inl (by omega))

theorem readInsertions_numbers (hlabel : ∀ c ∈ label, c ≤ 0x10ffff) :
    readInsertions ((basics label).map Char.toNat) 0x80 0 72 true (numbers label) = some label := by
  have hstart : Stands (label.filter (· < 0x80)) label 0x80
      { placed := (basics label).length, delta := 0, bias := 72, isFirst := true, out := [] } := by
    refine ⟨0x80, 0, Nat.le_refl _, ⟨fun rest => rfl, ?_⟩, ?_⟩
    · rw [← map_toNat_basics, List.length_map]
    · rw [Nat.sub_self, Nat.zero_mul]
      rfl
  rw [map_toNat_basics]
  refine reads_foldl_place hstart (pairwise_wides label) (fun p hp => ?_) fun c hc hge => mem_wides.mpr ⟨hc, hge⟩
  obtain ⟨hp, hge⟩ := mem_wides.mp hp
  exact ⟨hge, hlabel p hp⟩

/-! ## The text

  The characters in ASCII come first, and the last hyphen parts them from the digits, since no digit is a hyphen. -/

theorem not_mem_numbers (label : List Nat) : '-' ∉ numbers label := by
  intro hmem
  obtain ⟨d, hd, hyphen⟩ := digit_of_mem_numbers hmem
  exact (digitChar_facts hd).2.2 hyphen.symm

/-- **Punycode is read back as it was written.** -/
theorem decode?_encode (hlabel : ∀ c ∈ label, c ≤ 0x10ffff) : decode? (encode label) = some label := by
  have hread := readInsertions_numbers hlabel
  have hmark := not_mem_numbers label
  rw [encode_eq]
  cases hempty : (basics label).isEmpty with
  | true =>
    rw [List.isEmpty_iff.mp hempty] at hread
    rw [if_pos rfl, decode?, cutLast_of_notMem hmark]
    exact hread
  | false =>
    rw [if_neg Bool.false_ne_true, decode?, cutLast_append_mark hmark]
    exact hread

/-- A label that is not all of ASCII has a number at its end. -/
theorem numbers_ne_nil {c : Nat} (hc : c ∈ label) (hwide : 0x80 ≤ c) : numbers label ≠ [] := by
  have hpos : 0 < label.countP (0x80 ≤ ·) := List.countP_pos_iff.mpr ⟨c, hc, decide_eq_true hwide⟩
  exact List.length_pos_iff.mp (Nat.lt_of_lt_of_le hpos (countP_le_length_numbers label))

/-- The punycode of a label that is not all of ASCII neither is empty nor ends with a hyphen. -/
theorem encode_of_wide {c : Nat} (hc : c ∈ label) (hwide : 0x80 ≤ c) :
    encode label ≠ [] ∧ (encode label).getLast? ≠ some '-' := by
  have hne := numbers_ne_nil hc hwide
  have hlast : (encode label).getLast? = (numbers label).getLast? := by
    obtain ⟨last, hlast⟩ := Option.isSome_iff_exists.mp (List.getLast?_isSome.mpr hne)
    rw [encode_eq]
    split
    · rfl
    · rw [List.getLast?_append, List.getLast?_cons, hlast]
      rfl
  constructor
  · intro hnil
    rw [hnil] at hlast
    exact hne (List.getLast?_eq_none_iff.mp hlast.symm)
  · rw [hlast]
    exact fun hyphen => not_mem_numbers label (List.mem_of_getLast? hyphen)

end Punycode

end Idna

end Courier
