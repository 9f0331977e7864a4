/-
  The name that an ASCII form stands for is not longer than the form.

  Punycode writes at least one character for every code point of a label: those of ASCII as they are, and a number
  for each of the others, because the writer stops at every place where one of its points stands.  So a label in
  ASCII form is longer than what it stands for by its mark, and a name that begins with the mark is longer than the
  name that it is decoded to (`Idna.length_le_of_decode`).

  1. The writer goes over the label once for each point.  In one turn it writes a number at every place where the
     point stands (`length_out_foldl_pass`), and over all turns one at every place of one of the points
     (`length_out_foldl_place`).  A number is never empty, so counting places is enough; how long the numbers are
     does not matter.

  2. Every code point outside ASCII is one of the points (`countP_le_length_numbers`), and those of ASCII are
     written as they are, so no code point goes without a character (`length_le_length_encode`).

  3. A name is cut at its full stops and put together again.  Both ways the lengths of the pieces add up to that of
     the name without its full stops (`length_flatten_splitOnP`, `length_intercalate`), and decoding keeps the
     number of pieces.  So what the pieces lose, the name loses (`sizes_of_mapM`).

  The mark of a name is the mark of its first piece, because it holds no full stop (`exists_piece_of_mark`).
-/
import Courier.Idna.Label
import Courier.Proofs.Idna.Alphabet
import Courier.Proofs.Basic

namespace Courier

namespace Idna

namespace Punycode

theorem writeNumber_ne_nil (bias place n : Nat) : writeNumber bias place n ≠ [] := by
  rw [writeNumber]
  dsimp only
  split
  · exact List.cons_ne_nil _ _
  · exact List.cons_ne_nil _ _

theorem length_out_pass (point : Nat) (st : State) (c : Nat) :
    st.out.length + (if c = point then 1 else 0) ≤ (pass point st c).out.length := by
  rw [pass]
  by_cases hpoint : c = point
  · have hnumber := List.length_pos_iff.mpr (writeNumber_ne_nil st.bias 0 st.delta)
    rw [if_pos hpoint, if_neg (by omega), if_pos hpoint, List.length_append]
    omega
  · rw [if_neg hpoint, if_neg hpoint]
    split <;> exact Nat.le_refl _

/-- Once over a label, the writer stops wherever the point stands. -/
theorem length_out_foldl_pass (point : Nat) (label : List Nat) (st : State) :
    st.out.length + label.count point ≤ (label.foldl (pass point) st).out.length := by
  induction label generalizing st with
  | nil => exact Nat.le_refl _
  | cons c rest ih =>
    have hpass := length_out_pass point st c
    have hrest := ih (pass point st c)
    rw [List.foldl_cons, List.count_cons]
    simp only [beq_iff_eq]
    omega

/-- The places of several points are those of the first and those of the others, or fewer. -/
theorem countP_contains_cons_le (label rest : List Nat) (point : Nat) :
    label.countP (point :: rest).contains ≤ label.count point + label.countP rest.contains := by
  induction label with
  | nil => exact Nat.le_refl _
  | cons c label ih =>
    rw [List.countP_cons, List.countP_cons, List.count_cons, List.contains_cons]
    cases hpoint : c == point with
    | true =>
      rw [Bool.true_or, if_pos rfl]
      omega
    | false =>
      rw [Bool.false_or, if_neg Bool.false_ne_true]
      omega

/-- Over all points, it stops at every code point that is one of them. -/
theorem length_out_foldl_place (label points : List Nat) (st : State × Nat) :
    st.1.out.length + label.countP points.contains ≤ (points.foldl (place label) st).1.out.length := by
  induction points generalizing st with
  | nil =>
    have hnone : label.countP (List.contains []) = 0 := List.countP_eq_zero.mpr fun _ _ => Bool.false_ne_true
    rw [hnone]
    exact Nat.le_refl _
  | cons point rest ih =>
    have hrest := ih (place label st point)
    -- one turn, whatever the count it begins with
    have hplace : st.1.out.length + label.count point ≤ (place label st point).1.out.length :=
      length_out_foldl_pass point label { st.1 with delta := st.1.delta + (point - st.2) * (st.1.placed + 1) }
    have hcount := countP_contains_cons_le label rest point
    rw [List.foldl_cons]
    omega

theorem countP_le_length_numbers (label : List Nat) : label.countP (0x80 ≤ ·) ≤ (numbers label).length := by
  have hwritten := length_out_foldl_place label (wides label)
    ({ placed := (basics label).length, delta := 0, bias := 72, isFirst := true, out := [] }, 0x80)
  rw [List.length_nil, Nat.zero_add] at hwritten
  refine Nat.le_trans (List.countP_mono_left fun c hc hwide => ?_) hwritten
  exact List.contains_iff_mem.mpr (mem_wides.mpr ⟨hc, of_decide_eq_true hwide⟩)

/-- **Punycode has a character for every code point.** -/
theorem length_le_length_encode (label : List Nat) : label.length ≤ (encode label).length := by
  have hnumbers := countP_le_length_numbers label
  have hbasics : (basics label).length = label.countP (· < 0x80) := by
    rw [basics, List.length_map, List.countP_eq_length_filter]
  have hall : label.length = label.countP (· < 0x80) + label.countP (0x80 ≤ ·) := by
    rw [List.length_eq_countP_add_countP (· < 0x80)]
    refine congrArg (label.countP (· < 0x80) + ·) (List.countP_congr fun c _ => ?_)
    simp
  rw [encode_eq]
  split
  · -- without characters of ASCII there is no hyphen
    rename_i hempty
    rw [List.isEmpty_iff.mp hempty, List.length_nil] at hbasics
    omega
  · rw [List.length_append, List.length_cons]
    omega

end Punycode

/-! ## Labels

  A label in ASCII form has the mark and then punycode, or it is the label itself. -/

/-- A label is not longer than its ASCII form, and shorter when that has the mark. -/
theorem length_le_of_decodeLabel {label : Text} {points : List Nat} (h : decodeLabel label = .ok points) :
    points.length ≤ label.length ∧ (asciiMark <+: label → points.length < label.length) := by
  obtain ⟨_, hwritten | ⟨hmark, rfl⟩⟩ := of_decodeLabel h
  · -- punycode behind the mark: four characters more at least
    have hlength := congrArg List.length hwritten
    rw [List.length_map, List.length_append] at hlength
    have hpoints := Punycode.length_le_length_encode points
    have hfour : asciiMark.length = 4 := rfl
    exact ⟨by omega, fun _ => by omega⟩
  · refine ⟨by rw [List.length_map, List.length_map], fun hprefix => absurd ?_ hmark⟩
    exact hprefix.map Char.toLower

/-! ## Names

  The lengths of the labels are summed up, with a full stop between any two. -/

/-- The length of pieces that are put together, counted with one mark more. -/
theorem length_intercalate {α : Type} (between : α) {parts : List (List α)} (h : parts ≠ []) :
    ([between].intercalate parts).length + 1 = parts.flatten.length + parts.length := by
  induction parts with
  | nil => exact absurd rfl h
  | cons part rest ih =>
    cases rest with
    | nil => simp [List.intercalate]
    | cons next rest =>
      have hrest := ih (List.cons_ne_nil _ _)
      rw [List.intercalate] at hrest ⊢
      rw [List.intersperse_cons_cons, List.flatten_cons, List.flatten_cons, List.length_append, List.length_append,
        List.flatten_cons (l := part), List.length_append, List.length_cons (a := part), List.length_singleton]
      omega

/-- The lengths of the pieces of a text. -/
theorem length_flatten_splitOnP {α : Type} (p : α → Bool) (s : List α) :
    (s.splitOnP p).flatten.length + (s.splitOnP p).length = s.length + 1 := by
  induction s with
  | nil => rw [List.splitOnP_nil]; rfl
  | cons c rest ih =>
    rw [List.splitOnP_cons_eq_if_modifyHead]
    split
    · rw [List.flatten_cons, List.nil_append, List.length_cons, List.length_cons]
      omega
    · obtain ⟨first, others, hsplit⟩ := List.exists_cons_of_ne_nil (List.splitOnP_ne_nil p rest)
      rw [hsplit] at ih ⊢
      rw [List.flatten_cons, List.length_append, List.length_cons] at ih
      rw [List.modifyHead_cons, List.flatten_cons, List.length_append, List.length_cons, List.length_cons,
        List.length_cons]
      omega

/-- The labels of a name are its pieces, and an empty one behind a trailing dot. -/
theorem of_labelsOf {name : Text} {labels : List Text} {dotted : Bool} (h : labelsOf name = .ok (labels, dotted)) :
    labels ++ (if dotted then [[]] else []) = name.splitOnP isDot := by
  rw [labelsOf] at h
  split at h
  · exact nomatch h
  · dsimp only at h
    split at h
    · exact nomatch h
    · split at h
      · rename_i hlast
        obtain ⟨rfl, rfl⟩ := Prod.mk.inj (Except.ok.inj h)
        obtain ⟨pieces, hpieces⟩ := List.getLast?_eq_some_iff.mp (beq_iff_eq.mp hlast)
        rw [hpieces, List.dropLast_concat]
        rfl
      · obtain ⟨rfl, rfl⟩ := Prod.mk.inj (Except.ok.inj h)
        exact List.append_nil _

/-- A piece of a text holds nothing else than the text. -/
theorem mem_of_mem_splitOnP {α : Type} {p : α → Bool} {s part : List α} (hpart : part ∈ s.splitOnP p) {x : α}
    (hx : x ∈ part) : x ∈ s := by
  induction s generalizing part with
  | nil =>
    rw [List.splitOnP_nil, List.mem_singleton] at hpart
    exact hpart ▸ hx
  | cons c rest ih =>
    rw [List.splitOnP_cons_eq_if_modifyHead] at hpart
    split at hpart
    · rcases List.mem_cons.mp hpart with rfl | hpart
      · exact absurd hx List.not_mem_nil
      · exact List.mem_cons_of_mem _ (ih hpart hx)
    · obtain ⟨first, others, hsplit⟩ := List.exists_cons_of_ne_nil (List.splitOnP_ne_nil p rest)
      rw [hsplit, List.modifyHead_cons] at hpart
      rw [hsplit] at ih
      rcases List.mem_cons.mp hpart with rfl | hpart
      · rcases List.mem_cons.mp hx with rfl | hx
        · exact List.mem_cons_self ..
        · exact List.mem_cons_of_mem _ (ih (List.mem_cons_self ..) hx)
      · exact List.mem_cons_of_mem _ (ih (List.mem_cons_of_mem _ hpart) hx)

theorem mem_of_labelsOf {name : Text} {labels : List Text} {dotted : Bool} (h : labelsOf name = .ok (labels, dotted))
    {label : Text} (hlabel : label ∈ labels) {c : Char} (hc : c ∈ label) : c ∈ name :=
  mem_of_mem_splitOnP (of_labelsOf h ▸ List.mem_append_left _ hlabel) hc

/-- The first piece of a name that begins with the mark begins with it too. -/
theorem exists_piece_of_mark {name : Text} (h : asciiMark <+: name) :
    ∃ first others, name.splitOnP isDot = first :: others ∧ asciiMark <+: first := by
  obtain ⟨rest, rfl⟩ := h
  obtain ⟨first, others, hsplit⟩ := List.exists_cons_of_ne_nil (List.splitOnP_ne_nil isDot rest)
  refine ⟨asciiMark ++ first, others, ?_, List.prefix_append ..⟩
  have hstep {c : Char} (hc : isDot c = false) {t f : Text} {fs : List Text} (ht : t.splitOnP isDot = f :: fs) :
      (c :: t).splitOnP isDot = (c :: f) :: fs := by
    rw [List.splitOnP_cons_eq_if_modifyHead, hc, if_neg Bool.false_ne_true, ht, List.modifyHead_cons]
  have hmark : asciiMark = ['x', 'n', '-', '-'] := by decide
  rw [hmark]
  exact hstep (by decide) (hstep (by decide) (hstep (by decide) (hstep (by decide) hsplit)))

/-- Decoded labels are as many as before, and not longer in all. -/
theorem sizes_of_mapM {labels : List Text} {read : List (List Nat)} (h : labels.mapM decodeLabel = .ok read) :
    read.length = labels.length ∧ read.flatten.length ≤ labels.flatten.length ∧
      ((∃ first others, labels = first :: others ∧ asciiMark <+: first) →
        read.flatten.length < labels.flatten.length) := by
  induction labels generalizing read with
  | nil =>
    rw [← Except.ok.inj h]
    refine ⟨rfl, Nat.le_refl _, ?_⟩
    rintro ⟨first, others, heq, _⟩
    exact absurd heq.symm (List.cons_ne_nil _ _)
  | cons label rest ih =>
    rw [List.mapM_cons] at h
    obtain ⟨points, hlabel, h⟩ := exists_of_bind_eq_ok h
    obtain ⟨others, hrest, h⟩ := exists_of_bind_eq_ok h
    obtain rfl := Except.ok.inj h
    obtain ⟨hlength, hsum, _⟩ := ih hrest
    obtain ⟨hle, hlt⟩ := length_le_of_decodeLabel hlabel
    rw [List.length_cons, List.length_cons, hlength, List.flatten_cons, List.flatten_cons, List.length_append,
      List.length_append]
    refine ⟨rfl, by omega, ?_⟩
    rintro ⟨first, _, heq, hmark⟩
    rw [← (List.cons.inj heq).1] at hmark
    have hlt := hlt hmark
    omega

/-- **The name that an ASCII form stands for** is not longer than the form, and shorter when that begins with the
    mark. -/
theorem length_le_of_decode {name : Text} {points : List Nat} (h : decode name = .ok points) :
    points.length ≤ name.length ∧ (asciiMark <+: name → points.length < name.length) := by
  rw [decode] at h
  obtain ⟨⟨labels, dotted⟩, hlabels, h⟩ := exists_of_bind_eq_ok h
  obtain ⟨read, hread, h⟩ := exists_of_bind_eq_ok h
  obtain rfl := Except.ok.inj h
  obtain ⟨hcount, hsum, hstrict⟩ := sizes_of_mapM hread
  have hpieces := of_labelsOf hlabels
  have hname := length_flatten_splitOnP isDot name
  rw [← hpieces, List.flatten_append, List.length_append, List.length_append] at hname
  -- as many pieces, and the same empty one at the end
  have hend : (if dotted then [[]] else [] : List (List Nat)).flatten.length =
        (if dotted then [[]] else [] : List Text).flatten.length ∧
      (if dotted then [[]] else [] : List (List Nat)).length = (if dotted then [[]] else [] : List Text).length := by
    cases dotted <;> exact ⟨rfl, rfl⟩
  have hne : read ++ (if dotted then [[]] else []) ≠ [] := by
    intro hempty
    have hlength := congrArg List.length hempty
    rw [List.length_append, hcount, hend.2, ← List.length_append, hpieces, List.length_nil] at hlength
    exact List.splitOnP_ne_nil isDot name (List.length_eq_zero_iff.mp hlength)
  have hpoints := length_intercalate 46 hne
  rw [List.flatten_append, List.length_append, List.length_append, hend.1, hend.2, hcount] at hpoints
  refine ⟨by omega, fun hmark => ?_⟩
  obtain ⟨first, others, hsplit, hfirst⟩ := exists_piece_of_mark hmark
  have hstrict := hstrict (by
    rw [hsplit] at hpieces
    cases labels with
    | nil =>
      -- then the only piece is the empty one
      cases dotted with
      | false => exact nomatch hpieces
      | true =>
        obtain ⟨rfl, _⟩ := List.cons.inj hpieces
        exact absurd (List.prefix_nil.mp hfirst) (by decide)
    | cons label rest =>
      obtain ⟨rfl, _⟩ := List.cons.inj hpieces
      exact ⟨label, rest, rfl, hfirst⟩)
  omega

end Idna

end Courier
