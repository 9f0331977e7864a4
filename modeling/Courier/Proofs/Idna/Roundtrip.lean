/-
  Every name that is written in ASCII form can be read.

  A label outside ASCII is written behind the mark as punycode, and punycode is read back; a label in ASCII is
  written as it is, and only after it was read.  So what writing gives is always a label again
  (`Idna.exists_decodeLabel`).  The reader makes more demands on punycode than that it can be read: there must be
  something behind the mark, it must not end with a hyphen, and writing it again must give the same text, in lower
  case.  All of these are met by what was written (`decodeLabel_of_wide`).

  The labels hold no full stop, so the name is cut where it was put together (`labelsOf_intercalate`), with an empty
  label at its end if there was one.  `Idna.exists_decode_of_encode` is the result: a URL whose host was put in
  ASCII form has a host name.

  The second part is about the case of letters.  Reading a name does not look at it (`Idna.decode_map_toLower`):
  labels are put in lower case before they are read, and a full stop is one in either case, so the name falls into
  the same labels.  A name that is in lower case is written in lower case (`toLower_of_encode`).
-/
import Courier.Proofs.Idna.Punycode

namespace Courier

namespace Idna

/-! ## Labels

  A label that is written in ASCII form was checked before, and what is written is checked again when it is read.
  The checks are the same, so a label that can be written can be read. -/

theorem toLower_of_isLabelPoint {n : Nat} (hn : n < 128) (h : isLabelPoint n = true) :
    (Char.ofNat n).toLower = Char.ofNat n := by
  have hall : ∀ n : Fin 128, isLabelPoint n = true → (Char.ofNat n).toLower = Char.ofNat n := by decide +kernel
  exact hall ⟨n, hn⟩ h

theorem toLower_of_mem_asciiMark {c : Char} (h : c ∈ asciiMark) : c.toLower = c := by
  have hmark : asciiMark.all (fun c => c.toLower == c) = true := by decide
  exact beq_iff_eq.mp (List.all_eq_true.mp hmark c h)

/-- Punycode of a label that was checked is in lower case. -/
theorem Punycode.toLower_of_mem_encode {points : List Nat} (hcheck : checkLabel points = .ok ()) {c : Char}
    (h : c ∈ encode points) : c.toLower = c := by
  rcases of_mem_encode h with ⟨d, hd, rfl⟩ | rfl | ⟨n, hn, hlow, rfl⟩
  · exact (digitChar_facts hd).2.1
  · decide
  · exact toLower_of_isLabelPoint hlow (isLabelPoint_of_checkLabel hcheck hn hlow)

/-- What is written for a label outside ASCII is read as the label. -/
theorem decodeLabel_of_wide {points : List Nat} (hcheck : checkLabel points = .ok ())
    (hpoints : ∀ c ∈ points, c ≤ 0x10ffff) (hwide : ∃ c ∈ points, 0x80 ≤ c)
    (hlength : (asciiMark ++ Punycode.encode points).length ≤ 1024) :
    decodeLabel (asciiMark ++ Punycode.encode points) = .ok points := by
  obtain ⟨c, hc, hge⟩ := hwide
  obtain ⟨hne, hlast⟩ := Punycode.encode_of_wide hc hge
  have hlower : (asciiMark ++ Punycode.encode points).map Char.toLower = asciiMark ++ Punycode.encode points := by
    refine (List.map_congr_left fun c hc => ?_).trans (List.map_id _)
    exact (List.mem_append.mp hc).elim toLower_of_mem_asciiMark (Punycode.toLower_of_mem_encode hcheck)
  have hmark : asciiMark.isPrefixOf (asciiMark ++ Punycode.encode points) = true :=
    List.isPrefixOf_iff_prefix.mpr (List.prefix_append ..)
  have hcontent : (asciiMark ++ Punycode.encode points).drop 4 = Punycode.encode points :=
    List.drop_left' (by decide : asciiMark.length = 4)
  -- the demands of the reader, one after the other
  rw [decodeLabel, if_neg (Nat.not_lt_of_le hlength)]
  dsimp only
  rw [hlower, if_pos hmark, hcontent, List.isEmpty_eq_false_iff.mpr hne, if_neg Bool.false_ne_true, if_neg hlast,
    Punycode.decode?_encode hpoints]
  dsimp only
  rw [if_pos rfl, hcheck]
  rfl

/-- A label that is not all of ASCII has a code point outside it. -/
theorem exists_wide_of_not_ascii {label : Text} (h : ¬ label.all isAscii = true) :
    ∃ c ∈ label.map Char.toNat, 0x80 ≤ c := by
  rw [List.all_eq_true] at h
  push Not at h
  obtain ⟨c, hc, hwide⟩ := h
  exact ⟨c.toNat, List.mem_map_of_mem hc, Nat.le_of_not_lt fun hlow => hwide (decide_eq_true hlow)⟩

theorem toNat_le (c : Char) : c.toNat ≤ 0x10ffff := by
  have hvalid : c.toNat < 0xd800 ∨ 0xdfff < c.toNat ∧ c.toNat < 0x110000 := c.valid
  omega

/-- **A label that is written** can be read. -/
theorem exists_decodeLabel {label written : Text} (h : encodeLabel label = .ok written) :
    ∃ points, decodeLabel written = .ok points := by
  rw [encodeLabel] at h
  split at h
  · exact absurd h (by simp)
  · split at h
    · obtain ⟨points, hread, h⟩ := exists_of_bind_eq_ok h
      split at h
      · exact absurd h (by simp)
      · exact ⟨points, Except.ok.inj h ▸ hread⟩
    · rename_i hascii
      obtain ⟨_, hcheck, h⟩ := exists_of_bind_eq_ok h
      dsimp only at h
      split at h
      · exact absurd h (by simp)
      · rename_i hlength
        refine ⟨label.map Char.toNat, ?_⟩
        rw [← Except.ok.inj h]
        refine decodeLabel_of_wide hcheck (fun c hc => ?_) (exists_wide_of_not_ascii hascii) (by omega)
        obtain ⟨d, _, rfl⟩ := List.mem_map.mp hc
        exact toNat_le d

/-- A label in lower case is written in lower case. -/
theorem toLower_of_encodeLabel {label written : Text} (hlabel : ∀ c ∈ label, isAscii c = true → c.toLower = c)
    (h : encodeLabel label = .ok written) {c : Char} (hc : c ∈ written) : c.toLower = c := by
  rw [encodeLabel] at h
  split at h
  · exact absurd h (by simp)
  · split at h
    · rename_i hascii
      obtain ⟨points, _, h⟩ := exists_of_bind_eq_ok h
      split at h
      · exact absurd h (by simp)
      · rw [← Except.ok.inj h] at hc
        exact hlabel c hc (List.all_eq_true.mp hascii c hc)
    · obtain ⟨_, hcheck, h⟩ := exists_of_bind_eq_ok h
      dsimp only at h
      split at h
      · exact absurd h (by simp)
      · rw [← Except.ok.inj h] at hc
        exact (List.mem_append.mp hc).elim toLower_of_mem_asciiMark (Punycode.toLower_of_mem_encode hcheck)

/-- No character of a label is a full stop, in any of its four forms. -/
theorem isDot_of_isLabelChar {c : Char} (h : isLabelChar c = true) : isDot c = false := by
  rw [← Bool.not_eq_true]
  intro hdot
  rw [isDot, List.contains_iff_mem] at hdot
  have hall : ∀ n ∈ [0x2e, 0x3002, 0xff0e, 0xff61], isLabelChar (Char.ofNat n) = false := by decide
  have hnot := hall c.toNat hdot
  rw [Char.ofNat_toNat, h] at hnot
  exact Bool.noConfusion hnot

theorem ne_nil_of_decodeLabel {label : Text} {points : List Nat} (h : decodeLabel label = .ok points) :
    label ≠ [] := by
  rintro rfl
  have hempty : decodeLabel [] = .error .emptyLabel := rfl
  exact absurd (hempty.symm.trans h) (by simp)

/-! ## Names

  A name is cut at full stops in four forms, and no label holds any of them. -/

/-- What is put together is cut again where it was put together. -/
theorem splitOnP_intercalate {α : Type} {p : α → Bool} {between : α} (hbetween : p between = true)
    {parts : List (List α)} (hne : parts ≠ []) (hparts : ∀ part ∈ parts, ∀ x ∈ part, p x = false) :
    ([between].intercalate parts).splitOnP p = parts := by
  induction parts with
  | nil => exact absurd rfl hne
  | cons part rest ih =>
    rw [List.forall_mem_cons] at hparts
    cases rest with
    | nil => exact (congrArg (List.splitOnP p) (by simp [List.intercalate])).trans (List.splitOnP_eq_singleton hparts.1)
    | cons next rest =>
      have hsplit : [between].intercalate (part :: next :: rest) =
          part ++ between :: [between].intercalate (next :: rest) := by simp [List.intercalate]
      rw [hsplit, List.splitOnP_append_cons_of_forall_mem hparts.1 between hbetween,
        ih (List.cons_ne_nil _ _) hparts.2]

/-- The labels of a name that was put together from labels. -/
theorem labelsOf_intercalate {parts : List Text} {dotted : Bool} (hne : parts ≠ [])
    (hparts : ∀ part ∈ parts, part ≠ [] ∧ ∀ c ∈ part, isDot c = false)
    (hlength : (['.'].intercalate (parts ++ if dotted then [[]] else [])).length ≤ 254) :
    labelsOf (['.'].intercalate (parts ++ if dotted then [[]] else [])) = .ok (parts, dotted) := by
  have hsplit : (['.'].intercalate (parts ++ if dotted then [[]] else [])).splitOnP isDot =
      parts ++ if dotted then [[]] else [] := by
    refine splitOnP_intercalate rfl (by simp [hne]) fun part hpart => ?_
    rcases List.mem_append.mp hpart with hpart | hpart
    · exact (hparts part hpart).2
    · split at hpart
      · rw [List.mem_singleton.mp hpart]
        exact List.forall_mem_nil _
      · exact absurd hpart List.not_mem_nil
  obtain ⟨first, rest, rfl⟩ := List.exists_cons_of_ne_nil hne
  have hfirst : first ≠ [] := (hparts first (List.mem_cons_self ..)).1
  have hsome : ((first :: rest) ++ (if dotted then [[]] else []) == [[]]) = false := by
    rw [beq_eq_false_iff_ne]
    exact fun h => hfirst (List.cons.inj h).1
  rw [labelsOf, if_neg (Nat.not_lt_of_le hlength)]
  dsimp only
  rw [hsplit, hsome, if_neg Bool.false_ne_true]
  cases dotted with
  -- the empty label at the end is taken off
  | true =>
    have hlast : ((first :: rest) ++ [[]] : List Text).getLast? = some [] := List.getLast?_concat ..
    show (if ((first :: rest) ++ [[]] : List Text).getLast? == some [] then _ else _) = _
    rw [hlast, if_pos rfl]
    exact congrArg (fun l => Except.ok (l, true)) (List.dropLast_concat ..)
  -- no label is empty, so the last one stays
  | false =>
    have hlast : ((first :: rest).getLast? == some []) = false := by
      rw [beq_eq_false_iff_ne]
      exact fun hlast => (hparts [] (List.mem_of_getLast? hlast)).1 rfl
    show (if ((first :: rest) ++ [] : List Text).getLast? == some [] then _
      else Except.ok ((first :: rest) ++ [], false)) = _
    rw [List.append_nil, hlast, if_neg Bool.false_ne_true]

/-- A name has a label. -/
theorem ne_nil_of_labelsOf {name : Text} {labels : List Text} {dotted : Bool}
    (h : labelsOf name = .ok (labels, dotted)) : labels ≠ [] := by
  have hpieces := of_labelsOf h
  rintro rfl
  rw [labelsOf] at h
  split at h
  · exact absurd h (by simp)
  · dsimp only at h
    split at h
    · exact absurd h (by simp)
    · rename_i hsome
      -- then the only piece is the empty one
      rw [← hpieces] at hsome
      cases dotted with
      | true => exact hsome rfl
      | false => exact List.splitOnP_ne_nil isDot name hpieces.symm

/-- **A name that is written in ASCII form** can be read. -/
theorem exists_decode_of_encode {name written : Text} (h : encode name = .ok written) :
    ∃ points, decode written = .ok points := by
  rw [encode] at h
  obtain ⟨⟨labels, dotted⟩, hlabels, h⟩ := exists_of_bind_eq_ok h
  obtain ⟨parts, hparts, h⟩ := exists_of_bind_eq_ok h
  have hread : ∀ part ∈ parts, (∃ points, decodeLabel part = .ok points) ∧ ∀ c ∈ part, isDot c = false := by
    intro part hpart
    obtain ⟨label, _, hlabel⟩ := exists_of_mem_mapM hparts hpart
    exact ⟨exists_decodeLabel hlabel, fun c hc => isDot_of_isLabelChar (isLabelChar_of_encodeLabel hlabel hc)⟩
  have hinner : ∀ part ∈ parts, part ≠ [] ∧ ∀ c ∈ part, isDot c = false := by
    intro part hpart
    obtain ⟨⟨points, hpoints⟩, hdots⟩ := hread part hpart
    exact ⟨ne_nil_of_decodeLabel hpoints, hdots⟩
  have hne : parts ≠ [] := by
    obtain ⟨label, rest, rfl⟩ := List.exists_cons_of_ne_nil (ne_nil_of_labelsOf hlabels)
    rw [List.mapM_cons] at hparts
    obtain ⟨part, _, hparts⟩ := exists_of_bind_eq_ok hparts
    obtain ⟨others, _, hparts⟩ := exists_of_bind_eq_ok hparts
    rw [← Except.ok.inj hparts]
    exact List.cons_ne_nil _ _
  have hlimit : (if dotted then 254 else 253) ≤ 254 := by cases dotted <;> decide
  generalize (if dotted then 254 else 253) = limit at h hlimit
  dsimp only at h
  generalize hresult : ['.'].intercalate (parts ++ if dotted then [[]] else []) = result at h
  split at h
  · exact absurd h (by simp)
  · rename_i hlength
    have hcut : labelsOf result = .ok (parts, dotted) := by
      rw [← hresult]
      exact labelsOf_intercalate hne hinner (hresult ▸ by omega)
    -- every label that was written can be read, so reading them all does not fail
    obtain ⟨read, hmap⟩ : ∃ read, parts.mapM decodeLabel = .ok read := by
      cases hmap : parts.mapM decodeLabel with
      | ok read => exact ⟨read, rfl⟩
      | error e =>
        obtain ⟨part, hpart, herror⟩ := exists_of_mapM_eq_error hmap
        obtain ⟨points, hpoints⟩ := (hread part hpart).1
        exact absurd (hpoints.symm.trans herror) (by simp)
    rw [← Except.ok.inj h, decode, hcut]
    refine ⟨[46].intercalate (read ++ if dotted then [[]] else []), ?_⟩
    show (parts.mapM decodeLabel >>= _) = _
    rw [hmap]
    rfl

/-! ## The case of a name

  Reading puts a label in lower case first, and full stops have no case. -/

/-- Lower case of a character is in lower case, and makes and unmakes no full stop. -/
theorem toLower_facts (c : Char) : c.toLower.toLower = c.toLower ∧ isDot c.toLower = isDot c := by
  rcases Nat.lt_or_ge c.toNat 128 with hlow | hhigh
  · exact ascii_forall c hlow (by decide +kernel)
  · rw [toLower_of_not_ascii hhigh]
    exact ⟨toLower_of_not_ascii hhigh, rfl⟩

/-- Cutting a text before or after its characters are replaced. -/
theorem splitOnP_map {α β : Type} (f : α → β) {p : α → Bool} {q : β → Bool} (h : ∀ x, q (f x) = p x) (s : List α) :
    (s.map f).splitOnP q = (s.splitOnP p).map (List.map f) := by
  induction s with
  | nil => rfl
  | cons x rest ih =>
    rw [List.map_cons, List.splitOnP_cons_eq_if_modifyHead, List.splitOnP_cons_eq_if_modifyHead, h, ih]
    obtain ⟨first, others, hsplit⟩ := List.exists_cons_of_ne_nil (List.splitOnP_ne_nil p rest)
    rw [hsplit]
    split
    · rfl
    · rfl

theorem decodeLabel_map_toLower (label : Text) : decodeLabel (label.map Char.toLower) = decodeLabel label := by
  have hsame : (label.map Char.toLower).map Char.toLower = label.map Char.toLower := by
    rw [List.map_map]
    exact List.map_congr_left fun c _ => (toLower_facts c).1
  rw [decodeLabel, decodeLabel, hsame, List.length_map]

/-- A name in lower case falls into the same labels in lower case. -/
theorem labelsOf_map_toLower (name : Text) : labelsOf (name.map Char.toLower) =
    (labelsOf name).map fun x => (x.1.map (List.map Char.toLower), x.2) := by
  have hsplit : (name.map Char.toLower).splitOnP isDot = (name.splitOnP isDot).map (List.map Char.toLower) :=
    splitOnP_map Char.toLower (fun c => (toLower_facts c).2) name
  have hlast : ((name.splitOnP isDot).map (List.map Char.toLower)).getLast? =
      (name.splitOnP isDot).getLast?.map (List.map Char.toLower) := List.getLast?_map ..
  rw [labelsOf, labelsOf, List.length_map]
  split
  · rfl
  · dsimp only
    rw [hsplit, hlast]
    -- no label becomes empty
    have hempty : ((name.splitOnP isDot).map (List.map Char.toLower) == [[]]) = (name.splitOnP isDot == [[]]) := by
      rw [Bool.eq_iff_iff, beq_iff_eq, beq_iff_eq]
      simp [List.map_eq_cons_iff]
    have hdotted : ((name.splitOnP isDot).getLast?.map (List.map Char.toLower) == some []) =
        ((name.splitOnP isDot).getLast? == some []) := by
      rw [Bool.eq_iff_iff, beq_iff_eq, beq_iff_eq]
      simp
    rw [hempty, hdotted]
    split
    · rfl
    · split
      · rw [← List.map_dropLast]
        rfl
      · rfl

/-- The ASCII form of a name in lower case is in lower case. -/
theorem toLower_of_encode {name written : Text} (hname : ∀ c ∈ name, isAscii c = true → c.toLower = c)
    (h : encode name = .ok written) {c : Char} (hc : c ∈ written) : c.toLower = c := by
  rcases exists_label_of_mem_encode h hc with rfl | ⟨labels, dotted, label, part, hlabels, hmem, hlabel, hc⟩
  · rfl
  · exact toLower_of_encodeLabel (fun c hc => hname c (mem_of_labelsOf hlabels hmem hc)) hlabel hc

/-- **Reading a name** does not look at the case of its letters. -/
theorem decode_map_toLower (name : Text) : decode (name.map Char.toLower) = decode name := by
  have hlabels (labels : List Text) :
      (labels.map (List.map Char.toLower)).mapM decodeLabel = labels.mapM decodeLabel := by
    rw [List.mapM_map]
    exact congrArg (fun f => labels.mapM f) (funext decodeLabel_map_toLower)
  rw [decode, decode, labelsOf_map_toLower]
  rcases labelsOf name with e | ⟨labels, dotted⟩
  · rfl
  · show ((labels.map (List.map Char.toLower)).mapM decodeLabel >>= _) = (labels.mapM decodeLabel >>= _)
    rw [hlabels]

end Idna

end Courier
