/-
  Fields as pairs and fields as text.

  A field that is let through is written and read back up to the padding around its value, with a line end behind it
  or without (`Header.parse_text`): its name holds no colon, so the line is cut where it was put together, and
  neither half holds a carriage return, so no line end is found inside.

  What complicates this is the line feed that the patterns for names and values let through at the end.  All of
  these facts hold of it as well: it is no colon and no carriage return.  Behind a value it also stops the padding
  from being dropped (`Header.trim_concat_lineFeed`), since what stands last is then no padding, so a value that is
  let through is let through when it has been stripped (`Header.isValue_trim`), and stripping it again changes
  nothing.

  What is read is the line without one line end, cut at a colon (`Header.parse_eq_ok_iff`).  It does not matter at
  which colon, since a name that is let through stands before the first one.  `Header.Carries` is the relation
  between a line and what it carries, so that the statement speaks of neither of the functions that cut.

  The three round trips are read off that equivalence (`Header.pair_text_inverse`): from a pair to its text and
  back, from a line to its field and its text and back, and which lines are read at all.
-/
import Courier.Proofs.Header.Line

namespace Courier

namespace Header

variable {name value line : Text} {h : Header}

/-! ## Names and values with a line feed at the end

  What the patterns let through, in plain words: a text of the right characters, with or without one line feed
  behind it. -/

/-- A text has a line feed at its end that is dropped, or is left as it is. -/
theorem dropLineFeed_or (s : Text) : s = dropLineFeed s ∨ s = dropLineFeed s ++ ['\n'] := by
  rw [dropLineFeed]
  split
  · rename_i hlast
    obtain ⟨t, rfl⟩ := List.getLast?_eq_some_iff.mp hlast
    rw [List.dropLast_concat]
    exact Or.inr rfl
  · exact Or.inl rfl

/-- A name that is let through holds token characters, and at most a line feed besides. -/
theorem of_mem_name (hname : isName name = true) {c : Char} (hc : c ∈ name) : isTokenChar c = true ∨ c = '\n' := by
  have htoken := (isToken_iff.mp hname).2
  rcases dropLineFeed_or name with hname | hname
  · exact Or.inl (htoken c (hname ▸ hc))
  · rw [hname] at hc
    rcases List.mem_append.mp hc with hc | hc
    · exact Or.inl (htoken c hc)
    · exact Or.inr (List.mem_singleton.mp hc)

/-- A value that is let through is a text of value characters, with or without a line feed behind it. -/
theorem isValue_iff : isValue value = true ↔
    ∃ v : Text, (∀ c ∈ v, isValueChar c = true) ∧ (value = v ∨ value = v ++ ['\n']) := by
  constructor
  · intro hvalue
    exact ⟨dropLineFeed value, List.all_eq_true.mp hvalue, dropLineFeed_or value⟩
  · rintro ⟨v, hv, rfl | rfl⟩
    · have hlast : value.getLast? ≠ some '\n' := by
        intro hlast
        exact absurd (hv _ (List.mem_of_getLast? hlast)) (by decide)
      rw [isValue, dropLineFeed_of_ne hlast]
      exact List.all_eq_true.mpr hv
    · rw [isValue, dropLineFeed, List.getLast?_concat, if_pos rfl, List.dropLast_concat]
      exact List.all_eq_true.mpr hv

/-- Behind a line feed no padding is dropped, and in front of it none either. -/
theorem trim_concat_lineFeed (v : Text) : trim isPadding (v ++ ['\n']) = trimLeft isPadding v ++ ['\n'] := by
  have hfront : trimLeft isPadding (v ++ ['\n']) = trimLeft isPadding v ++ ['\n'] := by
    rw [trimLeft, trimLeft, List.dropWhile_append]
    -- also when there is nothing but padding in front of it
    cases v.dropWhile isPadding with
    | nil => rfl
    | cons c rest => rfl
  rw [trim, hfront]
  exact trimRight_append_cons (by decide) _ []

/-- A value that is let through is let through without the padding around it. -/
theorem isValue_trim (hvalue : isValue value = true) : isValue (trim isPadding value) = true := by
  rw [isValue_iff] at hvalue ⊢
  obtain ⟨v, hv, rfl | rfl⟩ := hvalue
  · exact ⟨_, fun c hc => hv c (mem_of_mem_trim hc), Or.inl rfl⟩
  · refine ⟨trimLeft isPadding v, fun c hc => hv c ?_, Or.inr (trim_concat_lineFeed v)⟩
    exact (List.dropWhile_sublist _).subset hc

theorem ofPair_trim (hpair : ofPair name value = .ok h) :
    ofPair name (trim isPadding value) = .ok { name, value := trim isPadding value } := by
  obtain ⟨hname, hvalue, _⟩ := of_ofPair hpair
  exact ofPair_of_valid (h := ⟨name, trim isPadding value⟩) (Bool.and_eq_true_iff.mpr ⟨hname, isValue_trim hvalue⟩)

theorem colon_notMem (hname : isName name = true) : ':' ∉ name := by
  intro hc
  rcases of_mem_name hname hc with hc | hc
  · exact absurd hc (by decide)
  · exact absurd hc (by decide)

/-- A field that is let through is written without a carriage return. -/
theorem carriageReturn_notMem (hname : isName h.name = true) (hvalue : isValue h.value = true) : '\r' ∉ h.text := by
  intro hc
  rcases List.mem_append.mp hc with hc | hc
  · rcases of_mem_name hname hc with hc | hc
    · exact absurd hc (by decide)
    · exact absurd hc (by decide)
  · -- behind the name stand a colon and a space, and then the value
    have hc : '\r' ∈ h.value := by simpa using hc
    obtain ⟨v, hv, hvalue | hvalue⟩ := isValue_iff.mp hvalue
    · exact absurd (hv _ (hvalue ▸ hc)) (by decide)
    · rw [hvalue] at hc
      rcases List.mem_append.mp hc with hc | hc
      · exact absurd (hv _ hc) (by decide)
      · exact absurd hc (by decide)

/-! ## Lines

  A line carries all of itself but one line end.  Reading it is cutting at the first colon, stripping the value and
  asking the patterns, so a line is read exactly when it was written from a pair that is let through. -/

/-- What a line carries: all of it but one line end, if it has one. -/
def Carries (line body : Text) : Prop :=
  line = body ++ ['\r', '\n'] ∨ line = body ∧ ¬ ['\r', '\n'] <:+ line

/-- What a line carries is what is left of it when one line end is dropped. -/
theorem carries_iff {body : Text} : Carries line body ↔ dropLineEnd line = body := by
  have hended (body : Text) : dropLineEnd (body ++ ['\r', '\n']) = body := by
    rw [dropLineEnd, if_pos (List.isSuffixOf_iff_suffix.mpr (List.suffix_append _ _))]
    simp
  constructor
  · -- with a line end behind it, or without one
    rintro (rfl | ⟨rfl, hopen⟩)
    · exact hended body
    · rw [dropLineEnd, if_neg fun hend => hopen (List.isSuffixOf_iff_suffix.mp hend)]
  · rintro rfl
    by_cases hend : ['\r', '\n'] <:+ line
    · obtain ⟨front, rfl⟩ := hend
      rw [hended]
      exact Or.inl rfl
    · rw [dropLineEnd, if_neg fun hsuffix => hend (List.isSuffixOf_iff_suffix.mp hsuffix)]
      exact Or.inr ⟨rfl, hend⟩

/-- **A line is read as a field when it is a name, a colon and a value that are let through together**, the padding
    around the value and one line end apart. -/
theorem parse_eq_ok_iff : parse line = .ok h ↔
    ∃ name value, Carries line (name ++ ':' :: value) ∧ ofPair name (trim isPadding value) = .ok h := by
  rw [parse]
  constructor
  · intro hread
    split at hread
    · exact nomatch hread
    · rename_i name value hcut
      exact ⟨name, value, carries_iff.mpr (cut_eq_some hcut), hread⟩
  · rintro ⟨name, value, hcarries, hpair⟩
    rw [carries_iff.mp hcarries, cut_append_mark (colon_notMem (of_ofPair hpair).1)]
    exact hpair

/-- **A field is read back from its text**, without the padding around its value. -/
theorem parse_text (hpair : ofPair name value = .ok h) {line : Text} (hline : Carries line h.text) :
    parse line = .ok { name, value := trim isPadding value } := by
  obtain ⟨_, _, rfl⟩ := of_ofPair hpair
  -- the space that is written behind the colon goes with the padding
  have hspace : trim isPadding (' ' :: value) = trim isPadding value := rfl
  rw [parse_eq_ok_iff]
  exact ⟨name, ' ' :: value, hline, by rw [hspace]; exact ofPair_trim hpair⟩

theorem carries_text (hpair : ofPair name value = .ok h) : Carries h.text h.text := by
  obtain ⟨hname, hvalue, rfl⟩ := of_ofPair hpair
  refine Or.inr ⟨rfl, fun hend => carriageReturn_notMem hname hvalue (hend.subset ?_)⟩
  exact List.mem_cons_self ..

theorem parse_text_of_parse (hread : parse line = .ok h) : parse h.text = .ok h := by
  obtain ⟨name, value, _, hpair⟩ := parse_eq_ok_iff.mp hread
  obtain ⟨_, _, rfl⟩ := of_ofPair hpair
  have hagain := parse_text hpair (carries_text hpair)
  rwa [trim_trim] at hagain

/-- **Text and pairs are inverse.**  A field that is let through as a pair is read back from its text, with a line end
    and without, stripped of the spaces and tabs around its value; what is read from any line is read again from its
    own text; and a line is read exactly when what it carries has a colon, at which its left part and its stripped
    right part are let through. -/
theorem pair_text_inverse :
    (∀ name value h, ofPair name value = .ok h →
      parse h.text = .ok { name, value := trim isPadding value } ∧
      parse (h.text ++ ['\r', '\n']) = .ok { name, value := trim isPadding value }) ∧
    (∀ line h, parse line = .ok h → parse h.text = .ok h) ∧
    ∀ line, (∃ h, parse line = .ok h) ↔
      ∃ name value, Carries line (name ++ ':' :: value) ∧ ∃ h, ofPair name (trim isPadding value) = .ok h := by
  refine ⟨fun name value h hpair => ⟨?_, ?_⟩, fun line h => parse_text_of_parse, fun line => ?_⟩
  · exact parse_text hpair (carries_text hpair)
  · exact parse_text hpair (Or.inl rfl)
  · constructor
    · rintro ⟨h, hread⟩
      obtain ⟨name, value, hcarries, hpair⟩ := parse_eq_ok_iff.mp hread
      exact ⟨name, value, hcarries, h, hpair⟩
    · rintro ⟨name, value, hcarries, h, hpair⟩
      exact ⟨h, parse_eq_ok_iff.mpr ⟨name, value, hcarries, hpair⟩⟩

/-- A line feed behind the name and one behind the value, which keeps the padding in front of it, and a colon in the
    value. -/
theorem pair_text_inverse_of_lineFeeds :
    let h : Header := { name := "X\n".toList, value := " \ta: b\t \n".toList }
    let stripped : Header := { name := "X\n".toList, value := "a: b\t \n".toList }
    ofPair h.name h.value = .ok h ∧ parse h.text = .ok stripped ∧ parse (h.text ++ ['\r', '\n']) = .ok stripped ∧
      parse stripped.text = .ok stripped := by
  intro h stripped
  have hpair : ofPair h.name h.value = .ok h := rfl
  have hread := pair_text_inverse.1 h.name h.value h hpair
  exact ⟨hpair, hread.1, hread.2, pair_text_inverse.2.1 h.text stripped hread.1⟩

end Header

end Courier
