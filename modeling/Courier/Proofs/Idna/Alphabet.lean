/-
  The ASCII form of an international host name is made of letters, digits, hyphens and full stops.

  A host that holds anything else would break the lines that it is written on, so this is what keeps international
  names harmless in a request.  Three things have to come together for it.

  1. The tables.  A label is written only after every code point of it was checked against the tables of valid code
     points, and the ranges of these hold nothing of ASCII but lower-case letters, digits and the hyphen
     (`isLabelPoint_of_isValidPoint`).  That is a check of the text of the tables, since what is looked up in a
     table is in one of its rows.  Joiners and the points that are valid by their context lie outside ASCII.

  2. Punycode.  It writes the ASCII code points of a label as they are, a hyphen, and numbers whose digits are
     letters and digits (`Punycode.of_mem_encode`).  For the digits the induction follows the writer: through a
     number, once over the label, and over all points of it, with `State.Digital` as the invariant.

  3. Labels.  An ASCII label is written as it is, after it was read as a label and what it stands for was checked;
     any other one behind the mark as punycode (`isLabelChar_of_encodeLabel`).  For the first kind the check was
     made of the label in lower case, and the letters of the label itself may be capitals.

  A name is its labels with full stops between them (`isNameChar_of_encode`).
-/
import Courier.Idna.Label
import Courier.Proofs.Text.Ranges
import Courier.Proofs.Text.Visible

namespace Courier

namespace Idna

/-- A code point of ASCII that a label may hold in lower case. -/
def isLabelPoint (c : Nat) : Bool := c == 0x2d || within 0x30 0x39 c || within 0x61 0x7a c

/-- A character that a label may hold in ASCII form. -/
def isLabelChar (c : Char) : Bool := c.isAlphanum || c == '-'

/-- A character that a name may hold in ASCII form. -/
def isNameChar (c : Char) : Bool := isLabelChar c || c == '.'

/-! ## Code points of a checked label

  Every code point of a label is looked up in tables.  Their part in ASCII is small, and is checked row by row. -/

set_option maxRecDepth 100000 in
/-- The tables hold nothing else of ASCII. -/
theorem isLabelPoint_of_isValidPoint {c : Nat} (hc : c < 128) (h : isValidPoint c = true) : isLabelPoint c = true := by
  rw [isValidPoint, Bool.or_eq_true] at h
  -- valid in the older tables, or added to them later
  rcases h with h | h
  · revert h
    unfold validPoints
    apply Rows.of_contains_read _ hc
    decide +kernel
  · revert h
    unfold newestPoints
    apply Rows.of_contains_read _ hc
    decide +kernel

/-- A checked code point is valid by itself, a joiner, or valid by its context. -/
theorem isLabelPoint_of_checkPoints {label before points : List Nat}
    (h : checkPoints label before points = .ok ()) {c : Nat} (hmem : c ∈ points) (hc : c < 128) :
    isLabelPoint c = true := by
  induction points generalizing before with
  | nil => exact absurd hmem List.not_mem_nil
  | cons d after ih =>
    -- in every case that goes on, this point is in order and the rest was checked
    have hboth : (d < 128 → isLabelPoint d = true) ∧ ∃ before', checkPoints label before' after = .ok () := by
      rw [checkPoints] at h
      split at h
      · rename_i hvalid
        exact ⟨fun hd => isLabelPoint_of_isValidPoint hd hvalid, _, h⟩
      · split at h
        · rename_i hjoiner
          split at h
          · exact ⟨fun hd => by omega, _, h⟩
          · exact absurd h (by simp)
        · split at h
          · rename_i hcontext
            split at h
            · refine ⟨fun hd => ?_, _, h⟩
              simp only [isContextual, within, Bool.or_eq_true, Bool.and_eq_true, decide_eq_true_iff,
                List.contains_iff_mem, List.mem_cons, List.not_mem_nil, or_false] at hcontext
              omega
            · exact absurd h (by simp)
          · exact absurd h (by simp)
    rcases List.mem_cons.mp hmem with rfl | hmem
    · exact hboth.1 hc
    · obtain ⟨before', hafter⟩ := hboth.2
      exact ih hafter hmem

/-- Of ASCII, a checked label holds lower-case letters, digits and hyphens. -/
theorem isLabelPoint_of_checkLabel {label : List Nat} (h : checkLabel label = .ok ()) {c : Nat} (hmem : c ∈ label)
    (hc : c < 128) : isLabelPoint c = true := by
  rw [checkLabel] at h
  repeat (split at h; · exact absurd h (by simp))
  obtain ⟨_, hpoints, _⟩ := exists_of_bind_eq_ok h
  exact isLabelPoint_of_checkPoints hpoints hmem hc

theorem isLabelChar_ofNat {n : Nat} (hn : n < 128) (h : isLabelPoint n = true) : isLabelChar (Char.ofNat n) = true := by
  have hall : ∀ n : Fin 128, isLabelPoint n = true → isLabelChar (Char.ofNat n) = true := by decide +kernel
  exact hall ⟨n, hn⟩ h

/-! ## Punycode

  A label is written as its characters in ASCII, a hyphen, and digits.  The digits come from one place, the writing
  of numbers, so everything that the writer does keeps what it has written a text of digits. -/

namespace Punycode

variable {label : List Nat}

/-- The characters of a label that are of ASCII. -/
def basics (label : List Nat) : Text := (label.filter (· < 0x80)).map Char.ofNat

/-- The code points of a label that are not of ASCII, in ascending order. -/
def wides (label : List Nat) : List Nat := (label.filter (0x80 ≤ ·)).mergeSort.eraseDups

theorem mem_wides {c : Nat} : c ∈ wides label ↔ c ∈ label ∧ 0x80 ≤ c := by
  rw [wides, List.mem_eraseDups, List.mem_mergeSort, List.mem_filter, decide_eq_true_iff]

/-- What is written for them. -/
def numbers (label : List Nat) : Text :=
  ((wides label).foldl (Punycode.place label)
    ({ placed := (basics label).length, delta := 0, bias := 72, isFirst := true, out := [] }, 0x80)).1.out

theorem encode_eq (label : List Nat) :
    encode label = if (basics label).isEmpty then numbers label else basics label ++ '-' :: numbers label := rfl

/-- A number is written in digits. -/
theorem digit_of_mem_writeNumber {bias place n : Nat} {c : Char} (h : c ∈ writeNumber bias place n) :
    ∃ d < 36, c = digitChar d := by
  fun_induction writeNumber bias place n with
  -- the last digit is below the threshold, and any other one is that and a remainder
  | case1 place n t hlt =>
    have ht : t ≤ 26 := threshold_le place bias
    exact ⟨n, by omega, List.mem_singleton.mp h⟩
  | case2 place n t hge hlt ih =>
    have ht : t ≤ 26 := threshold_le place bias
    rcases List.mem_cons.mp h with rfl | h
    · have hmod : (n - t) % (36 - t) < 36 - t := Nat.mod_lt _ (by omega)
      exact ⟨_, by omega, rfl⟩
    · exact ih h

/-- What a writer has written are digits. -/
def State.Digital (st : State) : Prop := ∀ c ∈ st.out, ∃ d < 36, c = digitChar d

/-- One step of the writer adds digits or nothing. -/
theorem digital_pass {point : Nat} {st : State} (h : st.Digital) (c : Nat) : (pass point st c).Digital := by
  rw [pass]
  split
  · exact h
  · split
    · intro d hd
      rcases List.mem_append.mp hd with hd | hd
      · exact h d hd
      · exact digit_of_mem_writeNumber hd
    · exact h

theorem digital_foldl_pass {point : Nat} (label : List Nat) {st : State} (h : st.Digital) :
    (label.foldl (pass point) st).Digital := by
  induction label generalizing st with
  | nil => exact h
  | cons c rest ih => exact ih (digital_pass h c)

/-- All turns of the writer write digits. -/
theorem digital_foldl_place (points : List Nat) {st : State × Nat} (h : st.1.Digital) :
    (points.foldl (place label) st).1.Digital := by
  induction points generalizing st with
  | nil => exact h
  | cons point rest ih =>
    refine ih ?_
    show (label.foldl (pass point) _).Digital
    exact digital_foldl_pass label h

/-- What is written for the points outside ASCII are digits. -/
theorem digit_of_mem_numbers {c : Char} (h : c ∈ numbers label) : ∃ d < 36, c = digitChar d :=
  digital_foldl_place (wides label) (fun _ hd => absurd hd List.not_mem_nil) c h

/-- A character of punycode is a digit, a hyphen, or a character of the label. -/
theorem of_mem_encode {c : Char} (h : c ∈ encode label) :
    (∃ d < 36, c = digitChar d) ∨ c = '-' ∨ ∃ n ∈ label, n < 128 ∧ c = Char.ofNat n := by
  rw [encode_eq] at h
  split at h
  · exact Or.inl (digit_of_mem_numbers h)
  · rcases List.mem_append.mp h with h | h
    · obtain ⟨n, hn, rfl⟩ := List.mem_map.mp h
      obtain ⟨hn, hlow⟩ := List.mem_filter.mp hn
      exact Or.inr (Or.inr ⟨n, hn, of_decide_eq_true hlow, rfl⟩)
    · rcases List.mem_cons.mp h with hyphen | h
      · exact Or.inr (Or.inl hyphen)
      · exact Or.inl (digit_of_mem_numbers h)

/-- A digit is in lower case, and no hyphen. -/
theorem digitChar_facts {d : Nat} (h : d < 36) :
    isLabelChar (digitChar d) = true ∧ (digitChar d).toLower = digitChar d ∧ digitChar d ≠ '-' := by
  have hall : ∀ d : Fin 36,
      isLabelChar (digitChar d) = true ∧ (digitChar d).toLower = digitChar d ∧ digitChar d ≠ '-' := by decide +kernel
  exact hall ⟨d, h⟩

/-- Punycode of a label that was checked. -/
theorem isLabelChar_of_mem_encode (hlabel : checkLabel label = .ok ()) {c : Char} (h : c ∈ encode label) :
    isLabelChar c = true := by
  rcases of_mem_encode h with ⟨d, hd, rfl⟩ | rfl | ⟨n, hn, hlow, rfl⟩
  · exact (digitChar_facts hd).1
  · decide
  · exact isLabelChar_ofNat hlow (isLabelPoint_of_checkLabel hlabel hn hlow)

end Punycode

/-! ## Labels and names

  A name is its labels with full stops between them, and each label is written by itself. -/

/-- What a label in ASCII form stands for was checked, and either punycode writes it, or it is the label itself. -/
theorem of_decodeLabel {label : Text} {points : List Nat} (h : decodeLabel label = .ok points) :
    checkLabel points = .ok () ∧
      (label.map Char.toLower = asciiMark ++ Punycode.encode points ∨
        ¬ asciiMark <+: label.map Char.toLower ∧ points = (label.map Char.toLower).map Char.toNat) := by
  rw [decodeLabel] at h
  split at h
  · exact nomatch h
  · dsimp only at h
    split at h
    · rename_i hmark
      obtain ⟨content, hsplit⟩ := List.isPrefixOf_iff_prefix.mp hmark
      repeat (split at h; · exact absurd h (by simp))
      split at h
      · rename_i hcontent
        obtain ⟨_, hcheck, h⟩ := exists_of_bind_eq_ok h
        obtain rfl := Except.ok.inj h
        refine ⟨hcheck, Or.inl ?_⟩
        rw [hcontent, ← hsplit]
        rfl
      · exact nomatch h
    · rename_i hmark
      obtain ⟨_, hcheck, h⟩ := exists_of_bind_eq_ok h
      obtain rfl := Except.ok.inj h
      exact ⟨hcheck, Or.inr ⟨fun hprefix => hmark (List.isPrefixOf_iff_prefix.mpr hprefix), rfl⟩⟩

theorem isLabelChar_of_mem_asciiMark {c : Char} (h : c ∈ asciiMark) : isLabelChar c = true := by
  have hmark : asciiMark.all isLabelChar = true := by decide
  exact List.all_eq_true.mp hmark c h

/-- What a letter may be in lower case it may be as it is. -/
theorem ascii_toLower {c : Char} (h : c.toNat < 128) :
    c.toLower.toNat < 128 ∧ (isLabelChar c.toLower = true → isLabelChar c = true) :=
  ascii_forall c h (by decide +kernel)

/-- An ASCII label that stands for one. -/
theorem isLabelChar_of_decodeLabel {label : Text} {points : List Nat} (h : decodeLabel label = .ok points)
    (hascii : label.all isAscii = true) {c : Char} (hc : c ∈ label) : isLabelChar c = true := by
  have hlow : c.toNat < 128 := of_decide_eq_true (List.all_eq_true.mp hascii c hc)
  have hlower : c.toLower ∈ label.map Char.toLower := List.mem_map_of_mem hc
  apply (ascii_toLower hlow).2
  obtain ⟨hcheck, hwritten | ⟨_, hpoints⟩⟩ := of_decodeLabel h
  · rw [hwritten] at hlower
    exact (List.mem_append.mp hlower).elim isLabelChar_of_mem_asciiMark (Punycode.isLabelChar_of_mem_encode hcheck)
  · have hmem : c.toLower.toNat ∈ points := by
      rw [hpoints]
      exact List.mem_map_of_mem hlower
    rw [← Char.ofNat_toNat c.toLower]
    exact isLabelChar_ofNat (ascii_toLower hlow).1 (isLabelPoint_of_checkLabel hcheck hmem (ascii_toLower hlow).1)

/-- **The ASCII form of a label** holds letters, digits and hyphens. -/
theorem isLabelChar_of_encodeLabel {label written : Text} (h : encodeLabel label = .ok written) {c : Char}
    (hc : c ∈ written) : isLabelChar c = true := by
  rw [encodeLabel] at h
  split at h
  · exact nomatch h
  · split at h
    · rename_i hascii
      obtain ⟨points, hread, h⟩ := exists_of_bind_eq_ok h
      split at h
      · exact nomatch h
      · rw [← Except.ok.inj h] at hc
        exact isLabelChar_of_decodeLabel hread hascii hc
    · -- a label outside ASCII: the mark, and punycode
      obtain ⟨_, hcheck, h⟩ := exists_of_bind_eq_ok h
      dsimp only at h
      split at h
      · exact nomatch h
      · rw [← Except.ok.inj h] at hc
        rcases List.mem_append.mp hc with hc | hc
        · exact isLabelChar_of_mem_asciiMark hc
        · exact Punycode.isLabelChar_of_mem_encode hcheck hc

/-- A character of the ASCII form of a name is a full stop, or it stands in the ASCII form of a label. -/
theorem exists_label_of_mem_encode {name written : Text} (h : encode name = .ok written) {c : Char}
    (hc : c ∈ written) :
    c = '.' ∨ ∃ labels dotted label part, labelsOf name = .ok (labels, dotted) ∧ label ∈ labels ∧
      encodeLabel label = .ok part ∧ c ∈ part := by
  rw [encode] at h
  obtain ⟨⟨labels, dotted⟩, hlabels, h⟩ := exists_of_bind_eq_ok h
  obtain ⟨parts, hparts, h⟩ := exists_of_bind_eq_ok h
  dsimp only at h
  generalize hresult : ['.'].intercalate (parts ++ if dotted then [[]] else []) = result at h
  generalize (if dotted then 254 else 253) = limit at h
  split at h
  · exact nomatch h
  · rw [← Except.ok.inj h, ← hresult] at hc
    rcases mem_of_mem_intercalate hc with hdot | ⟨part, hpart, hc⟩
    · exact Or.inl (List.mem_singleton.mp hdot)
    · rcases List.mem_append.mp hpart with hpart | hpart
      · obtain ⟨label, hmem, hlabel⟩ := exists_of_mem_mapM hparts hpart
        exact Or.inr ⟨labels, dotted, label, part, hlabels, hmem, hlabel, hc⟩
      · -- the empty label of a trailing dot
        split at hpart
        · rw [List.mem_singleton.mp hpart] at hc
          exact absurd hc List.not_mem_nil
        · exact absurd hpart List.not_mem_nil

/-- **The ASCII form of a name holds letters, digits, hyphens and full stops.** -/
theorem isNameChar_of_encode {name written : Text} (h : encode name = .ok written) {c : Char} (hc : c ∈ written) :
    isNameChar c = true := by
  rw [isNameChar, Bool.or_eq_true, beq_iff_eq]
  rcases exists_label_of_mem_encode h hc with hdot | ⟨_, _, _, _, _, _, hlabel, hc⟩
  · exact Or.inr hdot
  · exact Or.inl (isLabelChar_of_encodeLabel hlabel hc)

end Idna

end Courier
