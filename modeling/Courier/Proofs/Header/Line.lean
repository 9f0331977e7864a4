/-
  A field on its line: what a receiver reads where a field was written.

  `Header.Lined` is the grammar of a field: its name is a token, and its value holds no line control.  A receiver
  reads such a field back from its line, up to the padding around the value (`readField?_text`), and it never reads
  any other field (`lined_of_readField?`): so a field that is let through with a line feed at its end is lost on the
  way.

  The library writes characters, and a receiver reads octets.  For texts in Latin-1 the two are the same thing
  written twice, an octet for a character (`octets`, `ofLatin1_octets`), and the classes of characters that the
  grammar uses are the classes of octets that a receiver uses (`octet_classes`, a check of all 256).  So cutting at
  the colon and trimming can be taken from one side to the other.

  Of the fields that pass the check of a caller's fields, the ones that keep to their line are those without a line
  feed at the end of the name or of the value (`lined_iff_of_ofPair`).  Both patterns of that check let one through
  there.

  The last part is about lists of lines.  A line that begins with padding goes on with the line before it, and the
  line of a field never does, because it begins with a token character (`head?_octets_text`).  So the lines of
  fields are taken one by one (`readFields_text`), and of any lines that are read as fields it is known that the
  fields keep to theirs (`lined_of_readFields`).
-/
import Courier.Response.Head
import Courier.Proofs.Response.Feed
import Courier.Proofs.Text.Visible

namespace Courier

/-! ## Octets of a text

  A head is written in Latin-1, an octet for a character, and the receiver looks at octets.  The two classes of
  octets that it asks for are the classes of characters with the same names. -/

/-- The octets of a text, its characters taken as Latin-1. -/
def octets (s : Text) : Bytes := s.map fun c => UInt8.ofNat c.toNat

theorem octets_append (s t : Text) : octets (s ++ t) = octets s ++ octets t := List.map_append

theorem octets_cons (c : Char) (s : Text) : octets (c :: s) = UInt8.ofNat c.toNat :: octets s := rfl

/-- A text in Latin-1 is read back from its octets. -/
theorem ofLatin1_octets {s : Text} (h : ∀ c ∈ s, Narrow.latin1.holds c = true) : ofLatin1 (octets s) = s := by
  rw [ofLatin1, octets, List.map_map]
  refine (List.map_congr_left fun c hc => ?_).trans (List.map_id s)
  have hlt : c.toNat < 256 := of_decide_eq_true (h c hc)
  show Char.ofNat (UInt8.ofNat c.toNat).toNat = id c
  rw [UInt8.toNat_ofNat', Nat.mod_eq_of_lt hlt, Char.ofNat_toNat, id]

/-- What is no character of a text is no octet of it. -/
theorem notMem_octets {c : Char} (hmark : Narrow.latin1.holds c = true) {s : Text}
    (h : ∀ d ∈ s, Narrow.latin1.holds d = true) (hc : c ∉ s) : UInt8.ofNat c.toNat ∉ octets s := by
  intro hm
  obtain ⟨d, hd, hoctet⟩ := List.mem_map.mp hm
  have hdc := congrArg UInt8.toNat hoctet
  have hlt : d.toNat < 256 := of_decide_eq_true (h d hd)
  have hlt' : c.toNat < 256 := of_decide_eq_true hmark
  rw [UInt8.toNat_ofNat', UInt8.toNat_ofNat', Nat.mod_eq_of_lt hlt, Nat.mod_eq_of_lt hlt'] at hdc
  exact hc (Char.toNat_inj.mp hdc ▸ hd)

/-- Padding and line controls are the same for octets and for characters. -/
theorem octet_classes (b : UInt8) :
    Header.isPadding (Char.ofNat b.toNat) = Head.isPaddingByte b ∧
      isInline (Char.ofNat b.toNat) = Head.isReasonByte b :=
  octet_forall b (by decide +kernel)

theorem ofLatin1_dropWhile (b : Bytes) :
    ofLatin1 (b.dropWhile Head.isPaddingByte) = (ofLatin1 b).dropWhile Header.isPadding := by
  have hclass : (Header.isPadding ∘ fun x : UInt8 => Char.ofNat x.toNat) = Head.isPaddingByte :=
    funext fun x => (octet_classes x).1
  rw [ofLatin1, ofLatin1, List.dropWhile_map, hclass]

/-- Padding may be trimmed before or after an octet is taken as a character. -/
theorem ofLatin1_trim (b : Bytes) :
    ofLatin1 (trim Head.isPaddingByte b) = trim Header.isPadding (ofLatin1 b) := by
  have hreverse (b : Bytes) : ofLatin1 b.reverse = (ofLatin1 b).reverse := List.map_reverse
  rw [trim, trim, trimLeft, trimLeft, trimRight, trimRight, hreverse, ofLatin1_dropWhile, hreverse,
    ofLatin1_dropWhile]

namespace Header

/-! ## Fields that keep to their line

  The patterns for names and values let one line feed through at the end.  Apart from this they let nothing through
  that ends a line, so the fields that keep to their line are those without such a line feed. -/

/-- A field whose name is a token and whose value stays inside its line. -/
structure Lined (h : Header) : Prop where
  name : isToken h.name = true
  value : ∀ c ∈ h.value, isInline c = true

/-- The field as a receiver sees it: without the spaces and tabs around its value. -/
def trimmed (h : Header) : Header := { h with value := trim isPadding h.value }

/-- A field keeps to its line with its padding and without. -/
theorem lined_trimmed_iff {h : Header} : h.trimmed.Lined ↔ h.Lined := by
  constructor
  · intro hl
    refine ⟨hl.name, fun c hc => ?_⟩
    rcases mem_trim_or hc with hc | hc
    · exact hl.value c hc
    · -- a space or a tab
      rw [isPadding, Bool.or_eq_true, beq_iff_eq, beq_iff_eq] at hc
      rcases hc with rfl | rfl
      · decide
      · decide
  · intro hl
    exact ⟨hl.name, fun c hc => hl.value c (mem_of_mem_trim hc)⟩

theorem text_ne_nil (h : Header) : h.text ≠ [] :=
  List.append_ne_nil_of_right_ne_nil _ (List.cons_ne_nil _ _)

/-- A field that keeps to its line is written without a line feed. -/
theorem notMem_text {h : Header} (hl : h.Lined) : '\n' ∉ h.text := by
  intro hm
  rcases List.mem_append.mp hm with hm | hm
  · exact absurd ((isToken_iff.mp hl.name).2 _ hm) (by decide)
  · rcases List.mem_cons.mp hm with hm | hm
    · exact absurd hm (by decide)
    · rcases List.mem_cons.mp hm with hm | hm
      · exact absurd hm (by decide)
      · exact ne_of_isInline (hl.value _ hm) rfl

/-- No value character is a line control. -/
theorem isInline_of_isValueChar {c : Char} (h : isValueChar c = true) : isInline c = true := by
  simp only [isValueChar, Bool.or_eq_true, Bool.and_eq_true, beq_iff_eq, decide_eq_true_iff] at h
  rcases h with (rfl | h) | h
  · decide
  · exact isInline_of_le h.1
  · exact isInline_of_le (Nat.le_trans (by decide) h.1)

theorem dropLineFeed_of_ne {s : Text} (h : s.getLast? ≠ some '\n') : dropLineFeed s = s := by
  rw [dropLineFeed, if_neg h]

/-- A field whose name and value pass is let through as it is. -/
theorem ofPair_of_valid {h : Header} (hv : (isName h.name && isValue h.value) = true) :
    ofPair h.name h.value = .ok h := by
  rw [Bool.and_eq_true] at hv
  rw [ofPair, hv.1, hv.2]
  rfl

theorem ofPair_of_invalid {name value : Text} (hv : (isName name && isValue value) = false) :
    ∃ e, ofPair name value = .error e := by
  rw [ofPair]
  cases hname : isName name with
  | false => exact ⟨_, rfl⟩
  | true =>
    rw [hname, Bool.true_and] at hv
    rw [hv]
    exact ⟨_, rfl⟩

/-- What is let through has passed, and is as it was given. -/
theorem of_ofPair {name value : Text} {h : Header} (hpair : ofPair name value = .ok h) :
    isName name = true ∧ isValue value = true ∧ h = { name, value } := by
  cases hv : (isName name && isValue value) with
  | false =>
    obtain ⟨e, he⟩ := ofPair_of_invalid hv
    exact absurd (hpair.symm.trans he) (by simp)
  | true =>
    have hsame := @ofPair_of_valid { name, value } hv
    rw [Bool.and_eq_true] at hv
    exact ⟨hv.1, hv.2, Except.ok.inj (hpair.symm.trans hsame)⟩

/-- **Of the fields that are let through, those that keep to their line are the ones without a line feed at
    the end of the name or the value.** -/
theorem lined_iff_of_ofPair {name value : Text} {h : Header} (hpair : ofPair name value = .ok h) :
    h.Lined ↔ h.name.getLast? ≠ some '\n' ∧ h.value.getLast? ≠ some '\n' := by
  obtain ⟨hname, hvalue, rfl⟩ := of_ofPair hpair
  constructor
  · intro hl
    refine ⟨fun hlast => ?_, fun hlast => ?_⟩
    · have htoken := (isToken_iff.mp hl.name).2 _ (List.mem_of_getLast? hlast)
      exact absurd htoken (by decide)
    · exact ne_of_isInline (hl.value _ (List.mem_of_getLast? hlast)) rfl
  · rintro ⟨hn, hv⟩
    rw [isName, dropLineFeed_of_ne hn] at hname
    rw [isValue, dropLineFeed_of_ne hv, List.all_eq_true] at hvalue
    exact ⟨hname, fun c hc => isInline_of_isValueChar (hvalue c hc)⟩

/-! ## Reading lines back

  In both directions: a field that keeps to its line is read back without its padding, and what is read keeps to its
  line. -/

/-- **The line of a field that keeps to it is read back as that field.** -/
theorem readField?_text {h : Header} (hl : h.Lined) (hlatin : ∀ c ∈ h.text, Narrow.latin1.holds c = true) :
    Head.readField? (octets h.text) = some h.trimmed := by
  -- a token holds no colon, so the line is cut where it was put together
  have htoken := (isToken_iff.mp hl.name).2
  have hname : ∀ c ∈ h.name, Narrow.latin1.holds c = true := fun c hc =>
    hlatin c (List.mem_append_left _ hc)
  have hvalue : ∀ c ∈ h.value, Narrow.latin1.holds c = true := fun c hc =>
    hlatin c (List.mem_append_right _ (List.mem_cons_of_mem _ (List.mem_cons_of_mem _ hc)))
  have hcolon : (58 : UInt8) ∉ octets h.name :=
    notMem_octets (c := ':') (by decide) hname fun hc => absurd (htoken _ hc) (by decide)
  have hcut : cut 58 (octets h.text) = (octets h.name, some (32 :: octets h.value)) := by
    rw [text, octets_append]
    exact cut_append_mark hcolon _
  -- the space after the colon goes with the padding
  have htrim : trim Head.isPaddingByte (32 :: octets h.value) = trim Head.isPaddingByte (octets h.value) := rfl
  have hread : ofLatin1 (trim Head.isPaddingByte (octets h.value)) = h.trimmed.value := by
    rw [ofLatin1_trim, ofLatin1_octets hvalue]
    rfl
  have hinline : (trim Head.isPaddingByte (octets h.value)).all Head.isReasonByte = true := by
    rw [List.all_eq_true]
    intro b hb
    rw [← (octet_classes b).2]
    refine (lined_trimmed_iff.mpr hl).value _ ?_
    rw [← hread]
    exact List.mem_map_of_mem hb
  rw [Head.readField?, hcut]
  dsimp only
  rw [htrim, ofLatin1_octets hname, hl.name, hinline, hread]
  rfl

/-- Only fields that keep to their line are read. -/
theorem lined_of_readField? {line : Bytes} {h : Header} (hread : Head.readField? line = some h) : h.Lined := by
  rw [Head.readField?] at hread
  split at hread
  · exact absurd hread (by simp)
  · dsimp only at hread
    split at hread
    · rename_i hfield
      rw [Bool.and_eq_true, List.all_eq_true] at hfield
      rw [← Option.some.inj hread]
      refine ⟨hfield.1, fun c hc => ?_⟩
      obtain ⟨b, hb, rfl⟩ := List.mem_map.mp hc
      rw [(octet_classes b).2]
      exact hfield.2 b hb
    · exact absurd hread (by simp)

/-! ## Lists of lines

  A line that begins with padding continues the one before it.  The line of a field begins with its name, so no
  field continues another one. -/

/-- Lines of which none begins with padding are gone through without joining any. -/
theorem foldl_joinLine {rest : List Bytes} (h : ∀ line ∈ rest, line.head?.any Head.isPaddingByte = false)
    (done : List Bytes) (last : Bytes) :
    ((rest.foldl Head.joinLine (done, last)).2 :: (rest.foldl Head.joinLine (done, last)).1).reverse =
      done.reverse ++ last :: rest := by
  induction rest generalizing done last with
  | nil => exact List.reverse_cons
  | cons line rest ih =>
    -- this line begins a field of its own
    have hline : Head.joinLine (done, last) line = (last :: done, line) := by
      rw [Head.joinLine, h line (List.mem_cons_self ..)]
      rfl
    rw [List.foldl_cons, hline, ih fun l hl => h l (List.mem_cons_of_mem _ hl), List.reverse_cons,
      List.append_assoc]
    rfl

/-- Lines that do not begin with padding continue nothing. -/
theorem unfoldLines_eq {lines : List Bytes} (h : ∀ line ∈ lines, line.head?.any Head.isPaddingByte = false) :
    Head.unfoldLines lines = .ok lines := by
  cases lines with
  | nil => rfl
  | cons line rest =>
    rw [Head.unfoldLines, h line (List.mem_cons_self ..)]
    exact congrArg Except.ok (foldl_joinLine (fun l hl => h l (List.mem_cons_of_mem _ hl)) [] line)

/-- The line of a field does not begin with padding. -/
theorem head?_octets_text {h : Header} (hl : h.Lined) (hlatin : ∀ c ∈ h.text, Narrow.latin1.holds c = true) :
    (octets h.text).head?.any Head.isPaddingByte = false := by
  obtain ⟨hne, htoken⟩ := isToken_iff.mp hl.name
  cases hname : h.name with
  | nil => exact absurd hname hne
  | cons c rest =>
    have hc : c ∈ h.name := hname ▸ List.mem_cons_self ..
    have hlt : c.toNat < 256 := of_decide_eq_true (hlatin c (List.mem_append_left _ hc))
    have hvisible := isVisible_iff.mp (isVisible_of_isTokenChar (htoken c hc))
    rw [text, hname, List.cons_append, octets_cons, List.head?_cons, Option.any_some, ← (octet_classes _).1,
      UInt8.toNat_ofNat', Nat.mod_eq_of_lt hlt, Char.ofNat_toNat, isPadding, Bool.or_eq_false_iff,
      beq_eq_false_iff_ne, beq_eq_false_iff_ne]
    refine ⟨?_, ?_⟩ <;> rintro rfl <;> exact absurd hvisible (by decide)

/-- The lines of fields that keep to them are read back as those fields. -/
theorem readFields_text {fields : List Header} (hl : ∀ h ∈ fields, h.Lined)
    (hlatin : ∀ h ∈ fields, ∀ c ∈ h.text, Narrow.latin1.holds c = true) :
    Head.readFields (fields.map fun h => octets h.text) = .ok (fields.map trimmed) := by
  have hstart : ∀ line ∈ fields.map fun h => octets h.text, line.head?.any Head.isPaddingByte = false := by
    intro line hline
    obtain ⟨h, hh, rfl⟩ := List.mem_map.mp hline
    exact head?_octets_text (hl h hh) (hlatin h hh)
  rw [Head.readFields, unfoldLines_eq hstart]
  show List.mapM _ (fields.map fun h => octets h.text) = _
  rw [List.mapM_map]
  refine mapM_eq_map fun h hh => ?_
  dsimp only [Function.comp_apply]
  rw [readField?_text (hl h hh) (hlatin h hh)]

/-- Only fields that keep to their line are read from lines. -/
theorem lined_of_readFields {lines : List Bytes} {fields : List Header}
    (hread : Head.readFields lines = .ok fields) : ∀ h ∈ fields, h.Lined := by
  intro h hh
  rw [Head.readFields] at hread
  obtain ⟨whole, _, hread⟩ := exists_of_bind_eq_ok hread
  obtain ⟨line, _, hline⟩ := exists_of_mem_mapM hread hh
  split at hline
  · rename_i hfield
    exact Except.ok.inj hline ▸ lined_of_readField? hfield
  · exact absurd hline (by simp)

end Header

end Courier
