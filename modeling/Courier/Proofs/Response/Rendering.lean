/-
  Heads of responses as a server writes them, and what is read of them.

  `Head.render` is the writer: a status line, a line for every field, an empty line.  A head is `Head.Ordinary` when
  its version is one of the two that servers speak, its reason and its values are text, and no field frames the
  body; a framing field would be brought to its normal form, and a repeated one dropped.  Such a head goes through
  two validators in series, the grammar of heads and the patterns for names and values that a caller may be given,
  and neither of them refuses or changes anything of it.

  Reading goes line by line.  `takeBlock_render` takes the lines of a head off the front of whatever follows,
  `readStatusLine?_statusLine` and `readCheckedFields_text` read them, and `ofLines_render` puts them together.
  `Whole.head?_render` goes over the interim heads before the answer, one at a time.

  Three alphabets meet here, and the inclusions between them do most of the work.  A value may hold visible ASCII,
  the upper half of Latin-1, spaces and tabulators (`Header.isValueChar`); all of these are written in one byte
  (`holds_of_isValueChar`), none of them ends a line, and a reason may hold them as well
  (`isReasonByte_of_mem_octets`).  A name is a token, hence visible.  A version and a status are ASCII.  So every
  line of a head is a line, and it is not empty, which is what a block needs.

  The condition on the ends of a value is the one that a round trip needs beyond the alphabet: blanks around a value
  are padding, and a reader trims them (`Ordinary.trimmed_eq`).

  The division of the bytes plays no part in any of this.  Reading is compared with the reference for whole answers
  once (`Whole.readHead_eq_whole`), and the module works with the reference from there on.

  Names are looked up without regard to case, which for names in ASCII means by their lower-case letters; names
  outside ASCII are no names of fields (`Header.valuesOf_of_ascii`).
-/
import Courier.Proofs.Number.Integer
import Courier.Proofs.Request.Prelude
import Courier.Proofs.Response.Segmentation
import Courier.Proofs.Text.Case
import Mathlib.Data.List.Basic

namespace Courier

/-! ## Numbers -/

/-- Three digits are what a status is written in. -/
theorem length_decimal {n : Nat} (hlow : 100 ≤ n) (hhigh : n < 1000) : (decimal n).length = 3 := by
  have hle : (decimal n).length ≤ 3 := (Nat.length_toDigits_le_iff (by decide) (by decide)).mpr hhigh
  have hgt : ¬ (decimal n).length ≤ 2 := by
    intro h
    have hlt : n < 10 ^ 2 := (Nat.length_toDigits_le_iff (by decide) (by decide)).mp h
    omega
  omega

/-! ## Characters of values -/

namespace Header

/-- Visible characters may stand in a value. -/
theorem isValueChar_of_isVisible {c : Char} (h : isVisible c = true) : isValueChar c = true := by
  rw [isVisible_iff] at h
  have hle : 32 ≤ c.toNat ∧ c.toNat ≤ 126 := by omega
  rw [isValueChar, decide_eq_true hle.1, decide_eq_true hle.2]
  simp

/-- What may stand in a value is written in one byte. -/
theorem holds_of_isValueChar {c : Char} (h : isValueChar c = true) : Narrow.latin1.holds c = true := by
  simp only [isValueChar, Bool.or_eq_true, Bool.and_eq_true, beq_iff_eq, decide_eq_true_iff] at h
  rw [Narrow.holds, decide_eq_true_iff, Narrow.limit]
  rcases h with (rfl | h) | h
  · decide
  · omega
  · omega

/-! ## Fields that frame nothing

  Two names say how the body is framed, and the reader reads the values of these.  All other fields it takes as they
  are.  An ordinary field has neither name, and a value without padding around it, since padding would not be read
  back. -/

/-- A field that says nothing about the framing of the body, with a value that fills its place on the line. -/
structure Ordinary (h : Header) : Prop where
  name : isToken h.name = true
  ne_length : Head.asciiLower h.name ≠ Head.lengthName
  ne_coding : Head.asciiLower h.name ≠ Head.codingName
  value : ∀ c ∈ h.value, isValueChar c = true
  /-- no padding stands before the value or after it -/
  first : ∀ c ∈ h.value.head?, isPadding c = false
  last : ∀ c ∈ h.value.getLast?, isPadding c = false

variable {h : Header} {fields : List Header}

theorem ordinary_iff :
    h.Ordinary ↔ (isToken h.name = true ∧ Head.asciiLower h.name ≠ Head.lengthName ∧
      Head.asciiLower h.name ≠ Head.codingName) ∧ h.value.all isValueChar = true ∧
      h.value.head?.any isPadding = false ∧ h.value.getLast?.any isPadding = false := by
  rw [List.all_eq_true, Option.any_eq_false, Option.any_eq_false]
  exact ⟨fun ⟨a, b, c, d, e, f⟩ => ⟨⟨a, b, c⟩, d, e, f⟩, fun ⟨⟨a, b, c⟩, d, e, f⟩ => ⟨a, b, c, d, e, f⟩⟩

instance : Decidable h.Ordinary := decidable_of_iff' _ ordinary_iff

theorem Ordinary.lined (hh : h.Ordinary) : h.Lined :=
  ⟨hh.name, fun c hc => isInline_of_isValueChar (hh.value c hc)⟩

/-- Every character of the line is one that a value may hold. -/
theorem Ordinary.text (hh : h.Ordinary) : ∀ c ∈ h.text, isValueChar c = true := by
  intro c hc
  rcases List.mem_append.mp hc with hc | hc
  · exact isValueChar_of_isVisible (isVisible_of_isTokenChar ((isToken_iff.mp hh.name).2 c hc))
  · rcases List.mem_cons.mp hc with rfl | hc
    · decide
    · rcases List.mem_cons.mp hc with rfl | hc
      · decide
      · exact hh.value c hc

theorem dropWhile_of_head? {s : Text} (hs : ∀ c ∈ s.head?, isPadding c = false) :
    s.dropWhile isPadding = s := by
  cases s with
  | nil => rfl
  | cons c t => rw [List.dropWhile_cons, hs c rfl, if_neg Bool.false_ne_true]

/-- A value that fills its place has nothing to be trimmed. -/
theorem Ordinary.trimmed_eq (hh : h.Ordinary) : h.trimmed = h := by
  have hlast : ∀ c ∈ h.value.reverse.head?, isPadding c = false := by
    rw [List.head?_reverse]
    exact hh.last
  rw [trimmed, trim, trimLeft, trimRight, dropWhile_of_head? hh.first, dropWhile_of_head? hlast,
    List.reverse_reverse]

/-- The patterns for names and values let such a field through. -/
theorem Ordinary.presentable (hh : h.Ordinary) : (isName h.name && isValue h.value) = true := by
  obtain ⟨hname, hvalue⟩ : h.name.getLast? ≠ some '\n' ∧ h.value.getLast? ≠ some '\n' := by
    constructor
    · intro hlast
      exact absurd ((isToken_iff.mp hh.name).2 _ (List.mem_of_getLast? hlast)) (by decide)
    · intro hlast
      exact absurd (hh.value _ (List.mem_of_getLast? hlast)) (by decide)
  rw [isName, isValue, dropLineFeed_of_ne hname, dropLineFeed_of_ne hvalue, hh.name, Bool.true_and,
    List.all_eq_true]
  exact hh.value

end Header

namespace Head

/-! ## Writing

  A server writes the status line, a line for each field and an empty line.  What a server may send is decidable, so
  that concrete heads can be checked by computation. -/

/-- The status line of a head. -/
def statusLine (head : Head) : Text :=
  "HTTP/".toList ++ head.version ++ ' ' :: decimal head.status ++ ' ' :: head.reason

-- the equation that is made for the definition itself spells the text out, which takes seconds
theorem statusLine_eq (head : Head) :
    head.statusLine = "HTTP/".toList ++ head.version ++ ' ' :: decimal head.status ++ ' ' :: head.reason := rfl

/-- The lines of a head. -/
def lines (head : Head) : List Text := head.statusLine :: head.fields.map Header.text

/-- A head as a server writes it. -/
def render (head : Head) : Bytes := octets (block head.lines)

/-- A head that a server may send and that does not frame its body. -/
structure Ordinary (head : Head) : Prop where
  version : head.version = "1.0".toList ∨ head.version = "1.1".toList
  low : 100 ≤ head.status
  high : head.status ≤ 999
  reason : ∀ c ∈ head.reason, Header.isValueChar c = true
  fields : ∀ h ∈ head.fields, h.Ordinary

variable {head : Head} {fields : List Header}

theorem ordinary_iff :
    head.Ordinary ↔ (head.version = "1.0".toList ∨ head.version = "1.1".toList) ∧
      (100 ≤ head.status ∧ head.status ≤ 999) ∧ head.reason.all Header.isValueChar = true ∧
      ∀ h ∈ head.fields, h.Ordinary := by
  rw [List.all_eq_true]
  exact ⟨fun ⟨a, b, c, d, e⟩ => ⟨a, ⟨b, c⟩, d, e⟩, fun ⟨a, ⟨b, c⟩, d, e⟩ => ⟨a, b, c, d, e⟩⟩

instance : Decidable head.Ordinary := decidable_of_iff' _ ordinary_iff

/-- The version is visible ASCII. -/
theorem Ordinary.isVisible_version (h : head.Ordinary) : ∀ c ∈ head.version, isVisible c = true := by
  have hold : "1.0".toList.all isVisible = true := by decide
  have hnew : "1.1".toList.all isVisible = true := by decide
  rcases h.version with hv | hv
  · rw [hv]
    exact List.all_eq_true.mp hold
  · rw [hv]
    exact List.all_eq_true.mp hnew

/-- Every character of a head is one that a value may hold, so no line ends before its end. -/
theorem Ordinary.lines (h : head.Ordinary) : ∀ line ∈ head.lines, ∀ c ∈ line, Header.isValueChar c = true := by
  have hmark : "HTTP/".toList.all isVisible = true := by decide
  intro line hline c hc
  rcases List.mem_cons.mp hline with rfl | hmem
  · rw [statusLine_eq] at hc
    rcases List.mem_append.mp hc with hc | hc
    · rcases List.mem_append.mp hc with hc | hc
      · rcases List.mem_append.mp hc with hc | hc
        · exact Header.isValueChar_of_isVisible (List.all_eq_true.mp hmark c hc)
        · exact Header.isValueChar_of_isVisible (h.isVisible_version c hc)
      · rcases List.mem_cons.mp hc with rfl | hc
        · decide
        · exact Header.isValueChar_of_isVisible (isVisible_of_mem_decimal hc)
    · rcases List.mem_cons.mp hc with rfl | hc
      · decide
      · exact h.reason c hc
  · obtain ⟨f, hf, rfl⟩ := List.mem_map.mp hmem
    exact (h.fields f hf).text c hc

/-! ## Reading the lines

  Each part of a line has its own characters, and the character behind it is none of them.  So every part is read up
  to its end and no further, and reading is undone piece by piece, from the status line to the list of the fields. -/

/-- A status line with its parts in place is read into them. -/
theorem readStatusLine?_eq {major minor a b c : UInt8} {reason : Bytes}
    (hdigits : [major, minor, a, b, c].all isDigitByte = true) (hreason : reason.all isReasonByte = true) :
    readStatusLine? (versionMark ++ major :: 46 :: minor :: 32 :: a :: b :: c :: 32 :: reason) =
      some (ofLatin1 [major, 46, minor], decimalValue (ofLatin1 [a, b, c]), ofLatin1 reason) := by
  have hmark : versionMark.isPrefixOf (versionMark ++ major :: 46 :: minor :: 32 :: a :: b :: c :: 32 :: reason) =
      true := List.isPrefixOf_iff_prefix.mpr (List.prefix_append _ _)
  rw [readStatusLine?, hmark]
  show (if [major, minor, a, b, c].all isDigitByte then
      if reason.all isReasonByte then some _ else none else none) = _
  rw [if_pos hdigits, if_pos hreason]

/-- A digit is written in the byte of a digit. -/
theorem isDigitByte_of_isDigit {c : Char} (h : c.isDigit = true) : isDigitByte (UInt8.ofNat c.toNat) = true := by
  have hd : 48 ≤ c.toNat ∧ c.toNat ≤ 57 := Char.isDigit_iff_toNat.mp h
  have hn : (UInt8.ofNat c.toNat).toNat = c.toNat := by
    rw [UInt8.toNat_ofNat']
    exact Nat.mod_eq_of_lt (by omega)
  rw [isDigitByte, Bool.and_eq_true, decide_eq_true_iff, decide_eq_true_iff, UInt8.le_iff_toNat_le,
    UInt8.le_iff_toNat_le, hn]
  exact hd

/-- What may stand in a value may stand in a reason. -/
theorem isReasonByte_of_mem_octets {s : Text} (h : ∀ c ∈ s, Header.isValueChar c = true) :
    (octets s).all isReasonByte = true := by
  rw [List.all_eq_true]
  intro b hb
  obtain ⟨c, hc, rfl⟩ := List.mem_map.mp hb
  have hlt : c.toNat < 256 := of_decide_eq_true (Header.holds_of_isValueChar (h c hc))
  rw [← (octet_classes _).2, UInt8.toNat_ofNat', Nat.mod_eq_of_lt hlt, Char.ofNat_toNat]
  exact Header.isInline_of_isValueChar (h c hc)

/-- **A status line is read back**: version, status and reason. -/
theorem readStatusLine?_statusLine (h : head.Ordinary) :
    readStatusLine? (octets head.statusLine) = some (head.version, head.status, head.reason) := by
  obtain ⟨a, b, c, habc⟩ := List.length_eq_three.mp (length_decimal h.low (Nat.lt_succ_of_le h.high))
  have hdigit : ∀ d ∈ [a, b, c], d.isDigit = true := by
    intro d hd
    rw [← habc] at hd
    exact isDigit_of_mem_decimal hd
  have hstatus : ofLatin1 (octets [a, b, c]) = decimal head.status := by
    rw [← habc]
    exact ofLatin1_octets fun d hd => Narrow.holds_of_isAscii (isAscii_of_isVisible (isVisible_of_mem_decimal hd))
  have hreason : ofLatin1 (octets head.reason) = head.reason :=
    ofLatin1_octets fun d hd => Header.holds_of_isValueChar (h.reason d hd)
  -- both versions have one digit on each side of the point, and the first of them is the same
  obtain ⟨minor, hminor, hversion⟩ : ∃ minor : UInt8, isDigitByte minor = true ∧
      octets head.version = [49, 46, minor] ∧ ofLatin1 [49, 46, minor] = head.version := by
    rcases h.version with hv | hv
    · exact ⟨48, by decide, by rw [hv]; decide, by rw [hv]; decide⟩
    · exact ⟨49, by decide, by rw [hv]; decide, by rw [hv]; decide⟩
  have hline : octets head.statusLine = versionMark ++ 49 :: 46 :: minor :: 32 ::
      UInt8.ofNat a.toNat :: UInt8.ofNat b.toNat :: UInt8.ofNat c.toNat :: 32 :: octets head.reason := by
    rw [statusLine_eq, habc, octets_append, octets_append, octets_append, hversion.1]
    rfl
  rw [hline, readStatusLine?_eq ?_ (isReasonByte_of_mem_octets h.reason), hversion.2, hreason]
  · show some (head.version, decimalValue (ofLatin1 (octets [a, b, c])), head.reason) = _
    rw [hstatus, decimalValue_decimal]
  · rw [List.all_eq_true]
    intro x hx
    rcases List.mem_cons.mp hx with rfl | hx
    · decide
    · rcases List.mem_cons.mp hx with rfl | hx
      · exact hminor
      · obtain ⟨d, hd, rfl⟩ := List.mem_map.mp (show x ∈ octets [a, b, c] from hx)
        exact isDigitByte_of_isDigit (hdigit d hd)

/-- Fields that frame nothing are taken as they are, one after the other. -/
theorem foldlM_add (h : ∀ f ∈ fields, f.Ordinary) (seen : Checked) :
    fields.foldlM Checked.add seen = .ok { seen with fields := fields.reverse ++ seen.fields } := by
  induction fields generalizing seen with
  | nil => rfl
  | cons f rest ih =>
    have hf := h f (List.mem_cons_self ..)
    -- neither a length nor a coding: it is put to the others
    have hadd : seen.add f = .ok { seen with fields := f :: seen.fields } := by
      rw [Checked.add, if_neg hf.ne_length, if_neg hf.ne_coding]
    rw [List.foldlM_cons, hadd]
    show rest.foldlM Checked.add { seen with fields := f :: seen.fields } = _
    rw [ih (fun g hg => h g (List.mem_cons_of_mem _ hg)), List.reverse_cons, List.append_assoc]
    rfl

/-- **Fields that frame nothing are read back**: all of them, in order, as they were written. -/
theorem readCheckedFields_text (h : ∀ f ∈ fields, f.Ordinary) :
    readCheckedFields (fields.map fun f => octets f.text) = .ok fields := by
  have hread := Header.readFields_text (fun f hf => (h f hf).lined)
    (fun f hf c hc => Header.holds_of_isValueChar ((h f hf).text c hc))
  have hsame : fields.map Header.trimmed = fields := by
    calc
      fields.map Header.trimmed = fields.map id := List.map_congr_left fun f hf => (h f hf).trimmed_eq
      _ = fields := List.map_id fields
  rw [hsame] at hread
  rw [readCheckedFields, hread]
  show checkFields fields = .ok fields
  rw [checkFields, foldlM_add h]
  show Except.ok (fields.reverse ++ []).reverse = _
  rw [List.append_nil, List.reverse_reverse]

/-- **The lines of a head are read back as that head.** -/
theorem ofLines_render (h : head.Ordinary) : ofLines (head.lines.map octets) = .ok head := by
  have hfields : (head.fields.map Header.text).map octets = head.fields.map fun f => octets f.text := List.map_map
  have hlow : ¬ head.status < 100 := Nat.not_lt_of_le h.low
  rw [lines, List.map_cons, ofLines, readStatusLine?_statusLine h, hfields]
  dsimp only
  rw [readCheckedFields_text h.fields]
  show (if head.status < 100 then Except.error _ else Except.ok head) = Except.ok head
  rw [if_neg hlow]

/-- **The lines of a head are taken off the front of whatever follows.** -/
theorem takeBlock_render (h : head.Ordinary) (more : Bytes) :
    takeBlock (head.render ++ more) = some (head.lines.map octets, more) := by
  have hne : ∀ line ∈ head.lines, line ≠ [] := by
    intro line hline
    rcases List.mem_cons.mp hline with rfl | hmem
    · exact List.append_ne_nil_of_right_ne_nil _ (List.cons_ne_nil _ _)
    · obtain ⟨f, _, rfl⟩ := List.mem_map.mp hmem
      exact f.text_ne_nil
  -- no line holds the byte that ends it
  have hinline : ∀ line ∈ head.lines, (10 : UInt8) ∉ octets line := by
    intro line hline
    refine notMem_octets (c := '\n') (by decide) (fun c hc => Header.holds_of_isValueChar (h.lines line hline c hc))
      fun hfeed => ?_
    exact absurd (h.lines line hline _ hfeed) (by decide)
  exact takeBlock_front.append (takeBlockFrom_block hne hinline []) more

/-- A head of such fields may be shown to a caller. -/
theorem Ordinary.presentable (h : head.Ordinary) : Whole.isPresentable head = true := by
  rw [Whole.isPresentable, List.all_eq_true]
  exact fun f hf => (h.fields f hf).presentable

end Head

/-! ## Heads one after the other

  An interim head is a block like any other and is passed over, whatever it says. -/

namespace Whole

variable {interims : List Head} {head : Head}

/-- **Interim heads are skipped, and the answer is the first head that is not interim**, whatever follows it. -/
theorem head?_render (hinterims : ∀ h ∈ interims, h.Ordinary ∧ h.status ≤ 199 ∧ h.status ≠ 101)
    (hhead : head.Ordinary) (hfinal : 200 ≤ head.status) (more : Bytes) :
    head? (interims.flatMap Head.render ++ (head.render ++ more)) = some (head, more) ∧
      heads (interims.flatMap Head.render ++ (head.render ++ more)) = (interims ++ [head]).map Head.render := by
  induction interims with
  -- no interim head: the first head is the answer
  | nil =>
    have hi : (!head.isInterim) = true := by
      rw [Head.isInterim, decide_eq_false (Nat.not_lt_of_le hfinal)]
      rfl
    have hanswer := head?_of_final (Head.takeBlock_render hhead more) (Head.ofLines_render hhead) hi
    rw [taken_left] at hanswer
    exact hanswer
  | cons first rest ih =>
    obtain ⟨hfirst, hinterim, hswitch⟩ := hinterims first (List.mem_cons_self ..)
    have hi : ¬ (!first.isInterim) = true := by
      rw [Head.isInterim, decide_eq_true (Nat.lt_succ_of_le hinterim)]
      decide
    have hskip := head?_of_interim
      (Head.takeBlock_render hfirst (rest.flatMap Head.render ++ (head.render ++ more)))
      (Head.ofLines_render hfirst) hi hswitch
    rw [taken_left] at hskip
    obtain ⟨hrest, hheads⟩ := ih fun h hh => hinterims h (List.mem_cons_of_mem _ hh)
    rw [List.flatMap_cons, List.append_assoc, hskip.1, hskip.2, hrest, hheads]
    exact ⟨rfl, rfl⟩

end Whole

/-! ## Names -/

/-- Among ordinary fields, a name in ASCII is looked up by its letters alone. -/
theorem Header.valuesOf_of_ascii {fields : List Header} {name : Text} (h : ∀ f ∈ fields, f.Ordinary)
    (hname : ∀ c ∈ name, isAscii c = true) :
    valuesOf fields name =
      (fields.filter fun f => Head.asciiLower f.name == Head.asciiLower name).map Header.value := by
  refine congrArg (List.map Header.value) (List.filter_congr fun f hf => ?_)
  have hown : ∀ c ∈ f.name, isAscii c = true := fun c hc =>
    isAscii_of_isVisible (isVisible_of_isTokenChar ((isToken_iff.mp (h f hf).name).2 c hc))
  rw [hasName, lower_of_ascii hown, lower_of_ascii hname]
  rfl

/-! ## The whole answer

  The division into reads plays no part in what head is found, so the head may be read as if all bytes were there,
  and they are those that were written. -/

namespace Response

variable {s : Stream} {url : Url} {method : Text} {pieces : List Bytes} {interims : List Head} {head : Head}
  {more : Bytes}

/-- The response to a head that stands on a stream after interim ones, in any division. -/
theorem exists_beginRead (hinterims : ∀ h ∈ interims, h.Ordinary ∧ h.status ≤ 199 ∧ h.status ≠ 101)
    (hhead : head.Ordinary) (hfinal : 200 ≤ head.status)
    (hpieces : s.incoming = pieces.map Piece.bytes) (hne : ∀ b ∈ pieces, b ≠ [])
    (hbytes : pieces.flatten = interims.flatMap Head.render ++ (head.render ++ more))
    (hsize : ∀ h ∈ interims ++ [head], h.render.length ≤ maxWaiting)
    (hurl : ∀ c ∈ url.rawHost, isAscii c = true) (hmethod : Header.isToken method = true) :
    ∃ r s', beginRead s url method = (.ok r, s') ∧
      r.shown = { head with version := "HTTP/".toList ++ head.version } ∧
      r.reader.inbox.total s' = more := by
  have htotal : Inbox.total {} s = pieces.flatten := by
    rw [Inbox.total, hpieces, Script.data_map_bytes]
    rfl
  have hsound : Inbox.Sound {} s :=
    ⟨hpieces ▸ Script.plain_map_bytes hne, fun h => absurd h Bool.false_ne_true⟩
  obtain ⟨hanswer, hheads⟩ := Whole.head?_render hinterims hhead hfinal more
  rw [← hbytes, ← htotal] at hanswer hheads
  have hlimit : ∀ item ∈ Whole.heads (Inbox.total {} s), item.length ≤ maxWaiting := by
    rw [hheads]
    exact List.forall_mem_map.mpr hsize
  rw [beginRead, checkRequest_of_token hurl hmethod]
  dsimp only
  rcases Whole.readHead_eq_whole hsound hlimit with ⟨found, inbox, s', hread, _, hfound⟩ | ⟨v, s', _, hnone⟩
  · rw [hanswer, Option.some.injEq, Prod.mk.injEq] at hfound
    obtain ⟨rfl, hrest⟩ := hfound
    obtain ⟨r, hofHead, hshown, _, hreader⟩ := ofHead_of_presentable hhead.presentable url (upper method) inbox
    rw [hread]
    refine ⟨r, s', congrArg (·, s') hofHead, hshown, ?_⟩
    rw [hreader]
    exact hrest.symm
  · rw [hanswer] at hnone
    exact absurd hnone (by simp)

/-- **Reading a head undoes writing it.**  Behind any number of interim heads, with anything after it and in any
    division, a head is read exactly as it was written: version, status, reason and fields, in order and in the
    case that they have; the values under a name are those of its fields in their order; and what follows the head
    is left for the body. -/
theorem beginRead_render (hinterims : ∀ h ∈ interims, h.Ordinary ∧ h.status ≤ 199 ∧ h.status ≠ 101)
    (hhead : head.Ordinary) (hfinal : 200 ≤ head.status)
    (hpieces : s.incoming = pieces.map Piece.bytes) (hne : ∀ b ∈ pieces, b ≠ [])
    (hbytes : pieces.flatten = interims.flatMap Head.render ++ (head.render ++ more))
    (hsize : ∀ h ∈ interims ++ [head], h.render.length ≤ maxWaiting)
    (hurl : ∀ c ∈ url.rawHost, isAscii c = true) (hmethod : Header.isToken method = true) :
    ∃ r s', beginRead s url method = (.ok r, s') ∧
      r.version = "HTTP/".toList ++ head.version ∧ r.status = head.status ∧ r.reason = head.reason ∧
      r.headers = head.fields ∧
      (∀ name, (∀ c ∈ name, isAscii c = true) → Header.valuesOf r.headers name =
        (head.fields.filter fun f => Head.asciiLower f.name == Head.asciiLower name).map Header.value) ∧
      r.reader.inbox.total s' = more := by
  obtain ⟨r, s', hbegin, hshown, hrest⟩ :=
    exists_beginRead hinterims hhead hfinal hpieces hne hbytes hsize hurl hmethod
  obtain ⟨hversion, hstatus, hreason, hheaders⟩ := Head.mk.inj hshown
  refine ⟨r, s', hbegin, hversion, hstatus, hreason, hheaders, ?_, hrest⟩
  intro name hname
  rw [hheaders]
  exact Header.valuesOf_of_ascii hhead.fields hname

/-- An interim head with a field. -/
def hintsHead : Head :=
  { version := "1.1".toList, status := 103, reason := "Early Hints".toList,
    fields := [{ name := "Link".toList, value := "</a>; rel=preload".toList }] }

/-- A head without a reason, in which a name comes twice and a value is empty. -/
def taggedHead : Head :=
  { version := "1.0".toList, status := 299, reason := [],
    fields := [{ name := "X-Tag".toList, value := "a\tb".toList }, { name := "Via".toList, value := [] },
      { name := "x-tag".toList, value := [Char.ofNat 0xe9] }] }

/-- The tagged head behind two interim ones and before one byte of a body. -/
def hintedAnswer : Bytes := hintsHead.render ++ hintsHead.render ++ taggedHead.render ++ [120]

/-- The head behind interim ones, byte by byte. -/
theorem beginRead_render_of_hints :
    ∃ r s',
      beginRead { incoming := (hintedAnswer.map fun b => [b]).map Piece.bytes }
          { scheme := "http".toList, rawHost := "h".toList } "get".toList = (.ok r, s') ∧
        r.version = "HTTP/1.0".toList ∧ r.status = 299 ∧ r.reason = [] ∧ r.headers = taggedHead.fields ∧
        Header.valuesOf r.headers "X-TAG".toList = ["a\tb".toList, [Char.ofNat 0xe9]] ∧
        r.reader.inbox.total s' = [120] := by
  have hinterims : ∀ h ∈ [hintsHead, hintsHead], h.Ordinary ∧ h.status ≤ 199 ∧ h.status ≠ 101 := by decide +kernel
  have hhead : taggedHead.Ordinary := by decide +kernel
  have hne : ∀ b ∈ hintedAnswer.map fun b => [b], b ≠ [] := by
    intro b hb
    obtain ⟨c, _, rfl⟩ := List.mem_map.mp hb
    exact List.cons_ne_nil c []
  have hbytes : (hintedAnswer.map fun b => [b]).flatten =
      [hintsHead, hintsHead].flatMap Head.render ++ (taggedHead.render ++ [120]) := by decide +kernel
  have hsize : ∀ h ∈ [hintsHead, hintsHead] ++ [taggedHead], h.render.length ≤ maxWaiting := by decide +kernel
  have hurl : (Url.rawHost { scheme := "http".toList, rawHost := "h".toList }).all isAscii = true := by decide
  have hmethod : Header.isToken "get".toList = true := by decide
  have hname : "X-TAG".toList.all isAscii = true := by decide
  obtain ⟨r, s', hbegin, hversion, hstatus, hreason, hheaders, hvalues, hrest⟩ :=
    beginRead_render (s := { incoming := (hintedAnswer.map fun b => [b]).map Piece.bytes })
      hinterims hhead (by decide) rfl hne hbytes hsize (List.all_eq_true.mp hurl) hmethod
  refine ⟨r, s', hbegin, hversion, hstatus, hreason, hheaders, ?_, hrest⟩
  rw [hvalues _ (List.all_eq_true.mp hname)]
  decide +kernel

end Response

end Courier
