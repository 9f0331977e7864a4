/-
  Cookies in a request.

  A cookie that goes with a request makes one field, whatever characters its name and its value hold: they are
  percent-encoded into an alphabet of visible ASCII without a single mark that headers or cookies give a meaning to
  (`isPairChar`).  Everything else follows from this alphabet.

  * The check of the field lets it through and trims nothing: there is no line end in it and no blank
    (`Cookie.parse_pairText`).  So no cookie is dropped on the way into a request.

  * The equals sign between name and value is the only one, so a reader that cuts there and decodes both sides has
    name and value again.

  * There is no semicolon, so a reader of Set-Cookie values sees one part, the pair, and makes the same cookie of it
    (`Cookie.read_pairText`).  It needs a name that is not empty, because a value without a name is none.

  `Cookie.Renders` states the last two of a text, and `Cookie.rendered` has it for every cookie.  Which cookies make
  a field is `Cookie.GoesWith`: by domain, by path, and by whether the request is a secure one.
  `Jar.fieldsFor_spec` puts the two together for a jar.
-/
import Courier.Proofs.Cookie.Value
import Courier.Proofs.Header.Line
import Courier.Proofs.Text.Percent

namespace Courier

/-! ## The alphabet of a pair

  Name and value of a cookie are percent coded with safe characters of their own, and everything that coding writes
  is one of these or part of an escape.  The alphabet holds neither an equals sign, nor a semicolon, nor a blank,
  and this is all that the following sections need of it. -/

/-- The characters that name and value of a rendered cookie are written with. -/
def isPairChar (c : Char) : Bool := safeWith ('%' :: Cookie.keptMarks) c

/-- The alphabet of a pair is visible ASCII. -/
theorem isVisible_of_isPairChar {c : Char} (h : isPairChar c = true) : isVisible c = true :=
  isVisible_of_safeWith (by decide) h

theorem equals_notMem_of_isPairChar {s : Text} (h : ∀ c ∈ s, isPairChar c = true) : '=' ∉ s := fun hmem =>
  absurd (h _ hmem) (by decide)

/-- What is written of a name or a value. -/
theorem isPairChar_of_mem_percentEncode {s : Text} {c : Char}
    (h : c ∈ percentEncode (safeWith Cookie.keptMarks) s) : isPairChar c = true := by
  rcases safe_or_escape_of_mem_percentEncode h with hsafe | ⟨b, hb⟩
  · rw [safeWith, Bool.or_eq_true] at hsafe
    rw [isPairChar, safeWith, Bool.or_eq_true, List.contains_cons, Bool.or_eq_true]
    exact hsafe.imp_right Or.inr
  · exact of_mem_percentByte (by decide) hb

namespace Cookie

/-- The name as it is written in a request. -/
def nameText (c : Cookie) : Text := percentEncode (safeWith keptMarks) c.name

/-- The value as it is written in a request. -/
def valueText (c : Cookie) : Text := percentEncode (safeWith keptMarks) (c.value.getD [])

/-- A pair is visible ASCII throughout, with the equals sign. -/
theorem isVisible_of_mem_pairText {c : Cookie} {d : Char} (h : d ∈ c.pairText) : isVisible d = true := by
  rcases List.mem_append.mp h with h | h
  · exact isVisible_of_isPairChar (isPairChar_of_mem_percentEncode h)
  · rcases List.mem_cons.mp h with rfl | h
    · decide
    · exact isVisible_of_isPairChar (isPairChar_of_mem_percentEncode h)

/-- The field that carries a cookie. -/
def field (c : Cookie) : Header := { name := "Cookie".toList, value := c.pairText }

/-- **No cookie is refused as a field.** -/
theorem parse_pairText (c : Cookie) : Header.parse ("Cookie: ".toList ++ c.pairText) = .ok c.field := by
  have hvisible : ∀ d ∈ c.pairText, isVisible d = true := fun _ => isVisible_of_mem_pairText
  have hline : Header.dropLineEnd ("Cookie: ".toList ++ c.pairText) = "Cookie: ".toList ++ c.pairText := by
    rw [Header.dropLineEnd, if_neg]
    intro hsuffix
    have hmem := (List.isSuffixOf_iff_suffix.mp hsuffix).subset (show '\n' ∈ ['\r', '\n'] by decide)
    rcases List.mem_append.mp hmem with hmem | hmem
    · exact absurd hmem (by decide)
    · exact absurd (hvisible _ hmem) (by decide)
  have hcut : cut ':' ("Cookie: ".toList ++ c.pairText) = ("Cookie".toList, some (' ' :: c.pairText)) := rfl
  have htrim : trim Header.isPadding (' ' :: c.pairText) = c.pairText := by
    have hpadding : ∀ d ∈ c.pairText, Header.isPadding d = false := by
      intro d hd
      rw [Header.isPadding, Bool.or_eq_false_iff, beq_eq_false_iff_ne, beq_eq_false_iff_ne]
      exact ⟨by rintro rfl; exact absurd (hvisible _ hd) (by decide),
        by rintro rfl; exact absurd (hvisible _ hd) (by decide)⟩
    exact trim_of_forall hpadding
  -- as a value it passes: every character counts as one, and no line feed ends it
  have hvalue : Header.isValue c.pairText = true := by
    have hlast : c.pairText.getLast? ≠ some '\n' := fun h =>
      absurd (hvisible _ (List.mem_of_getLast? h)) (by decide)
    rw [Header.isValue, Header.dropLineFeed_of_ne hlast, List.all_eq_true]
    intro d hd
    have hd := isVisible_iff.mp (hvisible d hd)
    simp only [Header.isValueChar, Bool.or_eq_true, Bool.and_eq_true, decide_eq_true_iff]
    omega
  rw [Header.parse, hline, hcut]
  dsimp only
  rw [htrim]
  have hname : Header.isName "Cookie".toList = true := by decide
  exact Header.ofPair_of_valid (h := c.field) (Bool.and_eq_true_iff.mpr ⟨hname, hvalue⟩)

/-! ## Reading it back

  What was written is read by a reader of pairs and by a reader of Set-Cookie values.  Both cut at marks that the
  alphabet does not hold, and decode what they find. -/

/-- Kept characters are ASCII, and none of them begins an escape. -/
theorem keptMarks_safe {d : Char} (h : safeWith keptMarks d = true) : isAscii d = true ∧ d ≠ '%' := by
  refine ⟨isAscii_of_isVisible (isVisible_of_safeWith (by decide) h), ?_⟩
  rintro rfl
  exact absurd h (by decide)

theorem percentDecode_nameText (c : Cookie) : percentDecode c.nameText = c.name :=
  percentDecode_percentEncode (fun _ => keptMarks_safe) c.name

/-- A value is decoded to what it was, and a cookie without one has the empty value. -/
theorem percentDecode_valueText (c : Cookie) : percentDecode c.valueText = c.value.getD [] :=
  percentDecode_percentEncode (fun _ => keptMarks_safe) (c.value.getD [])

/-- What a text is that carries a cookie: name and value in an alphabet of their own on both sides of the only equals
    sign, which a reader of pairs and a reader of Set-Cookie values find there again. -/
structure Renders (c : Cookie) (text : Text) : Prop where
  halves : ∃ left right, text = left ++ '=' :: right ∧ '=' ∉ left ∧ '=' ∉ right ∧
    (∀ d ∈ left ++ right, isPairChar d = true) ∧ percentDecode left = c.name ∧ percentDecode right = c.value.getD []
  readBack : c.name ≠ [] → ∀ now url origin, Origin.read url = .ok origin →
    ∃ c', SetCookie.read now url text = .ok (.cookie c') ∧ c'.name = c.name ∧ c'.value = some (c.value.getD [])

theorem isPairChar_of_mem_nameText {c : Cookie} {d : Char} (h : d ∈ c.nameText) : isPairChar d = true :=
  isPairChar_of_mem_percentEncode h

theorem isPairChar_of_mem_valueText {c : Cookie} {d : Char} (h : d ∈ c.valueText) : isPairChar d = true :=
  isPairChar_of_mem_percentEncode h

/-- A pair is one part of a Set-Cookie value. -/
theorem semicolon_notMem_pairText (c : Cookie) : ';' ∉ c.pairText := by
  intro hmem
  rcases List.mem_append.mp hmem with hmem | hmem
  · exact absurd (isPairChar_of_mem_nameText hmem) (by decide)
  · exact absurd (isPairChar_of_mem_valueText ((List.mem_cons.mp hmem).resolve_left (by decide))) (by decide)

/-- A reader of Set-Cookie values has name and value again: the text is one part, the pair itself. -/
theorem read_pairText {c : Cookie} (hne : c.name ≠ []) (now : Int) {url : Text} {origin : Origin}
    (horigin : Origin.read url = .ok origin) :
    ∃ c', SetCookie.read now url c.pairText = .ok (.cookie c') ∧ c'.name = c.name ∧
      c'.value = some (c.value.getD []) := by
  have hsolid {d : Char} (hd : isPairChar d = true) : isBlank d = false :=
    not_isBlank_of_isVisible (isVisible_of_isPairChar hd)
  have hname : ∀ d ∈ c.nameText, isBlank d = false ∧ d ≠ '=' := by
    refine fun d hd => ⟨hsolid (isPairChar_of_mem_nameText hd), ?_⟩
    rintro rfl
    exact equals_notMem_of_isPairChar (fun _ => isPairChar_of_mem_nameText) hd
  have hvalue : ∀ d ∈ c.valueText, isBlank d = false := fun d hd => hsolid (isPairChar_of_mem_valueText hd)
  -- a name that is not empty is not written as nothing
  have hnameText : c.nameText ≠ [] := by
    intro hempty
    apply hne
    rw [← c.percentDecode_nameText, hempty]
    rfl
  have hraw : beforeMark ';' c.pairText = c.nameText ++ '=' :: c.valueText :=
    beforeMark_of_notMem c.semicolon_notMem_pairText
  obtain ⟨hpair, hnameOf, hvalueOf⟩ := SetCookie.of_beforeMark_pair hraw hname hnameText hvalue
  have ha : SetCookie.readAttributes now (SetCookie.parameters c.pairText) = some {} := by
    rw [SetCookie.parameters, List.splitOn_eq_singleton c.semicolon_notMem_pairText]
    rfl
  have hnone : ∀ d ∈ (none : Option Text), lower d = d := fun d hd => absurd hd (Option.not_mem_none d)
  obtain ⟨c', hread, hcname, hcvalue, _⟩ := SetCookie.read_of_governing hpair horigin ha rfl hnone
  refine ⟨c', hread, ?_, ?_⟩
  · rw [hcname, hnameOf, percentDecode_nameText]
  · rw [hcvalue, hvalueOf, percentDecode_valueText]

/-- **A rendered cookie can be read back.** -/
theorem rendered (c : Cookie) : c.Renders c.pairText := by
  have hname : ∀ d ∈ c.nameText, isPairChar d = true := fun _ => isPairChar_of_mem_nameText
  have hvalue : ∀ d ∈ c.valueText, isPairChar d = true := fun _ => isPairChar_of_mem_valueText
  constructor
  · exact ⟨c.nameText, c.valueText, rfl, equals_notMem_of_isPairChar hname, equals_notMem_of_isPairChar hvalue,
      fun d hd => (List.mem_append.mp hd).elim (hname d) (hvalue d), c.percentDecode_nameText,
      c.percentDecode_valueText⟩
  · intro hne now url origin horigin
    exact read_pairText hne now horigin

/-! ## Which cookies go with a request

  The program asks three questions about a cookie, and `GoesWith` says what each of them means in terms of the texts
  of domain, path and host name. -/

/-- A cookie that goes with a request: its domain without leading dots is a text that stands in the host name, its path
    begins the path of the request unless it has none of its own, and a secure one wants a secure request. -/
structure GoesWith (c : Cookie) (hostname path : Text) (secure : Bool) : Prop where
  domain : c.bareDomain ≠ [] ∧ c.bareDomain <:+: hostname
  path : c.pathSpecified = true → c.path <+: path
  secure : c.secure.isSet = true → secure = true

/-- The three tests of the program say just this. -/
theorem goesWith_iff {c : Cookie} {hostname path : Text} {secure : Bool} :
    c.goesWith hostname path secure = true ↔ c.GoesWith hostname path secure := by
  rw [goesWith, Bool.and_eq_true, Bool.and_eq_true, Bool.and_eq_true, Bool.not_eq_true', List.isEmpty_eq_false_iff,
    hasInfix_iff, Bool.or_eq_true, Bool.or_eq_true, Bool.not_eq_true', Bool.not_eq_true', List.isPrefixOf_iff_prefix,
    ← Bool.not_eq_true, ← Bool.not_eq_true, ← imp_iff_not_or, ← imp_iff_not_or]
  exact ⟨fun ⟨⟨hdomain, hpath⟩, hsecure⟩ => ⟨hdomain, hpath, hsecure⟩,
    fun ⟨hdomain, hpath, hsecure⟩ => ⟨⟨hdomain, hpath⟩, hsecure⟩⟩

end Cookie

namespace Jar

variable {jar : Jar} {hostname path : Text} {secure : Bool}

/-- The fields of a request are those of the cookies that go with it. -/
theorem fieldsFor_eq (jar : Jar) (hostname path : Text) (secure : Bool) :
    jar.fieldsFor hostname path secure = (jar.select hostname path secure).map Cookie.field := by
  rw [fieldsFor, ← List.filterMap_eq_map]
  congr 1
  funext c
  rw [c.parse_pairText]
  rfl

/-- What is sent of a cookie is a field named Cookie. -/
theorem name_of_mem_fieldsFor {f : Header} (h : f ∈ jar.fieldsFor hostname path secure) : f.name = "Cookie".toList := by
  rw [fieldsFor_eq] at h
  obtain ⟨c, _, rfl⟩ := List.mem_map.mp h
  rfl

/-- **A request carries exactly the cookies that go with it**, in the order of the jar, each in a field of its own, and
    each field carries its cookie so that it can be read back, also where it is read for the local host. -/
theorem fieldsFor_spec (jar : Jar) (hostname path : Text) (secure : Bool) :
    jar.fieldsFor hostname path secure =
        (jar.toList.filter fun c => c.goesWith hostname path secure).map Cookie.field ∧
      (∀ c : Cookie, c.goesWith hostname path secure = true ↔ c.GoesWith hostname path secure) ∧
      (∀ c : Cookie, c.field.name = "Cookie".toList ∧ c.Renders c.field.value) ∧
      ∃ origin, Origin.read "http://localhost/".toList = .ok origin :=
  ⟨fieldsFor_eq jar hostname path secure, fun _ => Cookie.goesWith_iff, fun c => ⟨rfl, c.rendered⟩, _, rfl⟩

/-- A name and a value with every mark of the grammars, and characters outside ASCII. -/
example :
    let c := Cookie.ofCaller "a=b;é".toList (some ", %\"\n☃".toList) ".h.com".toList []
    (Jar.insert {} c).fieldsFor "www.h.com".toList "/".toList false =
      [⟨"Cookie".toList, "a%3Db%3B%C3%A9=,%20%25%22%0A%E2%98%83".toList⟩] := by
  decide +kernel

end Jar

end Courier
