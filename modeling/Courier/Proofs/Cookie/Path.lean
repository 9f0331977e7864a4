/-
  Cookies that are scoped by the path of a URL.

  A response that scopes a cookie by the path of its own URL should have it back with the next request for that
  path.  The jar escapes the path of a cookie and writes the digits of escapes in upper case, but compares it with
  the path of the request as that is written, so what comes back depends on whether the URL is written the way the
  jar writes.

  The crux is a length: escaping never makes a path shorter (`Origin.length_le_escapePath`), so an escaped path
  begins the path that it was made from only if nothing was changed at all (`Origin.escapePath_prefix_iff`).  That
  is so for the paths without the five marks that are escaped in a cookie and not in a URL, and without digits of
  escapes in lower case (`Origin.Steady`, `Origin.escapePath_eq_iff`).

  1. Escapes.  `upperEscapes` goes through a text with what is done in reverse in front of it.  What it makes has
     the length of the text (`exists_upperEscapes`), and is the text itself just when the digits of all escapes are
     in upper case (`upperEscapes_eq_iff`).  Both are inductions along the function.  Its first case takes three
     characters at once, and there it matters that a digit is no percent sign: no escape begins inside another one.

  2. Names.  Whether the cookie comes back depends on its domain as well, which is a matter of the host name.  For
     hosts that are their own host names (`HasPlainName`) `findsAgain_iff` says when: always, if the value does not
     hold the text of a domain, and otherwise when the origin of the URL has the host for its domain.  What stands
     next to the host, user information or a negative port, would be a part of that domain
     (`mem_dropPort_authority`).

  3. Values.  A name and a value of letters and digits with a path and nothing else make a cookie of that path
     (`read_scopedByPath`).

  `Jar.scoped_by_own_path` puts the three together for every URL that is read from a text: what the cookie goes
  with, and that it comes back to the URL just when the URL has it back (`Url.HasBack`).
-/
import Courier.Proofs.Cookie.Scope
import Courier.Proofs.Url.Target

namespace Courier

namespace Origin

/-! ## Escapes in upper case

  A jar writes the digits of escapes in upper case.  So a text is left as it is just when they are in upper case
  already. -/

/-- The digits of all escapes are in upper case. -/
def UpperEscaped (s : Text) : Prop :=
  ∀ a b, ['%', a, b] <:+: s → isHexDigit a = true → isHexDigit b = true → a.toUpper = a ∧ b.toUpper = b

variable {s : Text}

theorem upperEscaped_nil : UpperEscaped [] := fun _ _ h => absurd (List.infix_nil.mp h) (List.cons_ne_nil _ _)

theorem upperEscaped_cons {c : Char} :
    UpperEscaped (c :: s) ↔
      (∀ a b, ['%', a, b] <+: c :: s → isHexDigit a = true → isHexDigit b = true → a.toUpper = a ∧ b.toUpper = b) ∧
        UpperEscaped s := by
  constructor
  · exact fun h => ⟨fun a b hbegins => h a b hbegins.isInfix,
      fun a b hinfix => h a b (List.infix_cons_iff.mpr (Or.inr hinfix))⟩
  · rintro ⟨hfront, hrest⟩ a b hinfix
    exact (List.infix_cons_iff.mp hinfix).elim (hfront a b) (hrest a b)

theorem upperEscaped_cons_of_ne {c : Char} (hc : c ≠ '%') : UpperEscaped (c :: s) ↔ UpperEscaped s := by
  rw [upperEscaped_cons, and_iff_right]
  exact fun _ _ hbegins => absurd (List.cons_prefix_cons.mp hbegins).1.symm hc

theorem ne_of_isHexDigit {c : Char} (h : isHexDigit c = true) : c ≠ '%' := by
  rintro rfl
  exact absurd h (by decide)

/-- What is done stays in front, and nothing is made longer or shorter. -/
theorem exists_upperEscapes (done s : Text) : ∃ t, upperEscapes done s = done.reverse ++ t ∧ t.length = s.length := by
  fun_induction upperEscapes done s with
  | case1 done a b rest _ ih =>
    obtain ⟨t, ht, hlength⟩ := ih
    refine ⟨'%' :: a.toUpper :: b.toUpper :: t, ?_, by simp only [List.length_cons, hlength]⟩
    rw [ht, List.reverse_cons, List.reverse_cons, List.reverse_cons]
    simp only [List.append_assoc, List.cons_append, List.nil_append]
  | case2 done a b rest _ ih =>
    obtain ⟨t, ht, hlength⟩ := ih
    refine ⟨'%' :: t, ?_, by rw [List.length_cons, List.length_cons, hlength]⟩
    rw [ht, List.reverse_cons, List.append_assoc]
    rfl
  | case3 done c rest _ ih =>
    obtain ⟨t, ht, hlength⟩ := ih
    refine ⟨c :: t, ?_, by rw [List.length_cons, List.length_cons, hlength]⟩
    rw [ht, List.reverse_cons, List.append_assoc]
    rfl
  | case4 done => exact ⟨[], (List.append_nil _).symm, rfl⟩

/-- **Only a text whose escapes are in upper case is left as it is.** -/
theorem upperEscapes_eq_iff (done s : Text) : upperEscapes done s = done.reverse ++ s ↔ UpperEscaped s := by
  fun_induction upperEscapes done s with
  | case1 done a b rest h ih =>
    -- an escape: its digits are written in upper case, and no other escape begins with one of them
    obtain ⟨ha, hb⟩ := Bool.and_eq_true_iff.mp h
    have hsplit : UpperEscaped ('%' :: a :: b :: rest) ↔ (a.toUpper = a ∧ b.toUpper = b) ∧ UpperEscaped rest := by
      rw [upperEscaped_cons, upperEscaped_cons_of_ne (ne_of_isHexDigit ha), upperEscaped_cons_of_ne (ne_of_isHexDigit hb)]
      refine and_congr_left' ⟨fun hfront => hfront a b ⟨rest, rfl⟩ ha hb, ?_⟩
      rintro hupper a' b' ⟨t, ht⟩ _ _
      simp only [List.cons_append, List.cons.injEq] at ht
      rwa [ht.2.1, ht.2.2.1]
    rw [hsplit, ← ih]
    obtain ⟨t, ht, _⟩ := exists_upperEscapes (b.toUpper :: a.toUpper :: '%' :: done) rest
    rw [ht, List.append_cancel_left_eq]
    simp only [List.reverse_cons, List.append_assoc, List.cons_append, List.nil_append, List.append_cancel_left_eq,
      List.cons.injEq, true_and, and_assoc]
  | case2 done a b rest h ih =>
    -- a percent sign without two digits
    have hfront : ∀ a' b', ['%', a', b'] <+: '%' :: a :: b :: rest → isHexDigit a' = true → isHexDigit b' = true →
        a'.toUpper = a' ∧ b'.toUpper = b' := by
      rintro a' b' ⟨t, ht⟩ ha hb
      simp only [List.cons_append, List.cons.injEq] at ht
      rw [ht.2.1] at ha
      rw [ht.2.2.1] at hb
      exact absurd (Bool.and_eq_true_iff.mpr ⟨ha, hb⟩) h
    rw [upperEscaped_cons, and_iff_right hfront, ← ih, List.reverse_cons, List.append_assoc]
    exact Iff.rfl
  | case3 done c rest hshort ih =>
    -- no percent sign, or one with less than two characters behind it
    have hfront : ∀ a b, ['%', a, b] <+: c :: rest → isHexDigit a = true → isHexDigit b = true →
        a.toUpper = a ∧ b.toUpper = b := by
      rintro a b ⟨t, ht⟩ _ _
      obtain ⟨hc, hrest⟩ := List.cons.inj ht
      exact absurd hrest.symm (hshort a b t hc.symm)
    rw [upperEscaped_cons, and_iff_right hfront, ← ih, List.reverse_cons, List.append_assoc]
    exact Iff.rfl
  | case4 done => exact iff_of_true (List.append_nil _).symm upperEscaped_nil

/-! ## Escaped paths

  The crux is about lengths: escaping never makes a path shorter, so an escaped path is a front of the path it was
  made from only when it is that path.  From this follows which paths a jar leaves alone. -/

/-- A path that the jar leaves as it is, if it is the path of a URL: without the five marks that are escaped in a
    cookie and not in a URL, and with all escapes in upper case. -/
structure Steady (path : Text) : Prop where
  marks : ∀ c ∈ "[\\]^|".toList, c ∉ path
  escapes : UpperEscaped path

/-- **Escaping never makes a path shorter.** -/
theorem length_le_escapePath (path : Text) : path.length ≤ (escapePath path).length := by
  obtain ⟨t, ht, hlength⟩ := exists_upperEscapes [] (percentEncode (safeWith pathMarks) path)
  have hencode := length_add_countP_le_percentEncode (safeWith pathMarks) path
  rw [escapePath, ht, List.length_append, hlength]
  omega

/-- An escaped path begins only the path that it was made from without a change. -/
theorem escapePath_prefix_iff {path : Text} : escapePath path <+: path ↔ escapePath path = path := by
  constructor
  · intro hbegins
    exact hbegins.eq_of_length_le (length_le_escapePath path)
  · intro h
    exact ⟨[], (List.append_nil _).trans h⟩

/-- Of the characters that a path of a URL holds, five marks are escaped. -/
theorem safeWith_of_printableExcept {c : Char} (h : Url.printableExcept Url.pathMarks c = true)
    (hmarks : c ∉ "[\\]^|".toList) : safeWith pathMarks c = true := by
  have hunmarked : (!"[\\]^|".toList.contains c) = true := by
    rw [Bool.not_eq_true', ← Bool.not_eq_true, List.contains_iff_mem]
    exact hmarks
  exact Url.of_ascii_check (p := fun c => Url.printableExcept Url.pathMarks c && !"[\\]^|".toList.contains c)
    (by decide +kernel) (fun _ hc => Url.isVisible_of_printableExcept (Bool.and_eq_true_iff.mp hc).1)
    (Bool.and_eq_true_iff.mpr ⟨h, hunmarked⟩)

/-- **The path of a URL is left as it is** just when it is steady. -/
theorem escapePath_eq_iff {path : Text} (hpath : ∀ c ∈ path, Url.printableExcept Url.pathMarks c = true) :
    escapePath path = path ↔ Steady path := by
  have hsafe : (∀ c ∈ path, safeWith pathMarks c = true) → escapePath path = upperEscapes [] path := by
    intro h
    rw [escapePath, percentEncode_of_forall h]
  constructor
  · -- nothing was escaped, because that would have made it longer; so all that is left are the digits
    intro h
    obtain ⟨t, ht, hlength⟩ := exists_upperEscapes [] (percentEncode (safeWith pathMarks) path)
    have hall : ∀ c ∈ path, safeWith pathMarks c = true := by
      apply forall_of_length_percentEncode_le
      rw [← hlength, ← List.nil_append t]
      exact le_of_eq (congrArg List.length (ht.symm.trans h))
    refine ⟨fun c hc hmem => ?_, (upperEscapes_eq_iff [] path).mp ((hsafe hall).symm.trans h)⟩
    have hescaped : "[\\]^|".toList.all (fun c => !safeWith pathMarks c) = true := by decide
    have hc := List.all_eq_true.mp hescaped c hc
    rw [hall c hmem] at hc
    exact absurd hc (by decide)
  · intro h
    have hall : ∀ c ∈ path, safeWith pathMarks c = true := fun c hc =>
      safeWith_of_printableExcept (hpath c hc) fun hmark => h.marks c hmark hc
    exact (hsafe hall).trans ((upperEscapes_eq_iff [] path).mpr h.escapes)

/-! ## Hosts and ports

  The reader of origins takes off a port by looking for a colon at the end of the authority with nothing but digits
  behind it.  Everything else in the authority it takes for the host, user information and a negative port included. -/

/-- What is dropped is a colon and digits behind it. -/
theorem dropPort_cases (s : Text) :
    dropPort s = s ∨ ∃ port, s = dropPort s ++ ':' :: port ∧ ∀ c ∈ port, c.isDigit = true := by
  by_cases hmark : ':' ∈ s
  · obtain ⟨before, after, hnot, rfl⟩ := exists_cutLast hmark
    rw [dropPort, cutLast_append_mark hnot]
    dsimp only
    split
    · rename_i hport
      exact Or.inr ⟨after, rfl, List.all_eq_true.mp (Bool.and_eq_true_iff.mp hport).2⟩
    · exact Or.inl rfl
  · left
    rw [dropPort, cutLast_of_notMem hmark]

theorem dropPort_subset (s : Text) : dropPort s ⊆ s := by
  rcases dropPort_cases s with hsame | ⟨port, hs, _⟩
  · rw [hsame]
    exact List.Subset.refl s
  · exact fun c hc => hs ▸ List.mem_append_left _ hc

/-- A character that is neither a colon nor a digit is not dropped. -/
theorem mem_dropPort {c : Char} (h : c ∈ s) (hcolon : c ≠ ':') (hdigit : c.isDigit = false) : c ∈ dropPort s := by
  rcases dropPort_cases s with hsame | ⟨port, hs, hport⟩
  · rwa [hsame]
  · rw [hs] at h
    refine (List.mem_append.mp h).resolve_right fun hmem => ?_
    have hdigit' := hport c ((List.mem_cons.mp hmem).resolve_left hcolon)
    rw [hdigit] at hdigit'
    exact Bool.false_ne_true hdigit'

end Origin

namespace Url

variable {u : Url} {raw : Text}

/-- A URL whose host is its host name as it is written: no address of version six, no ASCII form of an international
    name, in lower case, and without a semicolon, which would end an attribute. -/
structure HasPlainName (u : Url) : Prop where
  host : u.rawHost ≠ []
  address : ':' ∉ u.rawHost
  mark : ¬ Idna.asciiMark <+: u.rawHost
  lower : lower u.rawHost = u.rawHost
  semicolon : ';' ∉ u.rawHost

/-! ## Names that are found again

  A cookie without a domain of its own has the domain of its origin, or the host name when the value is one to which
  the host name was added.  A request finds it by looking for the domain in the host name. -/

/-- User information stays in front of the host, and a negative port behind it. -/
theorem mem_dropPort_authority (hbeside : u.userinfo ≠ [] ∨ ∃ p ∈ u.port, p < 0) :
    '@' ∈ Origin.dropPort u.authority ∨ ':' ∈ Origin.dropPort u.authority := by
  rcases hbeside with huserinfo | ⟨p, hp, hnegative⟩
  · -- an at sign stands in front of the host
    left
    apply Origin.mem_dropPort _ (by decide) (by decide)
    rw [authority, List.isEmpty_eq_false_iff.mpr huserinfo, if_neg Bool.false_ne_true]
    exact List.mem_append_left _ (List.mem_append_right _ (List.mem_singleton_self _))
  · -- a minus sign behind the colon is no digit, so the colon stays
    right
    obtain ⟨n, rfl⟩ := Int.eq_negSucc_of_lt_zero hnegative
    have hport : u.portText = ':' :: '-' :: decimal (n + 1) := by
      rw [portText, Option.mem_def.mp hp]
      rfl
    have hmark : ':' ∉ '-' :: decimal (n + 1) := by
      intro hmem
      have hdigit := isDigit_of_mem_decimal ((List.mem_cons.mp hmem).resolve_left (by decide))
      exact absurd hdigit (by decide)
    rw [authority, hostAndPort, hport, ← List.append_assoc, Origin.dropPort, cutLast_append_mark hmark]
    dsimp only
    have hsign : ('-' :: decimal (n + 1)).all Char.isDigit = false := rfl
    rw [hsign, Bool.and_false, if_neg Bool.false_ne_true]
    exact List.mem_append_right _ (List.mem_cons_self ..)

/-- The domain of an origin that is found in the host name is the domain of a dotted name: what stands next to the host
    is no part of the name, and neither is the ending of local hosts. -/
theorem hasDottedName_of_found (hu : u.Plain) (hplain : u.HasPlainName) {origin : Origin}
    (horigin : origin.host = lower (Origin.dropPort u.authority)) (hfound : bare origin.domain <:+: u.rawHost) :
    u.HasDottedName := by
  have hascii : ∀ c ∈ Origin.dropPort u.authority, isAscii c = true := fun c hc =>
    isAscii_of_isVisible (Bool.and_eq_true_iff.mp (isAuthorityChar_of_mem_authority hu.canonical hu.chars
      (Origin.dropPort_subset u.authority hc))).1
  have hmem {c : Char} (hc : c ∈ Origin.dropPort u.authority) (hdot : c.toLower ≠ '.') : c.toLower ∈ u.rawHost := by
    have hhost : c.toLower ∈ origin.host := by
      rw [horigin, lower_of_ascii hascii]
      exact List.mem_map_of_mem hc
    have hdomain : c.toLower ∈ origin.domain := by
      rw [Origin.domain]
      split
      · exact List.mem_append_left _ hhost
      · exact hhost
    refine hfound.subset ((mem_dropWhile_or hdomain).resolve_right fun h => hdot (beq_iff_eq.mp h))
  have hbeside : ¬ (u.userinfo ≠ [] ∨ ∃ p ∈ u.port, p < 0) := by
    intro hbeside
    rcases mem_dropPort_authority hbeside with hat | hcolon
    · exact absurd (hu.chars _ (hmem hat (by decide))) (by decide)
    · exact hplain.address (hmem hcolon (by decide))
  rw [not_or, not_not] at hbeside
  obtain ⟨huserinfo, hport⟩ := hbeside
  have hport : ∀ p ∈ u.port, 0 ≤ p := fun p hp => Int.not_lt.mp fun hnegative => hport ⟨p, hp, hnegative⟩
  refine ⟨?_, hplain.mark, huserinfo, hport⟩
  -- a name without a full stop is that of a local host, which is longer
  by_contra hdot
  rw [Origin.dropPort_authority hplain.address huserinfo hport, hplain.lower] at horigin
  have hdomain : origin.domain = u.rawHost ++ ".local".toList := by
    rw [Origin.domain, horigin, if_pos]
    rw [Bool.not_eq_true', ← Bool.not_eq_true, List.contains_iff_mem]
    exact hdot
  obtain ⟨c, rest, hhost⟩ := List.exists_cons_of_ne_nil hplain.host
  have hbare : bare origin.domain = u.rawHost ++ ".local".toList := by
    have hc : ¬ (c == '.') = true := by
      rw [beq_iff_eq]
      rintro rfl
      exact hdot (hhost ▸ List.mem_cons_self ..)
    rw [hdomain, hhost]
    exact List.dropWhile_cons_of_neg (p := (· == '.')) hc
  have hlength := hfound.length_le
  rw [hbare, List.length_append] at hlength
  have hlocal : ".local".toList.length = 6 := rfl
  omega

/-- **A plain name is found again** if it is not of full stops alone, for every value without the text of a domain, and
    for one with it just when it is a dotted name with nothing but a port next to it. -/
theorem findsAgain_iff (hu : u.Plain) (hplain : u.HasPlainName) {origin : Origin}
    (horigin : origin.host = lower (Origin.dropPort u.authority)) :
    Jar.FindsAgain origin u.rawHost raw ↔
      (∃ c ∈ u.rawHost, c ≠ '.') ∧ (mentionsDomain raw = true → u.HasDottedName) := by
  have htrim : trimBlank u.rawHost = u.rawHost := trim_of_forall fun c hc =>
    not_isBlank_of_isVisible (isVisible_of_isHostChar (hu.chars c hc))
  rw [Jar.FindsAgain, ← bare_ne_nil_iff]
  split
  · -- the domain of the cookie is that of the origin
    rename_i hmention
    rw [imp_iff_right hmention]
    constructor
    · rintro ⟨hne, hfound⟩
      have hdotted := hasDottedName_of_found hu hplain horigin hfound
      rw [hdotted.domain_eq hplain.address horigin hplain.lower] at hne
      exact ⟨hne, hdotted⟩
    · rintro ⟨hne, hdotted⟩
      rw [hdotted.domain_eq hplain.address horigin hplain.lower]
      exact ⟨hne, (List.dropWhile_suffix _).isInfix⟩
  · -- it is the host name itself, which is in lower case already
    rename_i hmention
    rw [htrim]
    exact ⟨fun h => ⟨h.2, fun h' => absurd h' hmention⟩, fun h => ⟨hplain.lower, h.1⟩⟩

end Url

/-! ## A value of a path

  The value that the statement is about: letters and digits, and one parameter with a path.  What is read of it is
  computed parameter by parameter. -/

namespace SetCookie

/-- A name and a value, scoped by a path. -/
def scopedByPath (path name value : Text) : Text := name ++ '=' :: value ++ ';' :: (" Path=".toList ++ path)

variable {path name value hostname url : Text}

/-- A path alone is taken in as it is, without the blanks around it. -/
theorem addAll_path (now : Int) (path : Text) :
    addAll now {} [" Path=".toList ++ path] = some { path := some (trimBlank path) } := by
  have hread : readPart (" Path=".toList ++ path) = ("Path".toList, some (trimBlank path)) :=
    readPart_attribute "Path".toList (List.all_eq_true.mp (by decide)) path
  have hlower : lower "Path".toList = "path".toList := by decide
  rw [addAll_cons (by rw [hread]; exact List.cons_ne_nil _ _), hread]
  dsimp only
  rw [Attributes.add, hlower, if_neg (by decide), if_neg (by decide), if_neg (by decide), if_neg (by decide), if_pos rfl]
  rfl

/-- The path and the domain that is added are all that such a value says. -/
theorem readAttributes_scopedByPath (now : Int) (hpair : ';' ∉ name ++ '=' :: value) (hpath : ';' ∉ path)
    (hmark : ';' ∉ hostname) :
    readAttributes now (parameters (withDomain hostname (scopedByPath path name value))) =
      some { path := some (trimBlank path), domain := addedDomain hostname (scopedByPath path name value) } := by
  have hwhole : ';' ∉ " Path=".toList ++ path := fun hmem =>
    (List.mem_append.mp hmem).elim (by decide) hpath
  have hparameters : parameters (scopedByPath path name value) = [" Path=".toList ++ path] := by
    rw [scopedByPath, parameters_append, parameters, List.splitOn_eq_singleton hpair,
      List.splitOn_eq_singleton hwhole]
    rfl
  rw [readAttributes_withDomain (Or.inr hmark), hparameters, readAttributes_eq, addAll_path, Option.map_some,
    Attributes.withHost, addedDomain]
  split <;> rfl

/-- **A value of letters and digits that is scoped by a path** makes a cookie of that path in escaped form. -/
theorem read_scopedByPath (now : Int) {origin : Origin} (horigin : Origin.read url = .ok origin)
    (hname : ∀ c ∈ name, c.isAlphanum = true) (hne : name ≠ []) (hvalue : ∀ c ∈ value, c.isAlphanum = true)
    (hpath : path ≠ []) (htrim : trimBlank path = path) (hsemicolon : ';' ∉ path) (hmark : ';' ∉ hostname) :
    ∃ c, read now url (withDomain hostname (scopedByPath path name value)) = .ok (.cookie c) ∧
      c.field = { name := "Cookie".toList, value := name ++ '=' :: value } ∧
      c.path = Origin.escapePath path ∧
      ∀ path' secure, c.GoesWith hostname path' secure ↔
        c.path <+: path' ∧ Jar.FindsAgain origin hostname (scopedByPath path name value) := by
  have hletters := semicolon_notMem_letters hname hvalue
  obtain ⟨hpair, hnameOf, hvalueOf⟩ := of_beforeMark_pair
    (beforeMark_letters (" Path=".toList ++ path) hname hvalue) (solid_of_alphanum hname) hne fun c hc =>
    (solid_of_alphanum hvalue c hc).1
  have ha := readAttributes_scopedByPath now hletters hsemicolon hmark
  obtain ⟨c, hc, hcname, hcvalue, hcdomain, hcpath, hcsecure⟩ :=
    read_of_lasting ((hasPair_withDomain _ _).trans hpair) horigin ha rfl rfl rfl
  rw [nameOf_withDomain] at hcname
  rw [valueOf_withDomain] at hcvalue
  have hpathOf : c.path = Origin.escapePath path ∧ c.pathSpecified = true := by
    obtain ⟨d, rest, rfl⟩ := List.exists_cons_of_ne_nil hpath
    rw [pathOf, htrim] at hcpath
    exact Prod.mk.inj hcpath
  have hdomain : c.bareDomain = bare ((addedDomain hostname (scopedByPath path name value)).getD origin.domain) := by
    rw [Cookie.bareDomain, hcdomain]
    exact bare_lower_domainOf horigin (lower_addedDomain hostname _)
  refine ⟨c, hc, ?_, hpathOf.1, fun path' secure => ⟨?_, ?_⟩⟩
  · exact Cookie.field_of_alphanum hname hvalue (hnameOf ▸ hcname) (hvalueOf ▸ hcvalue)
  · intro h
    refine ⟨h.path hpathOf.2, ?_⟩
    rw [← Jar.found_iff_findsAgain, ← hdomain]
    exact h.domain
  · rintro ⟨hbegins, hfound⟩
    rw [← Jar.found_iff_findsAgain, ← hdomain] at hfound
    refine ⟨hfound, fun _ => hbegins, fun hsecure => ?_⟩
    rw [hcsecure] at hsecure
    exact absurd hsecure Bool.false_ne_true

end SetCookie

/-! ## The path of the URL itself

  All conditions together, in both directions: the path is steady and the host is found again, or the cookie does
  not come back. -/

namespace Url

variable {u : Url}

theorem Canonical.requestPath (hu : u.Canonical) :
    u.requestPath ≠ [] ∧ ∀ c ∈ u.requestPath, printableExcept pathMarks c = true := by
  have hunmarked : u.Unmarked := fun hmem => absurd (hu.path _ hmem) (by decide)
  rw [hunmarked.requestPath, rootedPath]
  split
  · exact ⟨List.cons_ne_nil _ _, fun c hc => by rw [List.mem_singleton.mp hc]; decide⟩
  · rename_i hpath
    rw [List.isEmpty_iff] at hpath
    exact ⟨hpath, hu.path⟩

/-- A URL has a cookie back that it scopes by its own path: the path is steady, the host is not of full stops alone, and
    it is a dotted name with nothing but a port next to it if the value holds the text of a domain. -/
structure HasBack (u : Url) (raw : Text) : Prop where
  path : Origin.Steady u.requestPath
  solid : ∃ c ∈ u.rawHost, c ≠ '.'
  dotted : mentionsDomain raw = true → u.HasDottedName

end Url

namespace Jar

variable {s : Text} {u : Url} {hostname name value : Text}

/-- **A cookie that a URL scopes by its own path** is stored, whatever was in the jar before, and goes with the requests
    for every path that its escaped path begins.  The path of the URL itself is one of these just when it is steady, so
    the cookie goes with the next request for it if the URL has it back, and nothing goes otherwise. -/
theorem scoped_by_own_path (jar : Jar) (clock : Clock) (hu : Url.parse s = .ok u) (hscheme : u.scheme ≠ [])
    (hplain : u.HasPlainName) (hhost : Hop.hostnameOf u = .ok hostname) (hname : ∀ c ∈ name, c.isAlphanum = true)
    (hne : name ≠ []) (hvalue : ∀ c ∈ value, c.isAlphanum = true) (hmark : ';' ∉ u.requestPath) :
    let raw := SetCookie.scopedByPath u.requestPath name value
    let field : Header := { name := "Cookie".toList, value := name ++ '=' :: value }
    ∃ c, jar.ingest clock hostname (some u.text) [raw] = (.ok (), { jar := jar.insert c, stored := 1 }) ∧
      (∀ path secure, c ∈ (jar.insert c).select hostname path secure ↔
        Origin.escapePath u.requestPath <+: path ∧ (∃ c ∈ u.rawHost, c ≠ '.') ∧
          (mentionsDomain raw = true → u.HasDottedName)) ∧
      (u.HasBack raw → ∀ secure, field ∈ (jar.insert c).fieldsFor hostname u.requestPath secure) ∧
      (¬ u.HasBack raw → ∀ secure, (insert {} c).fieldsFor hostname u.requestPath secure = []) := by
  intro raw field
  have hcanonical := Url.canonical_of_parse hu
  have hplainUrl := Url.plain_of_parse hu hscheme hplain.host hplain.address
  obtain ⟨hpath, hchars⟩ := hcanonical.requestPath
  obtain ⟨origin, horigin, hoff⟩ := Origin.read_text hplainUrl
  obtain rfl := Url.hostname_eq hplain.host hplain.mark hhost
  have htrim : trimBlank u.requestPath = u.requestPath := trim_of_forall fun c hc =>
    not_isBlank_of_isVisible (Url.isVisible_of_printableExcept (hchars c hc))
  obtain ⟨c, hread, hfield, hcpath, hgoes⟩ :=
    SetCookie.read_scopedByPath (clock 0) horigin hname hne hvalue hpath htrim hmark hplain.semicolon
  have hgoes (path : Text) (secure : Bool) : c.GoesWith u.rawHost path secure ↔
      Origin.escapePath u.requestPath <+: path ∧ (∃ c ∈ u.rawHost, c ≠ '.') ∧
        (mentionsDomain raw = true → u.HasDottedName) := by
    rw [hgoes, hcpath, Url.findsAgain_iff hplainUrl hplain hoff]
  have hback (secure : Bool) : c.GoesWith u.rawHost u.requestPath secure ↔ u.HasBack raw := by
    rw [hgoes, Origin.escapePath_prefix_iff, Origin.escapePath_eq_iff hchars]
    exact ⟨fun ⟨hsteady, hsolid, hdotted⟩ => ⟨hsteady, hsolid, hdotted⟩, fun h => ⟨h.path, h.solid, h.dotted⟩⟩
  -- what it goes with in general, then with a request for its own path, and then when it does not
  refine ⟨c, ingest_of_read_cookie hread, fun path secure => ?_, fun h secure => ?_, fun h secure => ?_⟩
  · rw [mem_select_insert, hgoes]
  · have hselected : c ∈ (jar.insert c).select u.rawHost u.requestPath secure :=
      mem_select_insert.mpr ((hback secure).mpr h)
    rw [fieldsFor_eq, show field = c.field from hfield.symm]
    exact List.mem_map_of_mem hselected
  · rw [fieldsFor_eq, List.map_eq_nil_iff, select, List.filter_eq_nil_iff]
    intro d hd
    obtain rfl : d = c := List.mem_singleton.mp hd
    rw [Cookie.goesWith_iff, hback]
    exact h

/-- Escapes in upper case, and marks that stay. -/
theorem scoped_by_own_path_of_steady :
    ∃ u c, Url.parse "http://h.com:8080/a%2Fb/~c:d".toList = .ok u ∧
      ingest {} (.still 0) "h.com".toList (some u.text) [SetCookie.scopedByPath u.requestPath "n".toList "v".toList] =
        (.ok (), { jar := insert {} c, stored := 1 }) ∧
      (⟨"Cookie".toList, "n=v".toList⟩ : Header) ∈ (insert {} c).fieldsFor "h.com".toList u.requestPath false := by
  let u : Url := { scheme := "http".toList, rawHost := "h.com".toList, port := some 8080, path := "/a%2Fb/~c:d".toList }
  have hu : Url.parse "http://h.com:8080/a%2Fb/~c:d".toList = .ok u := by decide +kernel
  have hplain : u.HasPlainName := ⟨List.cons_ne_nil _ _, by decide, by decide, by decide, by decide⟩
  have hname : "n".toList.all Char.isAlphanum = true := by decide
  have hvalue : "v".toList.all Char.isAlphanum = true := by decide
  have hmarks : ("[\\]^|".toList.all fun c => decide (c ∉ u.requestPath)) = true := by decide
  have hhost : Hop.hostnameOf u = .ok "h.com".toList := by decide +kernel
  obtain ⟨c, hstored, _, hback, _⟩ := scoped_by_own_path {} (.still 0) hu (List.cons_ne_nil _ _) hplain hhost
    (List.all_eq_true.mp hname) (List.cons_ne_nil _ _) (List.all_eq_true.mp hvalue) (by decide)
  refine ⟨u, c, hu, hstored, hback ?_ false⟩
  refine ⟨⟨fun c hc => of_decide_eq_true (List.all_eq_true.mp hmarks c hc), ?_⟩, ⟨'h', by decide, by decide⟩, ?_⟩
  · exact (Origin.upperEscapes_eq_iff [] _).mp (by decide)
  · exact fun hmention => absurd hmention (by decide +kernel)

/-- An escape in lower case: the cookie is stored with the escape in upper case, and is not sent. -/
theorem not_sent_of_lower_escape :
    let host : Text := "h.com".toList
    ∃ u, Url.parse "http://h.com/%aa".toList = .ok u ∧ Hop.hostnameOf u = .ok host ∧ u.requestPath = "/%aa".toList ∧
      (ingest {} (.still 0) host (some u.text)
        [SetCookie.scopedByPath u.requestPath "n".toList "v".toList]).2.stored = 1 ∧
      (ingest {} (.still 0) host (some u.text)
        [SetCookie.scopedByPath u.requestPath "n".toList "v".toList]).2.jar.fieldsFor host u.requestPath false = [] := by
  intro host
  let u : Url := { scheme := "http".toList, rawHost := "h.com".toList, path := "/%aa".toList }
  exact ⟨u, by decide +kernel, by decide +kernel, by decide +kernel, by decide +kernel, by decide +kernel⟩

end Jar

end Courier
