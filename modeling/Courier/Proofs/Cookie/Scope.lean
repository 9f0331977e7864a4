/-
  Cookies that are scoped by the host that a request announces.

  A request announces the host of its URL as it stands in the authority, an address of version six between brackets
  and an international name in its ASCII form, but cookies are compared with the host name: without brackets,
  decoded, and as it is written, while a domain is put in lower case.  So a cookie that a response scopes by the
  announced host goes with the next request to the URL if that host is a domain of the host name
  (`Url.HasDomainName`), and with none otherwise.

  The crux is a length, in both of the cases in which the two differ.

  * An address of version six stands between brackets in the announced host, and without them in the host name.
    With two characters more it cannot stand in the other.

  * A name in ASCII form is decoded.  What comes of it is shorter than the form, because the mark in front is left
    out and punycode has never fewer characters than the name that it stands for (`Url.length_le_of_hostname`).  So
    the form cannot stand in the name.

  `Url.found_iff_hasDomainName` goes through these cases and the third, in which the announced host is the host
  name, and then lower case is what matters.

  `SendsBack` and `Withholds` are the two outcomes, for all names and values of letters and digits: the cookie is
  stored and goes with the next request, whatever was in the jar before; or, alone in the jar, it does not go with
  it.  They are no negations of one another, and `sendsBack_or_withholds` decides between them for every URL that is
  read from a text.  A URL without a scheme belongs to the second: its text begins with a slash, which is no origin,
  so nothing is stored at all (`Origin.read_of_slash`).
-/
import Courier.Proofs.Cookie.Return
import Courier.Proofs.Idna.Length
import Courier.Proofs.Request.Fields

namespace Courier

/-! ## Names and values of letters and digits

  Such a pair is read as it is written: nothing is trimmed, nothing is cut, and nothing is decoded. -/

/-- Letters and digits are not escaped in a cookie, and read as they are. -/
theorem percentCoding_of_alphanum {s : Text} (h : ∀ c ∈ s, c.isAlphanum = true) :
    percentEncode (safeWith Cookie.keptMarks) s = s ∧ percentDecode s = s := by
  have hsafe : ∀ c ∈ s, safeWith Cookie.keptMarks c = true := by
    intro c hc
    rw [safeWith, isUnreserved, h c hc]
    rfl
  exact ⟨percentEncode_of_forall hsafe, percentDecode_of_forall (fun _ => Cookie.keptMarks_safe) hsafe⟩

/-- A name and a value of letters and digits are sent as they were written. -/
theorem Cookie.field_of_alphanum {c : Cookie} {name value : Text} (hname : ∀ d ∈ name, d.isAlphanum = true)
    (hvalue : ∀ d ∈ value, d.isAlphanum = true) (hcname : c.name = percentDecode name)
    (hcvalue : c.value = some (percentDecode value)) :
    c.field = { name := "Cookie".toList, value := name ++ '=' :: value } := by
  rw [(percentCoding_of_alphanum hname).2] at hcname
  rw [(percentCoding_of_alphanum hvalue).2] at hcvalue
  rw [field, pairText, hcname, hcvalue, Option.getD_some, (percentCoding_of_alphanum hname).1,
    (percentCoding_of_alphanum hvalue).1]

/-! ## A value of a domain

  The value that the statement is about: letters and digits, and one parameter with a domain, which may not end its
  own part. -/

namespace SetCookie

theorem semicolon_notMem_letters {name value : Text} (hname : ∀ c ∈ name, c.isAlphanum = true)
    (hvalue : ∀ c ∈ value, c.isAlphanum = true) : ';' ∉ name ++ '=' :: value := by
  intro hmem
  rcases List.mem_append.mp hmem with hmem | hmem
  · exact absurd (hname _ hmem) (by decide)
  · exact absurd (hvalue _ ((List.mem_cons.mp hmem).resolve_left (by decide))) (by decide)

theorem beforeMark_letters {name value : Text} (parts : Text) (hname : ∀ c ∈ name, c.isAlphanum = true)
    (hvalue : ∀ c ∈ value, c.isAlphanum = true) :
    beforeMark ';' (name ++ '=' :: value ++ ';' :: parts) = name ++ '=' :: value := by
  rw [beforeMark_append, beforeMark_of_notMem (semicolon_notMem_letters hname hvalue)]

/-- A name and a value, scoped by a domain. -/
def scopedBy (domain name value : Text) : Text := name ++ '=' :: value ++ ';' :: (" Domain=".toList ++ domain)

variable {domain name value hostname : Text}

/-- A value that is scoped by a domain is not given another one. -/
theorem withDomain_scopedBy (hostname name value : Text) (hdomain : ∀ c ∈ domain, isAscii c = true) :
    withDomain hostname (scopedBy domain name value) = scopedBy domain name value := by
  have hmore : ∀ c ∈ " Domain=".toList ++ domain, isAscii c = true := fun c hc =>
    (List.mem_append.mp hc).elim (List.all_eq_true.mp (by decide) c) (hdomain c)
  have hfound : hasInfix "domain=".toList ((" Domain=".toList ++ domain).map Char.toLower) = true := by
    rw [hasInfix_iff, List.map_append]
    exact ⟨[' '], domain.map Char.toLower, rfl⟩
  rw [withDomain, if_pos]
  rw [scopedBy, mentionsDomain_append hmore, hfound, Bool.or_true]

/-- The domain is the only parameter, if it does not end its part. -/
theorem readAttributes_scopedBy (now : Int) (name value : Text) (hdomain : ';' ∉ domain)
    (hpair : ';' ∉ name ++ '=' :: value) :
    readAttributes now (parameters (scopedBy domain name value)) =
      some (Attributes.orDomain {} (lower (trimBlank domain))) := by
  have hwhole : ';' ∉ " Domain=".toList ++ domain := fun hmem =>
    (List.mem_append.mp hmem).elim (by decide) hdomain
  rw [scopedBy, parameters_append, parameters, List.splitOn_eq_singleton hpair, List.splitOn_eq_singleton hwhole]
  exact addAll_domain now {} domain

/-- **A value of letters and digits that is scoped by a domain** makes a cookie of that domain, which is sent as it was
    written. -/
theorem read_scopedBy (now : Int) {url : Text} {origin : Origin} (horigin : Origin.read url = .ok origin)
    (hname : ∀ c ∈ name, c.isAlphanum = true) (hne : name ≠ []) (hvalue : ∀ c ∈ value, c.isAlphanum = true)
    (hdomain : ';' ∉ domain) :
    ∃ c, read now url (scopedBy domain name value) = .ok (.cookie c) ∧
      c.field = { name := "Cookie".toList, value := name ++ '=' :: value } ∧
      c.bareDomain = bare (lower (trimBlank domain)) ∧ c.pathSpecified = false ∧ c.secure = .off := by
  have hbefore := beforeMark_letters (" Domain=".toList ++ domain) hname hvalue
  obtain ⟨hpair, hnameOf, hvalueOf⟩ := of_beforeMark_pair hbefore (solid_of_alphanum hname) hne fun c hc =>
    (solid_of_alphanum hvalue c hc).1
  have hlower : ∀ d ∈ some (lower (trimBlank domain)), lower d = d := by
    intro d hd
    rw [← Option.mem_some_iff.mp hd, lower_lower]
  have ha := readAttributes_scopedBy now name value hdomain (semicolon_notMem_letters hname hvalue)
  obtain ⟨c, hc, hcname, hcvalue, hcdomain, hpath, hsecure⟩ :=
    read_of_governing hpair horigin ha rfl hlower
  refine ⟨c, hc, ?_, hcdomain, hpath, hsecure⟩
  exact Cookie.field_of_alphanum hname hvalue (hnameOf ▸ hcname) (hvalueOf ▸ hcvalue)

end SetCookie

/-! ## URLs that are no origins

  A text that begins with a slash has neither scheme nor host for the reader of origins. -/

namespace Origin

/-- A text that begins with a slash has no scheme. -/
theorem read_of_slash (s : Text) : ∃ e, read ('/' :: s) = .error e := by
  -- neither blanks nor angle brackets nor a prefix change its first character
  have hunwrap : ∃ t, unwrap ('/' :: s) = '/' :: t := by
    have htrim : trimBlank ('/' :: s) = '/' :: trimRight isBlank s := by
      have hleft : trimLeft isBlank ('/' :: s) = '/' :: s := List.dropWhile_cons_of_neg (by decide)
      rw [trimBlank, trim, hleft]
      exact trimRight_append_cons (by decide) [] s
    have hangle : ¬ (('/' :: trimRight isBlank s).head? = some '<' ∧
        ('/' :: trimRight isBlank s).getLast? = some '>') := fun h => absurd (Option.some.inj h.1) (by decide)
    refine ⟨trimRight isBlank s, ?_⟩
    rw [unwrap, htrim, if_neg hangle]
    exact if_neg Bool.false_ne_true
  obtain ⟨t, ht⟩ := hunwrap
  -- and no more does a fragment
  obtain ⟨main, hmain⟩ : ∃ main, (cutFragment ('/' :: t)).1 = '/' :: main := by
    by_cases hmark : '#' ∈ '/' :: t
    · obtain ⟨before, after, hnot, hcut⟩ := exists_cutLast hmark
      rw [cutFragment, hcut, cutLast_append_mark hnot]
      cases before with
      | nil => exact absurd (List.cons.inj hcut).1 (by decide)
      | cons c before => exact ⟨before, congrArg (· :: before) (List.cons.inj hcut).1.symm⟩
    · rw [cutFragment, cutLast_of_notMem hmark]
      exact ⟨t, rfl⟩
  rw [read_eq, ht, hmain]
  exact ⟨_, rfl⟩

end Origin

/-! ## Announced hosts

  The announced host is compared with the host name.  There are three cases, an address, a decoded name and a name
  that is its own host name, and in the first two lengths decide. -/

namespace Url

variable {u : Url} {hostname : Text}

/-- A URL whose announced host is a domain of its host name: no address of version six, no ASCII form of an
    international name, in lower case, and not of full stops alone. -/
structure HasDomainName (u : Url) : Prop where
  address : ':' ∉ u.rawHost
  mark : ¬ Idna.asciiMark <+: u.rawHost
  lower : lower u.rawHost = u.rawHost
  solid : ∃ c ∈ u.rawHost, c ≠ '.'

/-- The host name is that of the local host, or not longer than the host, and shorter if it was decoded. -/
theorem length_le_of_hostname (hhost : u.rawHost ≠ []) (h : Hop.hostnameOf u = .ok hostname) :
    hostname = "localhost".toList ∨ hostname.length ≤ u.rawHost.length ∧
      (Idna.asciiMark <+: u.rawHost → hostname.length < u.rawHost.length) := by
  by_cases hmark : Idna.asciiMark <+: u.rawHost
  · rw [Hop.hostnameOf, host, if_pos (List.isPrefixOf_iff_prefix.mpr hmark)] at h
    cases hdecode : Idna.decode u.rawHost with
    | error e =>
      rw [hdecode] at h
      have herror : (Except.error (Failure.hostName e) : Except Failure Text) = .ok hostname := h
      exact absurd herror (by simp)
    | ok points =>
      have hshort := (Idna.length_le_of_decode hdecode).2 hmark
      rw [hdecode] at h
      cases points with
      | nil => exact Or.inl (Except.ok.inj h).symm
      | cons c rest =>
        have hlength : hostname.length = (c :: rest).length := by
          rw [← Except.ok.inj h]
          exact List.length_map Char.ofNat
        exact Or.inr ⟨by omega, fun _ => by omega⟩
  · rw [hostname_eq hhost hmark h]
    exact Or.inr ⟨Nat.le_refl _, fun hprefix => absurd hprefix hmark⟩

/-- An announced host is as long as its domain, if it begins with a character that is no full stop. -/
theorem length_le_of_found {announced : Text} {c : Char} (hhead : announced.head? = some c) (hc : c.toLower = c ∧ c ≠ '.')
    (hascii : ∀ d ∈ announced, isAscii d = true) (htrim : trimBlank announced = announced)
    (h : bare (lower (trimBlank announced)) <:+: hostname) : c ∈ hostname ∧ announced.length ≤ hostname.length := by
  obtain ⟨rest, rfl⟩ := List.head?_eq_some_iff.mp hhead
  have hbare : bare (lower (trimBlank (c :: rest))) = c :: rest.map Char.toLower := by
    rw [htrim, lower_of_ascii hascii, List.map_cons, hc.1]
    have hdot : ¬ (c == '.') = true := mt beq_iff_eq.mp hc.2
    exact List.dropWhile_cons_of_neg (p := (· == '.')) hdot
  rw [hbare] at h
  have hlength := h.length_le
  rw [List.length_cons, List.length_map, ← List.length_cons (a := c)] at hlength
  exact ⟨h.subset (List.mem_cons_self ..), hlength⟩

theorem trimBlank_brackets (s : Text) : trimBlank ('[' :: s ++ [']']) = '[' :: s ++ [']'] := by
  have hleft : trimLeft isBlank ('[' :: s ++ [']']) = '[' :: s ++ [']'] := List.dropWhile_cons_of_neg (by decide)
  rw [trimBlank, trim, hleft]
  exact trimRight_append_cons (by decide) ('[' :: s) []

/-- **An announced host is found in the host name** just when it is a domain of it. -/
theorem found_iff_hasDomainName (hu : u.Canonical) (hhost : u.rawHost ≠ []) (hname : Hop.hostnameOf u = .ok hostname)
    (hascii : ∀ c ∈ u.bracketedHost, isAscii c = true) :
    (bare (lower (trimBlank u.bracketedHost)) ≠ [] ∧ bare (lower (trimBlank u.bracketedHost)) <:+: hostname) ↔
      u.HasDomainName := by
  have hlengths := length_le_of_hostname hhost hname
  by_cases hcolon : ':' ∈ u.rawHost
  · -- the brackets make the address longer than the host name
    refine iff_of_false (fun hfound => ?_) fun h => h.address hcolon
    have hbrackets : u.bracketedHost = '[' :: u.rawHost ++ [']'] := if_pos (List.contains_iff_mem.mpr hcolon)
    rw [hbrackets] at hascii hfound
    obtain ⟨hmem, hlength⟩ := length_le_of_found rfl (by decide) hascii (trimBlank_brackets _) hfound.2
    rw [List.length_append, List.length_cons] at hlength
    rcases hlengths with rfl | ⟨hle, _⟩
    · exact absurd hmem (by decide)
    · omega
  · have hplain := isHostChar_of_notMem hu hcolon
    have hbare : u.bracketedHost = u.rawHost := bracketedHost_of_plain hplain
    have htrim : trimBlank u.rawHost = u.rawHost := trim_of_forall fun c hc =>
      not_isBlank_of_isVisible (isVisible_of_isHostChar (hplain c hc))
    rw [hbare] at hascii ⊢
    by_cases hmark : Idna.asciiMark <+: u.rawHost
    · -- the mark and what punycode adds make the ASCII form longer than the name
      refine iff_of_false (fun hfound => ?_) fun h => h.mark hmark
      have hhead : u.rawHost.head? = some 'x' := by
        obtain ⟨rest, hrest⟩ := hmark
        rw [← hrest]
        rfl
      obtain ⟨hmem, hlength⟩ := length_le_of_found hhead (by decide) hascii htrim hfound.2
      rcases hlengths with rfl | ⟨_, hlt⟩
      · exact absurd hmem (by decide)
      · have hlt := hlt hmark
        omega
    · obtain rfl := hostname_eq hhost hmark hname
      rw [bare_lower_infix_iff, htrim, bare_ne_nil_iff]
      exact ⟨fun h => ⟨hcolon, hmark, h.1, h.2⟩, fun h => ⟨h.lower, h.solid⟩⟩

/-- A URL with a host is no origin without a scheme: its text begins with a slash. -/
theorem scheme_ne_nil_of_origin (hhost : u.rawHost ≠ []) {origin : Origin} (h : Origin.read u.text = .ok origin) :
    u.scheme ≠ [] := by
  intro hscheme
  obtain ⟨rest, hrest⟩ : ∃ rest, u.text = '/' :: rest := by
    rw [text, hscheme, List.isEmpty_nil, if_pos rfl, List.isEmpty_eq_false_iff.mpr (authority_ne_nil hhost),
      if_neg Bool.false_ne_true]
    exact ⟨_, rfl⟩
  obtain ⟨e, he⟩ := Origin.read_of_slash rest
  rw [hrest, he] at h
  exact absurd h (by simp)

theorem of_hostHeader {domain : Text} (h : u.hostHeader = .ok (domain ++ u.portText)) :
    domain = u.bracketedHost ∧ ∀ c ∈ u.bracketedHost, isAscii c = true := by
  rw [hostHeader] at h
  obtain ⟨_, hwrite, h⟩ := exists_of_bind_eq_ok h
  have hboth : u.bracketedHost ++ u.portText = domain ++ u.portText := Except.ok.inj h
  refine ⟨(List.append_cancel_right hboth).symm, fun c hc => ?_⟩
  exact (Narrow.of_write hwrite).1 c (List.mem_append_left _ hc)

theorem semicolon_notMem_bracketedHost (h : ';' ∉ u.rawHost) : ';' ∉ u.bracketedHost := by
  rw [bracketedHost]
  split
  · intro hmem
    rcases List.mem_append.mp hmem with hmem | hmem
    · exact h ((List.mem_cons.mp hmem).resolve_left (by decide))
    · exact absurd hmem (by decide)
  · exact h

end Url

/-! ## The next request

  The two outcomes, and which of them it is. -/

namespace Jar

variable {jar : Jar} {hostname url domain name value : Text}

/-- A value that is scoped by a domain is stored if its URL is an origin. -/
theorem ingest_scopedBy (jar : Jar) (clock : Clock) (hostname : Text) {origin : Origin}
    (horigin : Origin.read url = .ok origin) (hname : ∀ c ∈ name, c.isAlphanum = true) (hne : name ≠ [])
    (hvalue : ∀ c ∈ value, c.isAlphanum = true) (hmark : ';' ∉ domain) (hascii : ∀ c ∈ domain, isAscii c = true) :
    ∃ c, jar.ingest clock hostname (some url) [SetCookie.scopedBy domain name value] =
          (.ok (), { jar := jar.insert c, stored := 1 }) ∧
      c.field = { name := "Cookie".toList, value := name ++ '=' :: value } ∧
      ∀ path secure, c.GoesWith hostname path secure ↔
        bare (lower (trimBlank domain)) ≠ [] ∧ bare (lower (trimBlank domain)) <:+: hostname := by
  obtain ⟨c, hread, hfield, hdomain, hpath, hsecure⟩ := SetCookie.read_scopedBy (clock 0) horigin hname hne hvalue hmark
  refine ⟨c, ingest_of_read_cookie ?_, hfield, fun path secure => ?_⟩
  · rw [SetCookie.withDomain_scopedBy hostname name value hascii]
    exact hread
  · rw [Cookie.goesWith_iff_found hpath hsecure, hdomain]

theorem ingest_of_noOrigin {e : OriginError} (h : Origin.read url = .error e) (jar : Jar) (clock : Clock)
    (hostname raw : Text) : (jar.ingest clock hostname (some url) [raw]).2.jar = jar := by
  rw [ingest, Option.getD_some, Intake.addAll, Intake.add, SetCookie.read, h]
  cases SetCookie.hasPair (withDomain hostname raw) <;> rfl

end Jar

/-- Of a caller without fields, a hop has only the Cookie fields of its jar. -/
theorem Hop.exists_cookie_of_mem {method : Text} {query : Query} {timeouts : Timeouts} {jar : Jar} {u : Url} {body : Body}
    {hop : Hop} (h : build method [] query timeouts (some jar) u body = .ok hop) {f : Header} (hmem : f ∈ hop.headers)
    (hname : f.name = "Cookie".toList) : ∃ c ∈ jar.select hop.hostname u.requestPath u.isSecure, c.field = f := by
  rw [(built_of_build h).headers, List.nil_append] at hmem
  rcases List.mem_append.mp hmem with hmem | hmem
  · have hfields : f ∈ jar.fieldsFor hop.hostname u.requestPath u.isSecure := hmem
    rw [Jar.fieldsFor_eq] at hfields
    exact List.mem_map.mp hfields
  · rw [name_of_mem_ownLength hmem] at hname
    exact absurd hname (by decide)

namespace Url

variable {u : Url} {hostname domain : Text}

/-- A cookie of letters and digits that a response scopes by a domain is stored, and goes with the next request to the
    URL, whatever was in the jar before and whatever the request is. -/
def SendsBack (u : Url) (hostname domain : Text) : Prop :=
  ∀ (jar : Jar) (clock : Clock) (name value method : Text) (headers : List Header) (query : Query) (timeouts : Timeouts)
    (body : Body), (∀ c ∈ name, c.isAlphanum = true) → name ≠ [] → (∀ c ∈ value, c.isAlphanum = true) →
      ∃ after hop,
        jar.ingest clock hostname (some u.text) [SetCookie.scopedBy domain name value] =
            (.ok (), { jar := after, stored := 1 }) ∧
          Hop.build method headers query timeouts (some after) u body = .ok hop ∧
          { name := "Cookie".toList, value := name ++ '=' :: value } ∈ hop.headers

/-- No such cookie, alone in the jar, goes with the next request to the URL, if the caller has no fields. -/
def Withholds (u : Url) (hostname domain : Text) : Prop :=
  ∀ (clock : Clock) (name value method : Text) (query : Query) (timeouts : Timeouts) (body : Body) (hop : Hop),
    (∀ c ∈ name, c.isAlphanum = true) → name ≠ [] → (∀ c ∈ value, c.isAlphanum = true) →
      Hop.build method [] query timeouts
          (some (Jar.ingest {} clock hostname (some u.text) [SetCookie.scopedBy domain name value]).2.jar) u body =
            .ok hop →
        ∀ f ∈ hop.headers, f.name ≠ "Cookie".toList

/-- A domain that is found in the host name sends the cookie back. -/
theorem sendsBack_of_found (hname : Hop.hostnameOf u = .ok hostname) {origin : Origin}
    (horigin : Origin.read u.text = .ok origin) (hmark : ';' ∉ domain) (hascii : ∀ c ∈ domain, isAscii c = true)
    (hfound : bare (lower (trimBlank domain)) ≠ [] ∧ bare (lower (trimBlank domain)) <:+: hostname) :
    u.SendsBack hostname domain := by
  intro jar clock name value method headers query timeouts body hletters hne hvalue
  obtain ⟨c, hstored, hfield, hgoes⟩ := Jar.ingest_scopedBy jar clock hostname horigin hletters hne hvalue hmark hascii
  obtain ⟨hop, hbuild⟩ : ∃ hop, Hop.build method headers query timeouts (some (jar.insert c)) u body = .ok hop := by
    rw [Hop.build, hname]
    exact ⟨_, rfl⟩
  refine ⟨_, hop, hstored, hbuild, ?_⟩
  have hbuilt := Hop.built_of_build hbuild
  obtain rfl := Except.ok.inj (hname.symm.trans hbuilt.hostname)
  have hfields : c.field ∈ (jar.insert c).fieldsFor hop.hostname u.requestPath u.isSecure := by
    rw [Jar.fieldsFor_eq]
    exact List.mem_map_of_mem (Jar.mem_select_insert.mpr ((hgoes _ _).mpr hfound))
  rw [hbuilt.headers, ← hfield]
  exact List.mem_append_left _ (List.mem_append_right _ hfields)

/-- A domain that is not found withholds it, and so does a URL that is no origin. -/
theorem withholds_of_not_found (hname : Hop.hostnameOf u = .ok hostname) (hmark : ';' ∉ domain)
    (hascii : ∀ c ∈ domain, isAscii c = true)
    (hfound : ∀ origin, Origin.read u.text = .ok origin →
      ¬ (bare (lower (trimBlank domain)) ≠ [] ∧ bare (lower (trimBlank domain)) <:+: hostname)) :
    u.Withholds hostname domain := by
  intro clock name value method query timeouts body hop hletters hne hvalue hbuild f hmem hcookie
  obtain ⟨c', hselect, _⟩ := Hop.exists_cookie_of_mem hbuild hmem hcookie
  obtain ⟨hmember, hgoes⟩ := List.mem_filter.mp hselect
  cases horigin : Origin.read u.text with
  -- nothing was stored
  | error e =>
    rw [Jar.ingest_of_noOrigin horigin] at hmember
    exact absurd hmember List.not_mem_nil
  | ok origin =>
    -- the one cookie in the jar is that of the value
    obtain ⟨c, hstored, _, hiff⟩ := Jar.ingest_scopedBy {} clock hostname horigin hletters hne hvalue hmark hascii
    rw [hstored] at hmember
    obtain rfl : c' = c := List.mem_singleton.mp hmember
    obtain rfl := Except.ok.inj (hname.symm.trans (Hop.built_of_build hbuild).hostname)
    exact hfound origin horigin ((hiff _ _).mp (Cookie.goesWith_iff.mp hgoes))

/-- **The announced host is what cookies are scoped by** for every URL with a scheme whose announced host is a domain of
    its host name, and for no other URL. -/
theorem sendsBack_or_withholds {s : Text} (hu : Url.parse s = .ok u) (hhost : u.rawHost ≠ [])
    (hname : Hop.hostnameOf u = .ok hostname) (hheader : u.hostHeader = .ok (domain ++ u.portText))
    (hmark : ';' ∉ u.rawHost) :
    (u.scheme ≠ [] ∧ u.HasDomainName → u.SendsBack hostname domain) ∧
      (¬ (u.scheme ≠ [] ∧ u.HasDomainName) → u.Withholds hostname domain) := by
  obtain ⟨rfl, hascii⟩ := of_hostHeader hheader
  have hfound := found_iff_hasDomainName (canonical_of_parse hu) hhost hname hascii
  have hsemicolon := semicolon_notMem_bracketedHost hmark
  constructor
  · rintro ⟨hscheme, hdomain⟩
    obtain ⟨origin, horigin, _⟩ := Origin.read_text (plain_of_parse hu hscheme hhost hdomain.address)
    exact sendsBack_of_found hname horigin hsemicolon hascii (hfound.mpr hdomain)
  · intro hnot
    refine withholds_of_not_found hname hsemicolon hascii fun origin horigin h => ?_
    exact hnot ⟨scheme_ne_nil_of_origin hhost horigin, hfound.mp h⟩

/-- A name in lower case, with a port next to it. -/
theorem sendsBack_of_lower_name :
    ∃ u, Url.parse "https://H.com:8443/p".toList = .ok u ∧ u.hostHeader = .ok "h.com:8443".toList ∧
      u.SendsBack "h.com".toList "h.com".toList := by
  let u : Url := { scheme := "https".toList, rawHost := "h.com".toList, port := some 8443, path := "/p".toList }
  have hu : Url.parse "https://H.com:8443/p".toList = .ok u := by decide +kernel
  have hheader : u.hostHeader = .ok ("h.com".toList ++ u.portText) := by decide +kernel
  refine ⟨u, hu, hheader, ?_⟩
  refine (sendsBack_or_withholds hu (List.cons_ne_nil _ _) (by decide +kernel) hheader (by decide)).1 ?_
  exact ⟨List.cons_ne_nil _ _, by decide, by decide, by decide +kernel, 'h', by decide, by decide⟩

/-- An address of version six: the cookie is stored for the address between brackets, and is not sent. -/
theorem not_sent_of_address6 :
    ∃ u hop, Url.parse "http://[::1]/".toList = .ok u ∧ Hop.hostnameOf u = .ok "::1".toList ∧
      u.hostHeader = .ok "[::1]".toList ∧
      (Jar.ingest {} (.still 0) "::1".toList (some u.text) ["n=v; Domain=[::1]".toList]).2.stored = 1 ∧
      Hop.build "GET".toList [] .absent {}
        (some (Jar.ingest {} (.still 0) "::1".toList (some u.text) ["n=v; Domain=[::1]".toList]).2.jar) u {} = .ok hop ∧
      hop.headers = [] := by
  let u : Url := { scheme := "http".toList, rawHost := "::1".toList, path := ['/'] }
  exact ⟨u, _, by decide +kernel, by decide +kernel, by decide +kernel, by decide +kernel, rfl, by decide +kernel⟩

end Url

end Courier
