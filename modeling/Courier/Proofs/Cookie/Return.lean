/-
  Cookies that come back to the host that set them.

  A value without a domain of its own is given one on two ways that do not agree: the host name is added to it,
  unless the text of a domain stands anywhere in it, and then the reader takes the host of the origin.  Whichever it
  is, the cookie goes with a later request exactly when that domain is found in the host name again
  (`Jar.returns_iff`).

  The crux is that a domain is in lower case whereas a host name is compared as it is, so a host name is found by
  its own domain only if it is in lower case itself (`bare_lower_infix_iff`).  For the URLs of ordinary hosts both
  ways end well, but the origin of a bare name is a local host, and the domain of that is no part of the name.

  * `Jar.FindsAgain` is the condition, one line for each of the two ways.  The other modules about cookies state
    theirs in terms of it.

  * `Jar.exists_cookie_of_origin` makes the cookie from the value: parameters that decide nothing leave version,
    expiry, path, port and switch at their defaults, so what is left to decide is the domain.

  * `Jar.returns_iff` needs nothing of the URL but that it is an origin or not.  `Jar.returns_of_url` then says for
    the URLs that are read from a text, with `http` or `https`, when the condition holds.
-/
import Courier.Proofs.Cookie.Field
import Courier.Proofs.Cookie.Jar
import Courier.Proofs.Cookie.Origin
import Courier.Request.Hop

namespace Courier

/-- A host name is found by its own domain just when it is in lower case and not made of dots and blanks alone. -/
theorem bare_lower_infix_iff {hostname : Text} :
    (bare (lower (trimBlank hostname)) ≠ [] ∧ bare (lower (trimBlank hostname)) <:+: hostname) ↔
      lower hostname = hostname ∧ bare (trimBlank hostname) ≠ [] := by
  have htrim : trimBlank hostname <:+: hostname := trim_infix isBlank hostname
  constructor
  · rintro ⟨hne, hinfix⟩
    have hlower := lower_eq_self_of_infix hinfix
    rw [lower_eq_self_of_subset htrim.subset hlower] at hne
    exact ⟨hlower, hne⟩
  · rintro ⟨hlower, hne⟩
    rw [lower_eq_self_of_subset htrim.subset hlower]
    exact ⟨hne, (List.dropWhile_suffix _).isInfix.trans htrim⟩

/-- A cookie for every path and every request goes with those for a host name that its domain is found in. -/
theorem Cookie.goesWith_iff_found {c : Cookie} {hostname path : Text} {secure : Bool} (hpath : c.pathSpecified = false)
    (hsecure : c.secure = .off) :
    c.GoesWith hostname path secure ↔ c.bareDomain ≠ [] ∧ c.bareDomain <:+: hostname := by
  refine ⟨fun h => h.domain, fun h => ⟨h, ?_, ?_⟩⟩
  · rw [hpath]
    exact nofun
  · rw [hsecure]
    exact nofun

namespace SetCookie

variable {raw hostname : Text}

/-- The domain that a host name adds to a value without one. -/
def addedDomain (hostname raw : Text) : Option Text :=
  if mentionsDomain raw then none else some (lower (trimBlank hostname))

theorem lower_addedDomain (hostname raw : Text) : ∀ d ∈ addedDomain hostname raw, lower d = d := by
  intro d hd
  rw [addedDomain] at hd
  split at hd
  · exact absurd hd (Option.not_mem_none d)
  · rw [← Option.mem_some_iff.mp hd, lower_lower]

/-- Parameters of other names leave the domain to the host name that is added. -/
theorem readAttributes_plain (now : Int) (hplain : ∀ part ∈ parameters raw, lower (readPart part).1 ∉ governingNames)
    (hmark : mentionsDomain raw = true ∨ ';' ∉ hostname) :
    ∃ a, readAttributes now (parameters (withDomain hostname raw)) = some a ∧
      a.governing = { domain := addedDomain hostname raw } := by
  obtain ⟨a, ha, hgoverning⟩ := addAll_plain hplain now {}
  have hread : readAttributes now (parameters raw) = some a := ha
  refine ⟨a.withHost hostname raw, by rw [readAttributes_withDomain hmark, hread]; rfl, ?_⟩
  rw [Attributes.governing, Attributes.governing, Attributes.mk.injEq] at hgoverning
  obtain ⟨hversion, hexpires, hage, hdomain, hpath, hport, hsecure, _⟩ := hgoverning
  rw [Attributes.withHost, Attributes.orDomain, hdomain, Attributes.governing, addedDomain]
  split
  · -- with the text of a domain, nothing is added
    rw [hversion, hexpires, hage, hdomain, hpath, hport, hsecure]
  · rw [if_neg (by decide)]
    dsimp only
    rw [hversion, hexpires, hage, hpath, hport, hsecure]

end SetCookie

namespace Jar

theorem ingest_of_read_cookie {jar : Jar} {clock : Clock} {hostname raw : Text} {url : Option Text} {c : Cookie}
    (h : SetCookie.read (clock 0) (url.getD (urlOfHost hostname)) (withDomain hostname raw) = .ok (.cookie c)) :
    jar.ingest clock hostname url [raw] = (.ok (), { jar := jar.insert c, stored := 1 }) := by
  rw [ingest, Intake.addAll, Intake.add, h]
  rfl

/-- Whether a host name is found again by the domain of a cookie that was set without one: the domain is the host name
    itself, and when the text of a domain stands somewhere in the value it is the host of the origin. -/
def FindsAgain (origin : Origin) (hostname raw : Text) : Prop :=
  if mentionsDomain raw then bare origin.domain ≠ [] ∧ bare origin.domain <:+: hostname
  else lower hostname = hostname ∧ bare (trimBlank hostname) ≠ []

/-- The host name is found by the domain that a value without one is given just when it is found again. -/
theorem found_iff_findsAgain {origin : Origin} {hostname raw : Text} :
    (bare ((SetCookie.addedDomain hostname raw).getD origin.domain) ≠ [] ∧
        bare ((SetCookie.addedDomain hostname raw).getD origin.domain) <:+: hostname) ↔
      FindsAgain origin hostname raw := by
  rw [SetCookie.addedDomain, FindsAgain]
  split
  · exact Iff.rfl
  · exact bare_lower_infix_iff

/-- A value is stored as a cookie of its name and value that goes with every request for the host name. -/
def Returns (jar : Jar) (clock : Clock) (hostname url raw : Text) : Prop :=
  ∃ c, SetCookie.read (clock 0) url (withDomain hostname raw) = .ok (.cookie c) ∧
    jar.ingest clock hostname (some url) [raw] = (.ok (), { jar := jar.insert c, stored := 1 }) ∧
    c.name = percentDecode (SetCookie.nameOf raw) ∧ c.value = some (percentDecode (SetCookie.valueOf raw)) ∧
    ∀ path secure, c ∈ (jar.insert c).select hostname path secure

variable {jar : Jar} {clock : Clock} {hostname url raw : Text}

theorem mem_select_insert {c : Cookie} {path : Text} {secure : Bool} :
    c ∈ (jar.insert c).select hostname path secure ↔ c.GoesWith hostname path secure := by
  rw [select, List.mem_filter, Cookie.goesWith_iff]
  exact and_iff_right (jar.mem_insert_self c)

/-- From an origin, a value without a domain of its own makes a cookie that goes with every request if the host name is
    found again, and with none otherwise. -/
theorem exists_cookie_of_origin (now : Int) {origin : Origin} (horigin : Origin.read url = .ok origin)
    (hpair : SetCookie.hasPair raw = true)
    (hplain : ∀ part ∈ SetCookie.parameters raw, lower (SetCookie.readPart part).1 ∉ SetCookie.governingNames)
    (hmark : mentionsDomain raw = true ∨ ';' ∉ hostname) :
    ∃ c, SetCookie.read now url (withDomain hostname raw) = .ok (.cookie c) ∧
      c.name = percentDecode (SetCookie.nameOf raw) ∧ c.value = some (percentDecode (SetCookie.valueOf raw)) ∧
      ∀ path secure, c.GoesWith hostname path secure ↔ FindsAgain origin hostname raw := by
  obtain ⟨a, ha, hgoverning⟩ := SetCookie.readAttributes_plain now hplain hmark
  obtain ⟨c, hc, hname, hvalue, hdomain, hpath, hsecure⟩ := SetCookie.read_of_governing
    (by rw [hasPair_withDomain, hpair]) horigin ha hgoverning (SetCookie.lower_addedDomain hostname raw)
  rw [SetCookie.nameOf_withDomain] at hname
  rw [SetCookie.valueOf_withDomain] at hvalue
  refine ⟨c, hc, hname, hvalue, fun path secure => ?_⟩
  rw [Cookie.goesWith_iff_found hpath hsecure, hdomain, found_iff_findsAgain]

/-- **A cookie without a domain of its own** is stored if its URL is an origin, and comes back if the host name is found
    again. -/
theorem returns_iff (hpair : SetCookie.hasPair raw = true)
    (hplain : ∀ part ∈ SetCookie.parameters raw, lower (SetCookie.readPart part).1 ∉ SetCookie.governingNames)
    (hmark : mentionsDomain raw = true ∨ ';' ∉ hostname) :
    Returns jar clock hostname url raw ↔ ∃ origin, Origin.read url = .ok origin ∧ FindsAgain origin hostname raw := by
  constructor
  · -- what comes back was stored, so the URL is an origin, and it came back to any path
    rintro ⟨c, hread, _, _, _, hback⟩
    obtain ⟨_, origin, horigin⟩ := SetCookie.of_read hread
    obtain ⟨c', hread', _, _, hgoes⟩ := exists_cookie_of_origin (clock 0) horigin hpair hplain hmark
    obtain rfl := SetCookie.Reading.cookie.inj (Except.ok.inj (hread.symm.trans hread'))
    exact ⟨origin, horigin, (hgoes [] false).mp (mem_select_insert.mp (hback [] false))⟩
  · rintro ⟨origin, horigin, hfinds⟩
    obtain ⟨c, hread, hname, hvalue, hgoes⟩ := exists_cookie_of_origin (clock 0) horigin hpair hplain hmark
    refine ⟨c, hread, ingest_of_read_cookie hread, hname, hvalue, ?_⟩
    intro path secure
    exact mem_select_insert.mpr ((hgoes path secure).mpr hfinds)

end Jar

/-! ## URLs

  The question is brought back to how the URL is written: what stands next to the host in its text is what decides. -/

namespace Url

variable {u : Url} {hostname : Text}

/-- A URL whose origin has the host name as its domain: a name of several parts that needs no decoding, next to which
    nothing but a port stands. -/
structure HasDottedName (u : Url) : Prop where
  dot : '.' ∈ u.rawHost
  mark : ¬ Idna.asciiMark <+: u.rawHost
  userinfo : u.userinfo = []
  port : ∀ p ∈ u.port, 0 ≤ p

/-- A host that is not written in the ASCII form of an international name is a host name as it is. -/
theorem hostname_eq (hhost : u.rawHost ≠ []) (hmark : ¬ Idna.asciiMark <+: u.rawHost)
    (h : Hop.hostnameOf u = .ok hostname) : hostname = u.rawHost := by
  rw [Hop.hostnameOf, Url.host, if_neg (mt List.isPrefixOf_iff_prefix.mp hmark)] at h
  cases hraw : u.rawHost with
  | nil => exact absurd hraw hhost
  | cons c rest =>
    rw [hraw] at h
    exact (Except.ok.inj h).symm

/-- A URL that is read from a text, with a scheme and a host that is no address of version six, can be read as an
    origin. -/
theorem plain_of_parse {s : Text} (hu : Url.parse s = .ok u) (hscheme : u.scheme ≠ []) (hhost : u.rawHost ≠ [])
    (hcolon : ':' ∉ u.rawHost) : u.Plain :=
  ⟨canonical_of_parse hu, hscheme, hhost, isHostChar_of_notMem (canonical_of_parse hu) hcolon⟩

theorem HasDottedName.domain_eq (h : u.HasDottedName) (hcolon : ':' ∉ u.rawHost) {origin : Origin}
    (horigin : origin.host = lower (Origin.dropPort u.authority)) (hlower : lower u.rawHost = u.rawHost) :
    origin.domain = u.rawHost := by
  rw [Origin.dropPort_authority hcolon h.userinfo h.port, hlower] at horigin
  rw [Origin.domain, horigin, List.contains_iff_mem.mpr h.dot]
  exact if_neg Bool.false_ne_true

end Url

namespace Jar

variable {jar : Jar} {clock : Clock} {s : Text} {u : Url} {hostname raw : Text}

/-- **A cookie that a URL sets without a domain** is stored and comes back exactly when the URL is an origin and its
    host name is found again.  It is if the host is no address of version six and its name is in lower case and not of
    full stops alone, for every value without the text of a domain, and also for one with it if the name is a dotted
    one with nothing but a port next to it.

    The host name is written behind the value as its domain (`withDomain`), so a semicolon in it would end that
    parameter: hosts with a semicolon are left out, unless the value holds the text of a domain and gets none. -/
theorem returns_of_url (hu : Url.parse s = .ok u) (hscheme : u.scheme = "http".toList ∨ u.scheme = "https".toList)
    (hhost : u.rawHost ≠ []) (hname : Hop.hostnameOf u = .ok hostname) (hpair : SetCookie.hasPair raw = true)
    (hplain : ∀ part ∈ SetCookie.parameters raw, lower (SetCookie.readPart part).1 ∉ SetCookie.governingNames)
    (hmark : mentionsDomain raw = true ∨ ';' ∉ hostname) :
    (Returns jar clock hostname u.text raw ↔
      ∃ origin, Origin.read u.text = .ok origin ∧ FindsAgain origin hostname raw) ∧
    (':' ∉ u.rawHost → lower hostname = hostname → bare (trimBlank hostname) ≠ [] →
      (mentionsDomain raw = true → u.HasDottedName) → Returns jar clock hostname u.text raw) := by
  refine ⟨returns_iff hpair hplain hmark, fun hcolon hlower hne hdotted => ?_⟩
  have hscheme : u.scheme ≠ [] := by
    rcases hscheme with hscheme | hscheme
    all_goals
      rw [hscheme]
      exact List.cons_ne_nil _ _
  obtain ⟨origin, horigin, hoff⟩ := Origin.read_text (Url.plain_of_parse hu hscheme hhost hcolon)
  refine (returns_iff hpair hplain hmark).mpr ⟨origin, horigin, ?_⟩
  rw [FindsAgain]
  split
  · rename_i hmention
    have hdotted := hdotted hmention
    obtain rfl := Url.hostname_eq hhost hdotted.mark hname
    rw [hdotted.domain_eq hcolon hoff hlower]
    refine ⟨fun hempty => hne ?_, (List.dropWhile_suffix _).isInfix⟩
    -- what is left between the blanks is of full stops as well
    rw [bare, trimLeft, List.dropWhile_eq_nil_iff] at hempty ⊢
    exact fun c hc => hempty c (mem_of_mem_trim hc)
  · exact ⟨hlower, hne⟩

/-- The text of a domain in the value and a port next to the name. -/
theorem returns_to_dotted_name :
    ∃ u, Url.parse "http://h.com:8080/p".toList = .ok u ∧ Hop.hostnameOf u = .ok "h.com".toList ∧
      Returns {} (.still 0) "h.com".toList u.text "n=domain=x; HttpOnly".toList := by
  let u : Url := { scheme := "http".toList, rawHost := "h.com".toList, port := some 8080, path := "/p".toList }
  have hu : Url.parse "http://h.com:8080/p".toList = .ok u := by decide +kernel
  have hname : Hop.hostnameOf u = .ok "h.com".toList := by decide +kernel
  refine ⟨u, hu, hname, ?_⟩
  refine (returns_of_url hu (Or.inl rfl) (List.cons_ne_nil _ _) hname (by decide +kernel) (by decide +kernel)
    (Or.inr (by decide))).2 (by decide) (by decide +kernel) (by decide +kernel) fun _ => ?_
  exact ⟨by decide, by decide, rfl, by decide⟩

/-- The text of a domain in the value and a bare name: the cookie is stored for a local host, and does not come back. -/
theorem unreturned_of_bare_name :
    let host : Text := "localhost".toList
    let raw : Text := "n=domain=x".toList
    ∃ u, Url.parse "http://localhost/".toList = .ok u ∧ Hop.hostnameOf u = .ok host ∧
      SetCookie.hasPair raw = true ∧ SetCookie.parameters raw = [] ∧
      (ingest {} (.still 0) host (some u.text) [raw]).2.stored = 1 ∧
      (ingest {} (.still 0) host (some u.text) [raw]).2.jar.fieldsFor host ['/'] false = [] := by
  intro host raw
  let u : Url := { scheme := "http".toList, rawHost := "localhost".toList, path := ['/'] }
  exact ⟨u, by decide +kernel, by decide +kernel, by decide +kernel, by decide +kernel, by decide +kernel,
    by decide +kernel⟩

end Jar

end Courier
