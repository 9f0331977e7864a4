/-
  Secure cookies on a journey.

  A hop carries the cookies of the jar that match its own scheme, so what keeps a secure cookie out of the jar's
  answer to a request in clear keeps it off every hop in clear: of the journey that it was set on, and of every
  later one, from whatever jar that begins with, as long as no head on the way stores a cookie under its key
  (`Jar.spared_afterHeads`).

  `Jar.Spared` is what comes after a jar until then: the jars in which nothing has been stored under the key since.
  A head that stores nothing under the key keeps that, and so do the heads of a journey one after another.
  `cookies_of_reaches` says what a hop carries, also the first one, which takes its cookies from the jar that the
  journey begins with.

  `Cookie.Withheld` states both halves, for requests of the caller's own and for the hops of journeys, and
  `declared_secure` says of which cookies it holds.  A value may declare its cookie secure in many spellings, and
  whether the cookie is kept from requests in clear is decided by the first parameter that does
  (`SetCookie.secureValue?`): with an equals sign and nothing behind it the cookie is stored with an empty mark,
  which counts as none.  So the theorem has two parts, and the second shows that such a cookie goes with requests in
  clear.
-/
import Courier.Proofs.Cookie.Secure
import Courier.Proofs.Journey.Cookies

namespace Courier

/-- No head of an answer stores a cookie under a key. -/
def HeadsSpare (key : Cookie.Key) (clocks : Journey.Clocks) (heads : List (Hop × Response)) : Prop :=
  ∀ i x, heads[i]? = some x →
    Jar.SparesAll key (clocks i) x.1.hostname x.1.url.text (Header.valuesOf x.2.headers setCookieName)

theorem Jar.spared_afterHeads {key : Cookie.Key} {jar jar' : Jar} {clocks : Journey.Clocks}
    {heads : List (Hop × Response)} (h : Spared key jar jar') (hheads : HeadsSpare key clocks heads) :
    Spared key jar (jar'.afterHeads clocks heads) := by
  induction heads generalizing jar' clocks with
  | nil => exact h
  | cons x rest ih =>
    have hfirst := h.ingest (clocks 0) x.1.hostname (some x.1.url.text) _ (hheads 0 x rfl)
    exact ih hfirst fun i y hi => hheads (i + 1) y hi

namespace Journey

variable {d : Dispatcher} {clocks : Clocks} {network : Network} {method : Text} {headers : List Header} {query : Query}
  {timeouts : Timeouts} {jar : Jar} {url : Url} {body : Body} {hop : Hop} {budget : Int} {k : Nat} {j' : Journey}
  {leg' : Leg} {heads : List (Hop × Response)}

/-- The cookies of every hop of a journey, also of the first: the caller's own, and those that match its own host, path
    and scheme in the jar that has taken in the heads before it. -/
theorem cookies_of_reaches (hbuild : Hop.build method headers query timeouts (some jar) url body = .ok hop)
    (hreach : Reaches d clocks { network, jar := some jar } { hop, method, body, budget } k j' leg')
    (hheads : Heads d clocks { network, jar := some jar } { hop, method, body, budget } k heads) :
    (leg'.hop.headFields.filter fun f => f.hasName cookieName) =
      (leg'.hop.callerHeaders.filter fun f => f.hasName cookieName) ++
        (jar.afterHeads clocks heads).fieldsFor leg'.hop.hostname leg'.hop.url.requestPath leg'.hop.url.isSecure := by
  cases k with
  | zero =>
    obtain rfl := heads_zero.unique hheads
    cases hreach
    have hbuilt := Hop.built_of_build hbuild
    have hcookies := hbuilt.asks.cookies
    rw [hbuilt.callerHeaders, hbuilt.url]
    exact hcookies
  | succ k =>
    obtain ⟨heads', hheads', _, hjar⟩ := jar_of_reaches rfl hreach
    obtain ⟨_, _, _, _, _, _, _, _, hasks⟩ := asks_of_reaches hreach
    rw [hheads'.unique hheads] at hjar
    rw [hjar] at hasks
    exact hasks.cookies

end Journey

/-- A cookie that never travels in clear: from a jar on, until a cookie is stored under its key again, no request in
    clear takes a cookie of that key, and no hop in clear of any journey carries one. -/
structure Cookie.Withheld (c : Cookie) (stored : Jar) : Prop where
  matched : ∀ jar, Jar.Spared c.key stored jar → ∀ hostname path, ∀ e ∈ jar.select hostname path false, e.key ≠ c.key
  /-- what a hop carries are the caller's own cookies and those of the jar, none of which has the key -/
  carried : ∀ jar, Jar.Spared c.key stored jar →
    ∀ (d : Dispatcher) (clocks : Journey.Clocks) (network : Network) (method : Text) (headers : List Header)
      (query : Query) (timeouts : Timeouts) (url : Url) (body : Body) (budget : Int) (hop : Hop),
      Hop.build method headers query timeouts (some jar) url body = .ok hop →
        ∀ k j leg heads, Journey.Reaches d clocks { network, jar := some jar } { hop, method, body, budget } k j leg →
          Journey.Heads d clocks { network, jar := some jar } { hop, method, body, budget } k heads →
          HeadsSpare c.key clocks heads → leg.hop.url.scheme ≠ "https".toList →
            ∃ sent, (leg.hop.headFields.filter fun f => f.hasName cookieName) =
                (leg.hop.callerHeaders.filter fun f => f.hasName cookieName) ++ sent.map Cookie.field ∧
              sent = (jar.afterHeads clocks heads).select leg.hop.hostname leg.hop.url.requestPath false ∧
              ∀ e ∈ sent, e.key ≠ c.key

namespace Jar

variable {jar stored : Jar} {now : Int} {hostname raw : Text} {url : Option Text} {c : Cookie}

/-- A cookie with a mark is withheld when the jar holds no other under its key. -/
theorem withheld_of_isSet (hstored : stored.WellKeyed) (honly : ∀ e ∈ stored.toList, e.key = c.key → e = c)
    (hsecure : c.secure.isSet = true) : c.Withheld stored := by
  constructor
  · intro jar hspared hostname path
    exact ne_of_mem_select hstored honly hsecure hspared hostname path
  · intro jar hspared d clocks network method headers query timeouts url body budget hop hbuild k j leg heads hreach
      hheads hspare hscheme
    have hclear : leg.hop.url.isSecure = false := beq_eq_false_iff_ne.mpr hscheme
    refine ⟨_, ?_, rfl, ne_of_mem_select hstored honly hsecure (spared_afterHeads hspared hspare) _ _⟩
    rw [Journey.cookies_of_reaches hbuild hreach hheads, hclear, fieldsFor_eq]

/-- **A cookie that is declared secure never travels in clear**, unless the first parameter that declares it so has an
    equals sign with nothing behind it: such a cookie goes with requests in clear as with any others. -/
theorem declared_secure (hjar : jar.Reachable)
    (hread : SetCookie.read now (url.getD (urlOfHost hostname)) (withDomain hostname raw) = .ok (.cookie c))
    (hdeclared : (SetCookie.parameters raw).any SetCookie.isSecure = true) :
    (SetCookie.secureValue? (SetCookie.parameters raw) ≠ some (some []) →
      ∀ (clock : Clock) before after, clock before.length = now →
        SparesAll c.key (clock.after (before.length + 1)) hostname (url.getD (urlOfHost hostname)) after →
          c.Withheld (jar.ingest clock hostname url (before ++ raw :: after)).2.jar) ∧
    (SetCookie.secureValue? (SetCookie.parameters raw) = some (some []) →
      ∀ clock : Clock, clock 0 = now → ∀ host path secure,
        c ∈ (jar.ingest clock hostname url [raw]).2.jar.select host path secure ↔
        (c.bareDomain ≠ [] ∧ c.bareDomain <:+: host) ∧ (c.pathSpecified = true → c.path <+: path)) := by
  -- both parts turn on whether the stored cookie has its mark
  have hisSet := SetCookie.isSet_iff hread hdeclared
  have hkeyed := wellKeyed_of_reachable hjar
  constructor
  · intro hvalue clock before after hclock hafter
    refine withheld_of_isSet (wellKeyed_of_addAll hkeyed _) ?_ (hisSet.mpr hvalue)
    exact eq_of_addAll hkeyed before (hclock ▸ hread) hafter
  · intro hvalue clock hclock host path secure
    have hclear : ¬ c.secure.isSet = true := fun hsecure => hisSet.mp hsecure hvalue
    have hstored : (jar.ingest clock hostname url [raw]).2.jar = jar.insert c := by
      rw [ingest, Intake.addAll, Intake.add, hclock, hread]
      rfl
    rw [hstored, select, List.mem_filter, Cookie.goesWith_iff, and_iff_right (jar.mem_insert_self c)]
    exact ⟨fun h => ⟨h.domain, h.path⟩, fun h => ⟨h.1, h.2, fun hsecure => absurd hsecure hclear⟩⟩

/-- The switch is written in capitals and with a value, and a value for another path comes behind it. -/
theorem declared_secure_in_capitals :
    ∃ c, SetCookie.read 0 "https://h.com/".toList (withDomain "h.com".toList "n=v; SECURE=no".toList) = .ok (.cookie c) ∧
      (SetCookie.parameters "n=v; SECURE=no".toList).any SetCookie.isSecure = true ∧
      c.Withheld (ingest {} (.still 0) "h.com".toList (some "https://h.com/".toList)
        ["a=b".toList, "n=v; SECURE=no".toList, "n=w; Path=/p".toList]).2.jar := by
  let c : Cookie :=
    { name := "n".toList, value := some "v".toList, domain := ".h.com".toList, domainSpecified := true
      domainInitialDot := false, path := ['/'], pathSpecified := false, secure := .value "no".toList }
  let other : Cookie :=
    { name := "n".toList, value := some "w".toList, domain := ".h.com".toList, domainSpecified := true
      domainInitialDot := false, path := "/p".toList, pathSpecified := true }
  have hread : SetCookie.read 0 ((some "https://h.com/".toList).getD (urlOfHost "h.com".toList))
      (withDomain "h.com".toList "n=v; SECURE=no".toList) = .ok (.cookie c) := by decide +kernel
  have hother : SetCookie.read 0 ((some "https://h.com/".toList).getD (urlOfHost "h.com".toList))
      (withDomain "h.com".toList "n=w; Path=/p".toList) = .ok (.cookie other) := by decide +kernel
  have hdeclared : (SetCookie.parameters "n=v; SECURE=no".toList).any SetCookie.isSecure = true := by decide +kernel
  have hvalue : SetCookie.secureValue? (SetCookie.parameters "n=v; SECURE=no".toList) ≠ some (some []) := by
    decide +kernel
  have hspares : Spares c.key 0 "h.com".toList ((some "https://h.com/".toList).getD (urlOfHost "h.com".toList))
      "n=w; Path=/p".toList := by
    intro c' hc'
    rw [hother] at hc'
    obtain rfl := SetCookie.Reading.cookie.inj (Except.ok.inj hc')
    decide
  refine ⟨c, hread, hdeclared, ?_⟩
  refine (declared_secure .empty hread hdeclared).1 hvalue (.still 0) ["a=b".toList] ["n=w; Path=/p".toList] rfl ?_
  exact sparesAll_cons.mpr ⟨hspares, fun i raw' hi => absurd hi (by simp)⟩

/-- An equals sign and no value: the cookie is declared secure, and goes with a request in clear. -/
theorem sent_in_clear_of_empty_value :
    let host : Text := "h.com".toList
    let raw : Text := "n=v; Secure=".toList
    (SetCookie.parameters raw).any SetCookie.isSecure = true ∧
      (ingest {} (.still 0) host (some "http://h.com/".toList) [raw]).2.stored = 1 ∧
      (ingest {} (.still 0) host (some "http://h.com/".toList) [raw]).2.jar.fieldsFor host ['/'] false =
        [⟨"Cookie".toList, "n=v".toList⟩] := by
  intro host raw
  exact ⟨by decide +kernel, by decide +kernel, by decide +kernel⟩

end Jar

end Courier
