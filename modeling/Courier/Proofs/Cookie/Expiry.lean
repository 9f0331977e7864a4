/-
  What an expired value removes.

  A value is stored under its name decoded, and removed under its name as it is written.  Apart from the name the two
  keys coincide (`SetCookie.key_of_lasting`): domain and path come from the same attributes and the same origin, and
  expiry decides neither.  So an expired value removes the counterpart of the same value without expiry when its name
  decodes to itself, and otherwise it removes what is stored under the name as written, if anything is.

  The plan is to follow the attributes.  Of a value that is read, `made_of_read` gives the attributes and the origin
  that it is made from, and `make_cases` what is made of them.  Two values that differ in their expiry alone have the
  same `lasting` attributes (`lasting_eq_of_withoutExpiry`), because expiry is one field of them and every other
  parameter is added as if it were not there; and the same lasting attributes give the same domain and path.  What is
  left is `unquote`, which runs on the one way and not on the other.

  The crux is what "the same value" may mean.  The host name is put behind a value that does not hold the text
  `domain=`, wherever in the value that may be: also in a date, which is dropped with the expiry.  So the two values have
  to agree on that text (`mentionsDomain`) as well.  Both conditions are needed, and there is an example for each at the
  end: `kept_of_escaped_name` and `kept_of_mentioned_domain`.
-/
import Courier.Proofs.Cookie.Jar
import Courier.Proofs.Cookie.Origin
import Courier.Proofs.Cookie.Value

namespace Courier

namespace SetCookie

variable {now now' : Int} {origin : Origin} {name value value' url hostname raw raw' : Text} {a a' : Attributes}
  {key : Cookie.Key} {c : Cookie}

/-- **The keys of storing and of removing** differ in the name alone: it is decoded for the one, and not for the
    other. -/
theorem key_of_lasting (hexpired : make now origin name value a = some (.expired key))
    (hcookie : make now' origin name value' a' = some (.cookie c)) (hsame : a.lasting = a'.lasting)
    (hdomain : ∀ d ∈ a.domain, lower d = d) (horigin : lower origin.domain = origin.domain) :
    c.key = { key with name := percentDecode key.name } := by
  obtain ⟨version, _, hversion, _, hkey⟩ := make_cases hexpired
  obtain ⟨version', _, hversion', _, hc⟩ := make_cases hcookie
  obtain ⟨_, hkey⟩ := hkey.resolve_right (by rintro ⟨_, _, h, _⟩; exact nomatch h)
  obtain ⟨_, c', hc', hname, _, hcdomain, hcpath, _⟩ := hc.resolve_left (by rintro ⟨_, h⟩; exact nomatch h)
  obtain rfl := Reading.expired.inj hkey
  obtain rfl := Reading.cookie.inj hc'
  -- version, domain and path are the same with and without expiry
  rw [Attributes.lasting, Attributes.lasting, Attributes.mk.injEq] at hsame
  obtain ⟨hv, _, _, hd, hp, _⟩ := hsame
  rw [← hv, hversion, Option.some.injEq] at hversion'
  have hlower : lower (domainOf a origin) = domainOf a origin := by
    rw [domainOf]
    split
    · exact horigin
    · rename_i d hd
      split
      · exact hdomain d hd
      · exact lower_append_eq_self (s := ['.']) (by decide) (hdomain d hd)
  rw [Cookie.key, Cookie.Key.mk.injEq]
  refine ⟨?_, ?_, hname⟩
  · rw [hcdomain, ← hlower, domainOf, domainOf, hd]
  · have hpath := congrArg Prod.fst hcpath
    rw [← hversion', pathOf, ← hp] at hpath
    exact hpath

/-! ## With and without expiry

  A value and the same value without its parameters of expiry are read into attributes that differ in the expiry
  alone.  So the value that sets a cookie and the value that is to remove it agree in domain and path, and may
  differ in what becomes of the name and in whether the host name is put behind them. -/

theorem name_of_read_expired (h : read now url (withDomain hostname raw) = .ok (.expired key)) :
    key.name = nameOf raw := by
  obtain ⟨_, _, _, _, _, hmake⟩ := made_of_read h nofun
  rw [nameOf_withDomain] at hmake
  obtain ⟨_, _, _, _, ⟨_, hkey⟩ | ⟨_, _, hcookie, _⟩⟩ := make_cases hmake
  · rw [Reading.expired.inj hkey]
  · exact nomatch hcookie

/-- Values that differ in their expiry are read into attributes that differ in it. -/
theorem lasting_eq_of_withoutExpiry (hvalues : withoutExpiry raw = withoutExpiry raw')
    (hmention : mentionsDomain raw = mentionsDomain raw')
    (ha : readAttributes now (parameters (withDomain hostname raw)) = some a)
    (ha' : readAttributes now' (parameters (withDomain hostname raw')) = some a') : a.lasting = a'.lasting := by
  have hparts : ((parameters (withDomain hostname raw)).filter fun part => !isExpiry part) =
      (parameters (withDomain hostname raw')).filter fun part => !isExpiry part := by
    rw [parameters_withDomain, parameters_withDomain, List.filter_append, List.filter_append,
      ← parameters_withoutExpiry, ← parameters_withoutExpiry, hvalues, domainParameters, domainParameters, hmention]
  have hfirst : addAll now {} ((parameters (withDomain hostname raw)).filter fun part => !isExpiry part) =
      some a.lasting := addAll_lasting ha
  have hsecond : addAll now {} ((parameters (withDomain hostname raw')).filter fun part => !isExpiry part) =
      some a'.lasting := addAll_lasting ha'
  rw [hparts, hsecond] at hfirst
  exact (Option.some.inj hfirst).symm

/-- **The keys of a value and of the same value expired.** -/
theorem key_of_read (hexpired : read now url (withDomain hostname raw) = .ok (.expired key))
    (hcookie : read now' url (withDomain hostname raw') = .ok (.cookie c))
    (hvalues : withoutExpiry raw = withoutExpiry raw') (hmention : mentionsDomain raw = mentionsDomain raw') :
    c.key = { key with name := percentDecode key.name } := by
  obtain ⟨_, origin, a, horigin, ha, hmake⟩ := made_of_read hexpired nofun
  obtain ⟨_, origin', a', horigin', ha', hmake'⟩ := made_of_read hcookie nofun
  obtain rfl := Except.ok.inj (horigin.symm.trans horigin')
  have hname : nameOf raw' = nameOf raw := by
    rw [nameOf, nameOf, ← beforeMark_withoutExpiry, ← hvalues, beforeMark_withoutExpiry]
  rw [nameOf_withDomain] at hmake hmake'
  rw [hname] at hmake'
  have hlower : ∀ d ∈ a.domain, lower d = d :=
    lower_domain_of_addAll (a := {}) (fun d hd => absurd hd (Option.not_mem_none d)) ha
  exact key_of_lasting hmake hmake' (lasting_eq_of_withoutExpiry hvalues hmention ha ha') hlower
    (Origin.lower_domain_of_read horigin)

/-- An expired value would be stored without its expiry. -/
theorem exists_cookie_of_expired (hexpired : read now url (withDomain hostname raw) = .ok (.expired key))
    (hhost : ';' ∉ hostname) : ∃ c, read now url (withDomain hostname (withoutExpiry raw)) = .ok (.cookie c) := by
  obtain ⟨hpair, origin, a, horigin, ha, hmake⟩ := made_of_read hexpired nofun
  obtain ⟨version, port, hversion, hport, _⟩ := make_cases hmake
  rw [readAttributes_withDomain (Or.inr hhost)] at ha
  obtain ⟨m, hm, rfl⟩ := Option.map_eq_some_iff.mp ha
  have hlasting : readAttributes now (parameters (withDomain hostname (withoutExpiry raw))) =
      some (m.lasting.withHost hostname (withoutExpiry raw)) := by
    rw [readAttributes_withDomain (Or.inr hhost), parameters_withoutExpiry, readAttributes_eq]
    exact congrArg (Option.map (·.withHost hostname (withoutExpiry raw))) (addAll_lasting hm)
  have hpair' : hasPair (withDomain hostname (withoutExpiry raw)) = true := by
    rw [hasPair_withDomain] at hpair ⊢
    rwa [hasPair, beforeMark_withoutExpiry]
  rw [Attributes.withHost_version] at hversion
  rw [portOf?, Attributes.withHost_port] at hport
  have hport' : portOf? (m.lasting.withHost hostname (withoutExpiry raw)) origin = some port := by
    rw [portOf?, Attributes.withHost_port]
    exact hport
  obtain ⟨c, hc⟩ := exists_make (a := m.lasting.withHost hostname (withoutExpiry raw))
    (by rw [Attributes.withHost_version]; exact hversion) hport' (by rw [Attributes.withHost_expires]; rfl) _ _
  exact ⟨c, read_of_make hpair' horigin hlasting hc⟩

/-- A parameter that is expired at any time. -/
def expiredNow : Text := " Max-Age=0".toList

theorem addAll_expiredNow (now : Int) (a : Attributes) :
    addAll now a [expiredNow] = some { a with expires := some (now + 0), hasMaxAge := true } := rfl

/-- **A value that is repeated with an age of zero** is read as the removal of the cookie that it set, under its name as
    it is written. -/
theorem read_repeated (hcookie : read now url (withDomain hostname raw) = .ok (.cookie c)) (hhost : ';' ∉ hostname) :
    read now url (withDomain hostname (raw ++ ';' :: expiredNow)) = .ok (.expired { c.key with name := nameOf raw }) := by
  obtain ⟨hpair, origin, a, horigin, ha, hmake⟩ := made_of_read hcookie nofun
  obtain ⟨version, port, hversion, hport, _⟩ := make_cases hmake
  rw [readAttributes_withDomain (Or.inr hhost)] at ha
  obtain ⟨m, hm, rfl⟩ := Option.map_eq_some_iff.mp ha
  have hmention : mentionsDomain (raw ++ ';' :: expiredNow) = mentionsDomain raw := by
    have hfree : hasInfix "domain=".toList (expiredNow.map Char.toLower) = false := by decide
    rw [mentionsDomain_append (List.all_eq_true.mp (by decide)), hfree, Bool.or_false]
  -- the attributes of the repeated value are those of the first one with an age of zero
  have hread : readAttributes now (parameters (withDomain hostname (raw ++ ';' :: expiredNow))) =
      some (Attributes.withHost { m with expires := some (now + 0), hasMaxAge := true } hostname raw) := by
    rw [readAttributes_withDomain (Or.inr hhost), parameters_append, List.splitOn_eq_singleton (by decide),
      readAttributes_eq, addAll_append, ← readAttributes_eq, hm, Option.bind_some, addAll_expiredNow, Option.map_some, Attributes.withHost,
      hmention, Attributes.withHost]
  have hpair' : hasPair (withDomain hostname (raw ++ ';' :: expiredNow)) = true := by
    rw [hasPair_withDomain] at hpair ⊢
    rwa [hasPair, beforeMark_append]
  rw [Attributes.withHost_version] at hversion
  rw [portOf?, Attributes.withHost_port] at hport
  have hport' : portOf? (Attributes.withHost { m with expires := some (now + 0), hasMaxAge := true } hostname raw)
      origin = some port := by
    rw [portOf?, Attributes.withHost_port]
    exact hport
  obtain ⟨key, hexpired⟩ : ∃ key, read now url (withDomain hostname (raw ++ ';' :: expiredNow)) = .ok (.expired key) :=
    ⟨_, read_of_make hpair' horigin hread (make_expired (by rw [Attributes.withHost_version]; exact hversion) hport'
      (by rw [Attributes.withHost_expires]; simp) _ _)⟩
  have hname := name_of_read_expired hexpired
  have hkey := key_of_read hexpired hcookie (withoutExpiry_append (by decide) (by decide)) hmention
  rw [nameOf, beforeMark_append, ← nameOf] at hname
  rw [hexpired, hkey, ← hname]

end SetCookie

namespace Jar

variable {jar : Jar}

theorem ingest_of_read_expired {clock : Clock} {hostname raw : Text} {url : Option Text} {key : Cookie.Key}
    (h : SetCookie.read (clock 0) (url.getD (urlOfHost hostname)) (withDomain hostname raw) = .ok (.expired key)) :
    ∃ log, jar.ingest clock hostname url [raw] = (.ok (), { jar := jar.erase key, stored := 0, log }) := by
  rw [ingest, Intake.addAll, Intake.add, h]
  exact ⟨_, rfl⟩

/-- The cookie under a key is gone, and all others are as they were. -/
def Removes (jar after : Jar) (key : Cookie.Key) : Prop :=
  after.toList = jar.toList.filter fun d => decide (d.key ≠ key)

/-- What removes one key removes another only when the two are the same, or when there is nothing to remove. -/
theorem Removes.iff {after : Jar} {key key' : Cookie.Key} (h : Removes jar after key) :
    Removes jar after key' ↔ key' = key ∨ ∀ d ∈ jar.toList, d.key ≠ key ∧ d.key ≠ key' := by
  rw [Removes, h]
  constructor
  · intro hsame
    by_cases hkey : key' = key
    · exact Or.inl hkey
    · refine Or.inr fun d hd => ⟨fun hdkey => ?_, fun hdkey => ?_⟩
      · -- it is dropped on the left and kept on the right
        have hmem : d ∈ jar.toList.filter fun d => decide (d.key ≠ key') :=
          List.mem_filter.mpr ⟨hd, decide_eq_true fun h => hkey (h.symm.trans hdkey)⟩
        rw [← hsame] at hmem
        exact of_decide_eq_true (List.mem_filter.mp hmem).2 hdkey
      · have hmem : d ∈ jar.toList.filter fun d => decide (d.key ≠ key) :=
          List.mem_filter.mpr ⟨hd, decide_eq_true fun h => hkey (hdkey.symm.trans h)⟩
        rw [hsame] at hmem
        exact of_decide_eq_true (List.mem_filter.mp hmem).2 hdkey
  · rintro (rfl | hnone)
    · rfl
    · refine List.filter_congr fun d hd => ?_
      rw [decide_eq_true (hnone d hd).1, decide_eq_true (hnone d hd).2]

/-- **An expired value removes the cookie under its own domain, path and name, and nothing else.**  The name is the
    one that is written.  A value that is the same but for its expiry, and holds the text `domain=` when this one does,
    is stored under the name that it decodes to: of two such values the one removes what the other stored just when
    the name decodes to itself, or there is nothing to remove.  To repeat a value with an age of zero is one way to write
    it expired. -/
theorem ingest_expired (hjar : jar.Reachable) (clock : Clock) (hostname : Text) (url : Option Text) :
    (∀ raw key,
      SetCookie.read (clock 0) (url.getD (urlOfHost hostname)) (withDomain hostname raw) = .ok (.expired key) →
      ∃ after log, jar.ingest clock hostname url [raw] = (.ok (), { jar := after, stored := 0, log }) ∧
        Removes jar after key ∧ key.name = SetCookie.nameOf raw ∧
        (';' ∉ hostname → ∃ c, SetCookie.read (clock 0) (url.getD (urlOfHost hostname))
          (withDomain hostname (SetCookie.withoutExpiry raw)) = .ok (.cookie c)) ∧
        ∀ raw', SetCookie.withoutExpiry raw = SetCookie.withoutExpiry raw' → mentionsDomain raw = mentionsDomain raw' →
          ∀ now' c, SetCookie.read now' (url.getD (urlOfHost hostname)) (withDomain hostname raw') = .ok (.cookie c) →
            c.key = { key with name := percentDecode key.name } ∧
            (Removes jar after c.key ↔
              percentDecode key.name = key.name ∨ ∀ d ∈ jar.toList, d.key ≠ key ∧ d.key ≠ c.key)) ∧
    ∀ raw now c, ';' ∉ hostname →
      SetCookie.read now (url.getD (urlOfHost hostname)) (withDomain hostname raw) = .ok (.cookie c) →
        SetCookie.read now (url.getD (urlOfHost hostname)) (withDomain hostname (raw ++ ';' :: SetCookie.expiredNow)) =
          .ok (.expired { c.key with name := SetCookie.nameOf raw }) := by
  refine ⟨fun raw key hexpired => ?_, fun raw now c hhost hcookie => SetCookie.read_repeated hcookie hhost⟩
  obtain ⟨log, hingest⟩ := jar.ingest_of_read_expired hexpired
  have hremoves : Removes jar (jar.erase key) key := (wellKeyed_of_reachable hjar).toList_erase key
  refine ⟨jar.erase key, log, hingest, hremoves, SetCookie.name_of_read_expired hexpired,
    SetCookie.exists_cookie_of_expired hexpired, ?_⟩
  intro raw' hvalues hmention now' c hcookie
  have hkey := SetCookie.key_of_read hexpired hcookie hvalues hmention
  refine ⟨hkey, ?_⟩
  rw [hremoves.iff]
  refine or_congr_left ?_
  rw [hkey, Cookie.Key.mk.injEq]
  exact ⟨fun hsame => hsame.2.2, fun hsame => ⟨rfl, rfl, hsame⟩⟩

/-- A name without an escape: the value that is repeated with an age of zero leaves nothing of the cookie. -/
theorem ingest_expired_of_plain_name :
    let host : Text := "h.com".toList
    let url : Text := "http://h.com/".toList
    let jar : Jar := (ingest {} (.still 0) host (some url) ["a=1".toList]).2.jar
    jar.Reachable ∧ jar.toList ≠ [] ∧ ∃ after log,
      jar.ingest (.still 0) host (some url) ["a=1; Max-Age=0".toList] = (.ok (), { jar := after, stored := 0, log }) ∧
        after.toList = [] := by
  intro host url jar
  have hjar : jar.Reachable := .ingest .empty ..
  have hone : jar.toList.map Cookie.key = [⟨".h.com".toList, ['/'], ['a']⟩] := by decide +kernel
  obtain ⟨after, log, hingest, hremoves, _⟩ := (ingest_expired hjar (.still 0) host (some url)).1 "a=1; Max-Age=0".toList
    ⟨".h.com".toList, ['/'], ['a']⟩ (by decide +kernel)
  refine ⟨hjar, by decide +kernel, after, log, hingest, ?_⟩
  rw [hremoves, List.filter_eq_nil_iff]
  intro d hd
  have hkey : d.key ∈ jar.toList.map Cookie.key := List.mem_map_of_mem hd
  rw [hone] at hkey
  rw [List.mem_singleton.mp hkey]
  decide

/-- An escaped name: the value that is repeated with an age of zero leaves the cookie that it set. -/
theorem kept_of_escaped_name :
    let host : Text := "h.com".toList
    let url : Text := "http://h.com/".toList
    let raw : Text := "a%20b=1; Max-Age=0".toList
    let jar : Jar := (ingest {} (.still 0) host (some url) ["a%20b=1".toList]).2.jar
    jar.Reachable ∧ (∃ key, SetCookie.read 0 url (withDomain host raw) = .ok (.expired key)) ∧
      ∃ c, SetCookie.read 0 url (withDomain host (SetCookie.withoutExpiry raw)) = .ok (.cookie c) ∧
        c.key ∈ (jar.ingest (.still 0) host (some url) [raw]).2.jar.toList.map Cookie.key := by
  intro host url raw jar
  refine ⟨.ingest .empty .., ⟨⟨".h.com".toList, ['/'], "a%20b".toList⟩, by decide +kernel⟩, ?_⟩
  exact ⟨_, rfl, by decide +kernel⟩

/-- A date that holds the text `domain=`: the host name is put behind the value without it, and not behind this one, so
    the cookie stays although its name has no escape. -/
theorem kept_of_mentioned_domain :
    let host : Text := "h.com".toList
    let url : Text := "http://h.com/".toList
    let raw : Text := "a=1; Max-Age=0; Expires=domain=x".toList
    let jar : Jar := (ingest {} (.still 0) host (some url) ["a=1".toList]).2.jar
    SetCookie.withoutExpiry raw = "a=1".toList ∧
      SetCookie.read 0 url (withDomain host raw) = .ok (.expired ⟨host, ['/'], ['a']⟩) ∧
      (∃ c, SetCookie.read 0 url (withDomain host (SetCookie.withoutExpiry raw)) = .ok (.cookie c) ∧
        c.key = ⟨".h.com".toList, ['/'], ['a']⟩) ∧
      (jar.ingest (.still 0) host (some url) [raw]).2.jar.toList.map Cookie.key = [⟨".h.com".toList, ['/'], ['a']⟩] := by
  intro host url raw jar
  exact ⟨by decide +kernel, by decide +kernel, ⟨_, rfl, by decide +kernel⟩, by decide +kernel⟩

end Jar

end Courier
