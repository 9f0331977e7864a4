/-
  URLs whose host can be read.

  A host that begins with the mark of an ASCII form is decoded when a hop is made for its URL, and this is the one
  step of making a hop that can fail (`Url.hop_cases`).  Reading a URL text does not decode its host, so a text can
  be accepted although no hop can be made for it.

  1. **Hosts and hops**: a host is unreadable when it has the mark and is no ASCII form (`Url.Unreadable`), and
     readable otherwise.  Whether hops can be made for a URL is decided by this and by nothing else that goes into a
     hop.

  2. **Texts**: an unreadable host was written in ASCII, the mark included, in upper or lower case
     (`Url.isMarked_of_readHost`).  The other ways of reading a host do not give one: addresses do not begin with
     the mark, since an address of version four is made of digits and dots and one of version six begins with a
     colon or a digit of base sixteen, and the ASCII form of a name in other letters can be read because it was made
     from that name.

  3. **Locations**: a relative location keeps the host of the base but for its case, and a name is read whatever its
     case is.  So it keeps a host that can be read (`Url.readable_of_join`), if the base has a host: the path of a
     base without one may begin with two slashes, and then it names a host when the base is written as a text.  The
     crux is that putting a host in lower case makes no mark that was not there (`Url.mark_of_mark_toLower`).  What
     was read is in lower case up to its first escape (`Url.toLower_of_readHost`), and the mark is shorter than any
     escape that could come before its end.

  4. **Outcomes** (`Url.Outcome`): a text is refused, or hops can be made for it, or it is a suspect one, for the
     texts of callers and for locations alike.
-/
import Courier.Request.Hop
import Courier.Proofs.Idna.Roundtrip
import Courier.Proofs.Url.Relative

namespace Courier

namespace Url

variable {base u : Url} {location : Text}

/-! ## Hosts that cannot be read

  Reading a host for the eye is decoding it when it has the mark and leaving it as it is when it has not. -/

/-- A host that begins with the mark of an ASCII form and is none. -/
structure Unreadable (host : Text) (e : Idna.Error) : Prop where
  mark : Idna.asciiMark <+: host
  decode : Idna.decode host = .error e

/-- A host that can be read: without the mark, or behind it the form of a name. -/
def Readable (host : Text) : Prop := ∀ e, ¬ Unreadable host e

theorem readable_of_decode {host : Text} {points : List Nat} (h : Idna.decode host = .ok points) : Readable host :=
  fun _ hunreadable => absurd (h.symm.trans hunreadable.decode) (by simp)

theorem readable_of_not_mark {host : Text} (h : ¬ Idna.asciiMark <+: host) : Readable host :=
  fun _ hunreadable => h hunreadable.mark

/-- The host for the eye is there for the hosts that can be read. -/
theorem host_cases (u : Url) :
    (Readable u.rawHost ∧ ∃ name, u.host = .ok name) ∨ ∃ e, Unreadable u.rawHost e ∧ u.host = .error e := by
  by_cases hmark : Idna.asciiMark <+: u.rawHost
  · have hhost : u.host = (Idna.decode u.rawHost >>= fun points => .ok (points.map Char.ofNat)) :=
      if_pos (List.isPrefixOf_iff_prefix.mpr hmark)
    cases hdecode : Idna.decode u.rawHost with
    | ok points => exact Or.inl ⟨readable_of_decode hdecode, points.map Char.ofNat, by rw [hhost, hdecode]; rfl⟩
    | error e => exact Or.inr ⟨e, ⟨hmark, hdecode⟩, by rw [hhost, hdecode]; rfl⟩
  · refine Or.inl ⟨readable_of_not_mark hmark, u.rawHost, if_neg ?_⟩
    rwa [List.isPrefixOf_iff_prefix]

/-! ## Hops

  A hop has the name of its host decoded, and this is the only step of making a hop that can fail. -/

/-- A hop can be made for a URL, whatever else it is made of. -/
def CanHop (u : Url) : Prop :=
  ∀ method headers query timeouts jar body, ∃ hop, Hop.build method headers query timeouts jar u body = .ok hop

/-- No hop can be made for a URL, for this reason. -/
def NeverHops (u : Url) (failure : Failure) : Prop :=
  ∀ method headers query timeouts jar body, Hop.build method headers query timeouts jar u body = .error failure

/-- A host for the eye is all that is needed to make a hop. -/
theorem canHop_of_host {name : Text} (h : u.host = .ok name) : u.CanHop := by
  intro method headers query timeouts jar body
  obtain ⟨hostname, hhostname⟩ : ∃ hostname, Hop.hostnameOf u = .ok hostname := by
    rw [Hop.hostnameOf, h]
    cases name with
    | nil => exact ⟨_, rfl⟩
    | cons c rest => exact ⟨_, rfl⟩
  rw [Hop.build, hhostname]
  exact ⟨_, rfl⟩

/-- Without one, making a hop fails for the reason of decoding. -/
theorem neverHops_of_host {e : Idna.Error} (h : u.host = .error e) : u.NeverHops (.hostName e) := by
  intro method headers query timeouts jar body
  have hhostname : Hop.hostnameOf u = .error (.hostName e) := by rw [Hop.hostnameOf, h]
  rw [Hop.build, hhostname]
  rfl

/-- **The host decides** whether a hop can be made for a URL. -/
theorem hop_cases (u : Url) :
    (Readable u.rawHost ∧ u.CanHop) ∨ ∃ e, Unreadable u.rawHost e ∧ u.NeverHops (.hostName e) := by
  rcases u.host_cases with ⟨hreadable, name, hname⟩ | ⟨e, hunreadable, herror⟩
  · exact Or.inl ⟨hreadable, canHop_of_host hname⟩
  · exact Or.inr ⟨e, hunreadable, neverHops_of_host herror⟩

/-- If one hop was made for a URL, its host can be read. -/
theorem readable_of_build {method : Text} {headers : List Header} {query : Query} {timeouts : Timeouts}
    {jar : Option Jar} {body : Body} {hop : Hop} (h : Hop.build method headers query timeouts jar u body = .ok hop) :
    Readable u.rawHost := by
  rcases u.hop_cases with ⟨hreadable, _⟩ | ⟨e, _, hnever⟩
  · exact hreadable
  · exact absurd (h.symm.trans (hnever ..)) (by simp)

/-! ## Addresses

  No address begins with the letter that the mark begins with. -/

/-- The first group of a version six address is empty or made of digits. -/
theorem group_of_isPlainAddress6 {s first : Text} {others : List Text} (hsplit : s.splitOn ':' = first :: others)
    (h : isPlainAddress6 s = true) : first = [] ∨ isGroupText first = true := by
  -- the groups are those between the colons, but for an address of version four at the end
  have hfirst {groups : List Text} (hgroups : addressGroups? s = some groups) : ∃ more, groups = first :: more := by
    rw [addressGroups?, hsplit] at hgroups
    split at hgroups
    · cases hgroups
    · rename_i hlength
      rw [List.length_cons] at hlength
      obtain ⟨second, third, rfl⟩ : ∃ second third, others = second :: third :=
        List.exists_cons_of_length_pos (by omega)
      split at hgroups
      · split at hgroups
        · obtain rfl := Option.some.inj hgroups
          exact ⟨_, rfl⟩
        · cases hgroups
      · obtain rfl := Option.some.inj hgroups
        exact ⟨_, rfl⟩
  rw [isPlainAddress6] at h
  split at h
  · cases h
  · rename_i groups hgroups
    obtain ⟨more, rfl⟩ := hfirst hgroups
    dsimp only at h
    split at h
    · -- without two colons in a row every group has digits
      rw [Bool.and_eq_true, List.all_cons, Bool.and_eq_true] at h
      exact Or.inr h.2.1
    · -- with them, the groups before them are empty or have digits
      rw [List.take_succ_cons, Bool.and_eq_true, Bool.and_eq_true, Bool.and_eq_true, isAddressSide,
        Bool.or_eq_true, beq_iff_eq, List.all_cons] at h
      rcases h.1.1.2 with hempty | hgroup
      · exact Or.inl (List.cons.inj hempty).1
      · exact Or.inr (Bool.and_eq_true_iff.mp hgroup).1

/-- A version six address begins with a colon or a digit. -/
theorem head_of_isPlainAddress6 {c : Char} {rest : Text} (h : isPlainAddress6 (c :: rest) = true) :
    c = ':' ∨ isHexDigit c = true := by
  by_cases hcolon : c = ':'
  · exact Or.inl hcolon
  · right
    obtain ⟨first, others, hrest⟩ := List.exists_cons_of_ne_nil (List.splitOnP_ne_nil (· == ':') rest)
    have hsplit : (c :: rest).splitOn ':' = (c :: first) :: others := by
      rw [List.splitOn_eq_splitOnP, List.splitOnP_cons_eq_if_modifyHead, if_neg (by rwa [beq_iff_eq]), hrest,
        List.modifyHead_cons]
    rcases group_of_isPlainAddress6 hsplit h with hempty | hgroup
    · cases hempty
    · rw [isGroupText, Bool.and_eq_true, Bool.and_eq_true, List.all_cons, Bool.and_eq_true] at hgroup
      exact hgroup.1.2.1

/-- An address with a scope is a plain one in front of the scope. -/
theorem isPlainAddress6_of_isAddress6 {s : Text} (h : isAddress6 s = true) : isPlainAddress6 (cut '%' s).1 = true := by
  rw [isAddress6, Bool.and_eq_true] at h
  rcases hcut : cut '%' s with ⟨address, _ | scope⟩
  · rw [hcut] at h
    exact h.2
  · rw [hcut, Bool.and_eq_true] at h
    exact h.2.2

theorem not_mark_of_isAddress6 {s : Text} (h : isAddress6 s = true) : ¬ Idna.asciiMark <+: s := by
  rintro ⟨rest, rfl⟩
  obtain ⟨more, hmore⟩ : ∃ more, (cut '%' (Idna.asciiMark ++ rest)).1 = 'x' :: more := ⟨_, rfl⟩
  have hplain := isPlainAddress6_of_isAddress6 h
  rw [hmore] at hplain
  exact absurd (head_of_isPlainAddress6 hplain) (by decide)

theorem not_mark_of_looksNumeric {s : Text} (h : looksNumeric s = true) : ¬ Idna.asciiMark <+: s := by
  rintro ⟨rest, rfl⟩
  have hmem : 'x' ∈ Idna.asciiMark ++ rest := List.mem_cons_self ..
  exact absurd (mem_of_looksNumeric h hmem) (by decide)

/-! ## Hosts that are read

  Of the ways in which a host is read only the one of ASCII names can give a host that cannot be read, since what is
  written in that way is not looked at any further. -/

/-- The mark of an ASCII form in front of a host in ASCII, in upper or lower case. -/
structure IsMarked (host : Text) : Prop where
  ascii : host.all isAscii = true
  mark : Idna.asciiMark <+: lower host

/-- **A host that cannot be read** was written in ASCII, and the mark in front of it. -/
theorem isMarked_of_readHost {host written : Text} (h : readHost host = .ok written) {e : Idna.Error}
    (hunreadable : Unreadable written e) : IsMarked host := by
  cases readsHost_of_readHost h with
  | empty hhost => exact absurd (List.prefix_nil.mp hunreadable.mark) (by decide)
  | address4 hnumeric haddress => exact absurd hunreadable.mark (not_mark_of_looksNumeric hnumeric)
  | address6 haddress => exact absurd hunreadable.mark (not_mark_of_isAddress6 haddress)
  -- the mark holds nothing that is escaped, so it stood in the host before coding
  | ascii hascii => exact ⟨hascii, front_of_percentEncode (by decide) hunreadable.mark⟩
  | name hencode =>
    obtain ⟨points, hdecode⟩ := Idna.exists_decode_of_encode hencode
    exact absurd hunreadable (readable_of_decode hdecode e)

/-- What is read of a host is in lower case, up to its first escape. -/
theorem toLower_of_readHost {host written front : Text} (h : readHost host = .ok written) (hcolon : ':' ∉ written)
    (hpercent : '%' ∉ front) (hfront : front <+: written) {c : Char} (hc : c ∈ front) : c.toLower = c := by
  -- lower case is steady under lower case
  have hlower {c : Char} (hc : c ∈ lower host) (hascii : isAscii c = true) : c.toLower = c := by
    have hsteady : isSteady c = true := lower_eq_self_iff.mp (lower_lower host) c hc
    rw [isSteady, lowerAt_of_ascii (of_decide_eq_true hascii), beq_iff_eq] at hsteady
    exact (List.cons.inj hsteady).1
  have hmem : c ∈ written := hfront.subset hc
  have hascii : isAscii c = true := by
    have hchars := (isHostChar_of_readHost h).resolve_left fun haddress => hcolon (colon_mem_of_isAddress6 haddress)
    exact isAscii_of_isVisible (isVisible_of_isHostChar (hchars c hmem))
  cases readsHost_of_readHost h with
  | empty hhost => exact absurd hmem List.not_mem_nil
  | address4 hnumeric haddress =>
    rw [← lower_of_looksNumeric hnumeric] at hmem
    exact hlower hmem hascii
  | address6 haddress => exact absurd (colon_mem_of_isAddress6 haddress) hcolon
  | ascii hall => exact hlower ((front_of_percentEncode hpercent hfront).subset hc) hascii
  | name hencode => exact Idna.toLower_of_encode (fun c => hlower) hencode hmem

/-- The host as it stands in a URL text. -/
def hostIn (s : Text) : Text := (cutAuthority (cutText s).authority).2.1

theorem readHost_of_read {s : Text} (h : read s = .ok u) : readHost (hostIn s) = .ok u.rawHost :=
  (readOff_of_ofCuts (of_read h).2).host

/-! ## Locations

  What a relative location leads to has the host of the base in lower case. -/

theorem exists_readHost (h : u.Known) : ∃ host, readHost host = .ok u.rawHost := by
  cases h with
  | parsed h => exact ⟨_, readHost_of_read (read_of_parse h)⟩
  | joined _ h =>
    obtain ⟨cuts, hcuts⟩ := exists_ofCuts_of_join h
    exact ⟨_, (readOff_of_ofCuts hcuts).host⟩

/-- The mark in front of a host in lower case stands in front of the host as it is. -/
theorem mark_of_mark_toLower {host written : Text} (h : readHost host = .ok written) (hcolon : ':' ∉ written)
    (hmark : Idna.asciiMark <+: written.map Char.toLower) : Idna.asciiMark <+: written := by
  let front := written.take Idna.asciiMark.length
  have hfront : front.map Char.toLower = Idna.asciiMark :=
    (List.map_take ..).trans (List.prefix_iff_eq_take.mp hmark).symm
  -- the mark holds no percent sign, so no escape begins in its place
  have hpercent : '%' ∉ front := by
    intro hmem
    have hlower : '%' ∈ front.map Char.toLower := List.mem_map.mpr ⟨'%', hmem, rfl⟩
    rw [hfront] at hlower
    exact absurd hlower (by decide)
  have hsame : front.map Char.toLower = front :=
    (List.map_congr_left fun c => toLower_of_readHost h hcolon hpercent (List.take_prefix ..)).trans (List.map_id _)
  rw [← hfront, hsame]
  exact List.take_prefix ..

/-- A host that can be read can be read in lower case. -/
theorem readable_refoldedHost (hbase : base.Known) (h : Readable base.rawHost) : Readable base.refoldedHost := by
  rw [refoldedHost]
  cases hcolon : base.rawHost.contains ':' with
  | true => exact h
  | false =>
    rw [if_neg Bool.false_ne_true, ((formed_of_known hbase).lower_name hcolon).1]
    obtain ⟨host, hread⟩ := exists_readHost hbase
    have hnot : ':' ∉ base.rawHost := by
      rwa [← List.contains_iff_mem, Bool.not_eq_true]
    exact fun e hunreadable => h e ⟨mark_of_mark_toLower hread hnot hunreadable.mark,
      (Idna.decode_map_toLower _).symm.trans hunreadable.decode⟩

/-- **A relative location keeps a host that can be read.** -/
theorem readable_of_join (hbase : base.Known) (hhost : base.rawHost ≠ []) (hreadable : Readable base.rawHost)
    (hlocation : IsRelative location) (h : join base location = .ok u) : Readable u.rawHost := by
  rw [(inherits_of_join (formed_of_known hbase) hhost hlocation h).host]
  exact readable_refoldedHost hbase hreadable

/-! ## What becomes of a text

  The three outcomes are stated for any result of reading, with a condition on texts that may have an unreadable
  host. -/

/-- What becomes of a text that stands for a URL.  It is refused as a bad URL; or hops can be made for the URL, and its
    host can be read; or its host cannot be read, every hop fails for that reason, and the text is a suspect one. -/
inductive Outcome (suspect : Prop) : Except Error Url → Prop
  | refused (e : Error) : Outcome suspect (.error e)
  | hops {u : Url} (hreadable : Readable u.rawHost) (hcan : u.CanHop) : Outcome suspect (.ok u)
  | unreadable {u : Url} {e : Idna.Error} (hhost : Unreadable u.rawHost e) (hnever : u.NeverHops (.hostName e))
      (hsuspect : suspect) : Outcome suspect (.ok u)

/-- Only suspect texts are accepted without a host that can be read. -/
theorem outcome_of_suspect {suspect : Prop} {result : Except Error Url}
    (h : ∀ u e, result = .ok u → Unreadable u.rawHost e → suspect) : Outcome suspect result := by
  cases result with
  | error e => exact .refused e
  | ok u =>
    rcases u.hop_cases with ⟨hreadable, hcan⟩ | ⟨e, hunreadable, hnever⟩
    · exact .hops hreadable hcan
    · exact .unreadable hunreadable hnever (h u e rfl hunreadable)

/-- **A text is refused, or hops can be made for what it stands for, unless the host cannot be read.**  A URL text gives
    such a host only when its own host is in ASCII and behind the mark, and a location only when it is not relative, or
    when the base has no host. -/
theorem refused_or_hops (s location : Text) (hbase : base.Known) {method : Text} {headers : List Header} {query : Query}
    {timeouts : Timeouts} {jar : Option Jar} {body : Body} {hop : Hop}
    (hbuilt : Hop.build method headers query timeouts jar base body = .ok hop) :
    Outcome (IsMarked (hostIn s)) (parse s) ∧
      Outcome (¬ (IsRelative location ∧ base.rawHost ≠ [])) (join base location) := by
  constructor
  · -- a text: its host was read, and the cases of reading are few
    refine outcome_of_suspect fun u e hparse hunreadable => ?_
    exact isMarked_of_readHost (readHost_of_read (read_of_parse hparse)) hunreadable
  · -- a location: a hop was made for the base, so the host of the base can be read
    refine outcome_of_suspect fun u e hjoin hunreadable => ?_
    rintro ⟨hlocation, hhost⟩
    exact readable_of_join hbase hhost (readable_of_build hbuilt) hlocation hjoin e hunreadable

/-- The mark without anything behind it as a host, and a relative location. -/
theorem refused_or_hops_of_mark : ∃ base hop,
    parse "http://h/a".toList = .ok base ∧ Hop.build [] [] .absent {} none base .empty = .ok hop ∧
      Outcome (IsMarked (hostIn "http://xn--/".toList)) (parse "http://xn--/".toList) ∧
      Outcome (¬ (IsRelative "b".toList ∧ base.rawHost ≠ [])) (join base "b".toList) := by
  have hparse : parse "http://h/a".toList = .ok { scheme := "http".toList, rawHost := ['h'], path := "/a".toList } := by
    decide +kernel
  have hbuilt : ∃ hop, Hop.build [] [] .absent {} none
      { scheme := "http".toList, rawHost := "h".toList, path := "/a".toList } .empty = .ok hop := ⟨_, rfl⟩
  obtain ⟨hop, hbuilt⟩ := hbuilt
  exact ⟨_, hop, hparse, hbuilt, refused_or_hops "http://xn--/".toList "b".toList (.parsed hparse) hbuilt⟩

/-- The mark alone makes no name: the text is accepted, also as a location, and every hop for it fails for a reason that
    is not the one of a bad URL. -/
theorem accepted_without_hop : ∃ base u e,
    parse "http://h/".toList = .ok base ∧ base.CanHop ∧
      parse "http://xn--/".toList = .ok u ∧ join base "//xn--/".toList = .ok u ∧
      u.NeverHops (.hostName e) ∧ (Failure.hostName e).category ≠ .invalidUrl := by
  refine ⟨{ scheme := "http".toList, rawHost := "h".toList, path := ['/'] },
    { scheme := "http".toList, rawHost := "xn--".toList, path := ['/'] }, .noContent, by decide +kernel, ?_,
    by decide +kernel, by decide +kernel, neverHops_of_host ?_, by decide⟩
  · exact canHop_of_host rfl
  · rfl

end Url

end Courier
