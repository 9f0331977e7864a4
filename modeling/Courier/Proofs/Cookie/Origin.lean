/-
  The origin of a cookie.

  The URL of a response is read once more for its cookies, by a reader of its own: it unwraps the text, cuts it at
  the last number sign, wants a scheme in front, splits the text without an empty fragment, and drops the port.  Of
  what it finds, the host is what cookies need, and two things are proved of it.

  1. It is in lower case, whatever the URL (`Origin.lower_host_of_read`).  The domain of an origin is the host, or
     the host with the ending of local hosts, so it is in lower case as well.

  2. A URL in canonical form with a scheme and a host that is no address of version six is an origin, and the host
     of it is what stands between the slashes without its port (`Origin.read_text`).  The reader may cut the text
     elsewhere than the URL was put together: a number sign in it cuts the text behind the authority, or not at all
     (`located_cutFragment`), and either way what is split begins with the scheme and the authority.  `Url.Located`
     is the form of text for which this argument works.

  For an address of version six the second need not hold: what stands between the brackets may be refused here, and
  that is how taking in the cookies of a journey can fail.
-/
import Courier.Cookie.Origin
import Courier.Proofs.Url.Text

namespace Courier

namespace Origin

variable {url : Text} {o : Origin}

/-! ## Reading

  The origin of a cookie is read by a grammar that is more lenient than the one of URLs, and with cuts of its own:
  the fragment is taken off at the last number sign.  What it does to a text is named here, so that the following
  sections can say what it does to the text of a URL. -/

/-- The text before the last number sign and the text after it, which is empty when there is none. -/
def cutFragment (s : Text) : Text × Text :=
  match cutLast '#' s with
  | (some before, after) => (before, after)
  | (none, whole) => (whole, [])

/-- The text that is split: an empty fragment is left out. -/
def fullOf (cuts : Text × Text) : Text := if cuts.2.isEmpty then cuts.1 else cuts.1 ++ '#' :: cuts.2

/-- Host and port of a text after its scheme. -/
def endpointOf : Text → Option Text
  | '/' :: '/' :: r => some (percentDecode (r.takeWhile fun c => !Url.endsAuthority c))
  | _ => none

theorem read_eq (url : Text) :
    read url =
      match (cutFragment (unwrap url)).1.drop
          ((cutFragment (unwrap url)).1.takeWhile fun c => c != '/' && c != ':').length with
      | ':' :: rest =>
        if ((cutFragment (unwrap url)).1.takeWhile fun c => c != '/' && c != ':').isEmpty then
          .error (.noScheme (fullOf (cutFragment (unwrap url))))
        else match Url.split [] (fullOf (cutFragment (unwrap url))) with
          | .error e => .error (.unsplittable e)
          | .ok parts =>
            .ok { host := lower (dropPort parts.authority), rawPath := parts.path, endpoint := endpointOf rest }
      | _ => .error (.noScheme (fullOf (cutFragment (unwrap url)))) := by
  rw [read, cutFragment]
  rcases cutLast '#' (unwrap url) with ⟨_ | before, after⟩ <;> rfl

/-- An origin is read off the parts of a text. -/
theorem exists_parts_of_read (h : read url = .ok o) :
    ∃ parts, Url.split [] (fullOf (cutFragment (unwrap url))) = .ok parts ∧
      o.host = lower (dropPort parts.authority) ∧ o.rawPath = parts.path := by
  rw [read_eq] at h
  split at h
  · split at h
    · exact nomatch h
    · cases hsplit : Url.split [] (fullOf (cutFragment (unwrap url))) with
      | error e =>
        rw [hsplit] at h
        exact nomatch h
      | ok parts =>
        rw [hsplit] at h
        refine ⟨parts, rfl, ?_, ?_⟩
        · rw [← Except.ok.inj h]
        · rw [← Except.ok.inj h]
  · exact nomatch h

/-! ## Lower case

  An origin puts its host in lower case, and its domain is the host, with an ending for names without a full stop. -/

/-- **The host of an origin is in lower case.** -/
theorem lower_host_of_read (h : read url = .ok o) : lower o.host = o.host := by
  obtain ⟨_, _, hhost, _⟩ := exists_parts_of_read h
  rw [hhost, lower_lower]

theorem lower_domain_of_read (h : read url = .ok o) : lower o.domain = o.domain := by
  rw [domain]
  split
  · exact lower_append_eq_self (lower_host_of_read h) (by decide)
  · exact lower_host_of_read h

/-! ## The text of a URL

  For a URL whose host is no address of version six both grammars cut alike.  This is by the shape of its text,
  which is known from how URLs are written. -/

variable {u : Url} {s : Text}

/-- There is nothing to unwrap about the text of a URL. -/
theorem unwrap_of_located (hu : u.Plain) (h : u.Located s) : unwrap s = s := by
  have htrim : trimBlank s = s := trim_of_forall fun c hc => not_isBlank_of_isVisible (h.visible c hc)
  obtain ⟨hname, hlower⟩ := Url.scheme_of_plain hu
  obtain ⟨t, rfl, _⟩ := h.shape
  obtain ⟨c, rest, hscheme⟩ := List.exists_cons_of_ne_nil hu.scheme
  rw [hscheme] at hname hlower htrim ⊢
  have halpha : c.isAlpha = true := (Bool.and_eq_true_iff.mp hname).1
  have hangle : ¬ ((c :: rest ++ ':' :: '/' :: '/' :: (u.authority ++ t)).head? = some '<' ∧
      (c :: rest ++ ':' :: '/' :: '/' :: (u.authority ++ t)).getLast? = some '>') := by
    rintro ⟨hhead, _⟩
    rw [Option.some.inj hhead] at halpha
    exact absurd halpha (by decide)
  -- neither between angle brackets nor with the prefix of a wrapped URL
  rw [unwrap, htrim, if_neg hangle, if_neg]
  -- the scheme is in lower case
  intro hprefix
  have hc : 'U' = c := (List.cons_prefix_cons.mp (List.isPrefixOf_iff_prefix.mp hprefix)).1
  subst hc
  exact absurd (lower_eq_self_iff.mp hlower _ (List.mem_cons_self ..)) (by decide)

/-- The text before a fragment and the text that is split are both located. -/
theorem located_cutFragment (hu : u.Plain) (h : u.Located s) :
    u.Located (cutFragment s).1 ∧ u.Located (fullOf (cutFragment s)) := by
  by_cases hmark : '#' ∈ s
  · obtain ⟨before, after, hnot, rfl⟩ := exists_cutLast hmark
    have hcuts : cutFragment (before ++ '#' :: after) = (before, after) := by
      rw [cutFragment, cutLast_append_mark hnot]
    rw [hcuts, fullOf]
    refine ⟨h.before hu, ?_⟩
    split
    · exact h.before hu
    · exact h
  · have hwhole : cutFragment s = (s, []) := by
      rw [cutFragment, cutLast_of_notMem hmark]
    rw [hwhole]
    exact ⟨h, h⟩

/-- **A URL is an origin**, and its host is that of the URL in lower case. -/
theorem read_text (hu : u.Plain) :
    ∃ o, read u.text = .ok o ∧ o.host = lower (dropPort u.authority) := by
  have htext := Url.located_text hu
  obtain ⟨hmain, hfull⟩ := located_cutFragment hu htext
  obtain ⟨htake, t, hdrop, _⟩ := hmain.scheme hu
  obtain ⟨parts, hsplit, hauthority⟩ := hfull.split hu
  rw [read_eq, unwrap_of_located hu htext, htake, hdrop, List.isEmpty_eq_false_iff.mpr hu.scheme, hsplit, ← hauthority]
  exact ⟨_, rfl, rfl⟩

/-- Behind a host name without colons, only a port is dropped, and it is unless it is negative. -/
theorem dropPort_authority (hcolon : ':' ∉ u.rawHost) (huserinfo : u.userinfo = [])
    (hport : ∀ p ∈ u.port, 0 ≤ p) : dropPort u.authority = u.rawHost := by
  have hhost : u.bracketedHost = u.rawHost := by
    rw [Url.bracketedHost, if_neg]
    exact fun hmem => hcolon (List.contains_iff_mem.mp hmem)
  rw [Url.authority, huserinfo, List.isEmpty_nil, if_pos rfl, List.nil_append, Url.hostAndPort, hhost, Url.portText]
  cases hp : u.port with
  | none =>
    dsimp only
    rw [List.append_nil, dropPort, cutLast_of_notMem hcolon]
  -- the digits of a port, and a colon in front of them that is the last one
  | some p =>
    obtain ⟨n, rfl⟩ := Int.eq_ofNat_of_zero_le (hport p hp)
    have hdigits : ∀ c ∈ decimal n, c.isDigit = true := fun c => isDigit_of_mem_decimal
    have hmark : ':' ∉ decimal n := fun hmem => absurd (hdigits _ hmem) (by decide)
    have hne : decimal n ≠ [] := List.ne_nil_of_length_pos Nat.length_toDigits_pos
    dsimp only
    show dropPort (u.rawHost ++ ':' :: decimal n) = u.rawHost
    rw [dropPort, cutLast_append_mark hmark]
    dsimp only
    rw [if_pos]
    rw [Bool.and_eq_true, Bool.not_eq_true', List.isEmpty_eq_false_iff, List.all_eq_true]
    exact ⟨hne, hdigits⟩

end Origin

end Courier
