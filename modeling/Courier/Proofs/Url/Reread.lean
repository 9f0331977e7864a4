/-
  Authorities that are read again.

  Resolving a reference writes the base as a text and reads it again, more than once when the scheme is borrowed for
  it.  What becomes of scheme and authority then is said by `Url.Rereads`: the user information stays, a name is put
  into lower case once more, and a port goes when it is the default of the scheme that stands in front this time.

  1. **The form** (`Url.Formed`): canonical, and with a host that is read again as it was written.  Canonical form
     alone is not enough.  The scope of an address is kept as it was written, so it must be known that it holds
     nothing that ends an authority or its user information, and a name must be made of safe characters, or its
     escapes would be escaped a second time.

  2. **Cutting** (`Url.Formed.cutAuthority`): the last at sign is the one behind the user information, the last
     bracket is the one behind an address, and the first colon of a name is the one before its port.  Each of these
     rests on what the parts behind it cannot hold.

  3. **Reading** (`Url.Formed.readHost`, `Url.readPort_portDigits`): a host in brackets is read as the address
     inside, a name as itself in lower case, and the digits of a port as their number.

  4. **The form is kept** (`Url.formed_of_ofCuts`, `Url.rereads_of_ofCuts`), if neither an end of an authority nor a
     control was in the authority.  Every text that is read has such an authority.

  5. **Every URL is of the form** (`Url.formed_of_known`): `Url.Known` are the URLs that come about, by reading a
     text or by following a location from one of them, and the form is an invariant of following
     (`Url.formed_of_join`), so it holds of all of them by induction over how they came about.
-/
import Courier.Proofs.Number.Integer
import Courier.Proofs.Text.Percent
import Courier.Proofs.Url.Inline
import Courier.Proofs.Url.Text

namespace Courier

namespace Url

variable {u v : Url}

/-! ## The form

  What is needed of a host so that it is found again in its authority. -/

/-- A character that can stand inside an authority: it neither ends it nor is a control. -/
def isInner (c : Char) : Bool := !endsAuthority c && !isUnprintableAscii c

/-- A character of host and port: one that does not end the user information either. -/
def isHostInner (c : Char) : Bool := isInner c && c != '@'

/-- The form of every URL that comes about: canonical, and with a host that is read again as it was written. -/
structure Formed (u : Url) : Prop where
  canonical : u.Canonical
  host : (isAddress6 u.rawHost = true ∧ ∀ c ∈ u.rawHost, isHostInner c = true) ∨
    ∀ c ∈ u.rawHost, safeWith hostMarks c = true

/-- The user information in front of a host, with its mark. -/
def userText (u : Url) : Text := if u.userinfo.isEmpty then [] else u.userinfo ++ ['@']

theorem authority_eq (u : Url) : u.authority = u.userText ++ u.hostAndPort := rfl

/-- User information is coded, so that it neither ends the authority nor holds a control. -/
theorem isInner_of_mem_userText (hu : u.Canonical) {c : Char} (h : c ∈ u.userText) : isInner c = true := by
  rw [userText] at h
  split at h
  · exact absurd h List.not_mem_nil
  · rcases List.mem_append.mp h with h | h
    · exact of_ascii_check (by decide +kernel) (fun _ => isVisible_of_printableExcept) (hu.userinfo c h)
    · rw [List.mem_singleton.mp h]
      decide

theorem Formed.isHostInner_of_mem_host (hu : u.Formed) {c : Char} (h : c ∈ u.rawHost) : isHostInner c = true := by
  rcases hu.host with ⟨_, hchars⟩ | hsafe
  · exact hchars c h
  · exact of_ascii_check (by decide +kernel) (fun _ => isVisible_of_isHostChar) (isHostChar_of_hostSafe (hsafe c h))

/-- A character of a port: its colon, a minus sign or a digit. -/
def isPortChar (c : Char) : Bool := c == ':' || c == '-' || c.isDigit

/-- A port is written with its colon, digits, and a sign at most. -/
theorem isPortChar_of_mem_portText {c : Char} (h : c ∈ u.portText) : isPortChar c = true := by
  rw [portText] at h
  split at h
  · exact absurd h List.not_mem_nil
  · rcases List.mem_cons.mp h with rfl | h
    · rfl
    · rcases mem_decimalInt h with rfl | hdigit
      · rfl
      · rw [isPortChar, hdigit, Bool.or_true]

theorem isVisible_of_isPortChar {c : Char} (h : isPortChar c = true) : isVisible c = true := by
  rw [isPortChar, Bool.or_eq_true, Bool.or_eq_true, beq_iff_eq, beq_iff_eq] at h
  rcases h with (rfl | rfl) | hdigit
  · decide
  · decide
  · exact isVisible_of_isDigit hdigit

/-- Host and port neither end the authority nor the user information. -/
theorem Formed.isHostInner_of_mem_hostAndPort (hu : u.Formed) {c : Char} (h : c ∈ u.hostAndPort) :
    isHostInner c = true := by
  rw [hostAndPort, bracketedHost] at h
  rcases List.mem_append.mp h with h | h
  · split at h
    · rw [List.cons_append] at h
      rcases List.mem_cons.mp h with rfl | h
      · decide
      · rcases List.mem_append.mp h with h | h
        · exact hu.isHostInner_of_mem_host h
        · rw [List.mem_singleton.mp h]
          decide
    · exact hu.isHostInner_of_mem_host h
  · exact of_ascii_check (by decide +kernel) (fun _ => isVisible_of_isPortChar) (isPortChar_of_mem_portText h)

theorem Formed.isInner_of_mem_authority (hu : u.Formed) {c : Char} (h : c ∈ u.authority) : isInner c = true := by
  rw [authority_eq] at h
  rcases List.mem_append.mp h with h | h
  · exact isInner_of_mem_userText hu.canonical h
  · exact (Bool.and_eq_true_iff.mp (hu.isHostInner_of_mem_hostAndPort h)).1

/-! ## Cutting an authority again

  The cuts are made from the right for user information and for an address, and from the left for a name. -/

/-- The digits of a port, nothing without one. -/
def portDigits (u : Url) : Text :=
  match u.port with
  | none => []
  | some n => decimalInt n

/-- The user information is cut off where it was put on. -/
theorem Formed.cutLast_authority (hu : u.Formed) :
    (cutLast '@' u.authority).1.getD [] = u.userinfo ∧ (cutLast '@' u.authority).2 = u.hostAndPort := by
  have hmark : '@' ∉ u.hostAndPort := fun hmem =>
    absurd (hu.isHostInner_of_mem_hostAndPort hmem) (by decide)
  rw [authority_eq, userText]
  cases hempty : u.userinfo.isEmpty with
  | true =>
    rw [if_pos rfl, List.nil_append, cutLast_of_notMem hmark, List.isEmpty_iff.mp hempty]
    exact ⟨rfl, rfl⟩
  | false =>
    rw [if_neg Bool.false_ne_true, List.append_assoc, List.singleton_append, cutLast_append_mark hmark]
    exact ⟨rfl, rfl⟩

/-- The host, and the port behind it, of the text that follows the user information. -/
def hostOf (s : Text) : Text × Text :=
  match s.head?, cutLast ']' s with
  | some '[', (some inside, after) => (inside ++ [']'], after)
  | _, _ => (s.takeWhile fun c => c != ':' && c != '@', s.dropWhile fun c => c != ':' && c != '@')

/-- The digits of a port, behind the colon if it is there. -/
def digitsOf (s : Text) : Text :=
  match s with
  | ':' :: digits => digits
  | s => s

/-- An authority is cut at its last at sign, and then at the end of its host. -/
theorem cutAuthority_eq (s : Text) : cutAuthority s =
    ((cutLast '@' s).1.getD [], (hostOf (cutLast '@' s).2).1, digitsOf (hostOf (cutLast '@' s).2).2) := by
  rw [cutAuthority]
  rcases cutLast '@' s with ⟨_ | user, rest⟩
  · rfl
  · rfl

/-- Without a bracket in front, a host ends at a colon. -/
theorem hostOf_of_not_bracket {s : Text} (h : s.head? ≠ some '[') :
    hostOf s = (s.takeWhile fun c => c != ':' && c != '@', s.dropWhile fun c => c != ':' && c != '@') := by
  rw [hostOf]
  split
  · rename_i hhead _
    exact absurd hhead h
  · rfl

/-- **The host is cut off where the port begins.** -/
theorem Formed.hostOf_hostAndPort (hu : u.Formed) (hhost : u.rawHost ≠ []) :
    hostOf u.hostAndPort = (u.bracketedHost, u.portText) := by
  rw [hostAndPort, bracketedHost]
  split
  · -- an address, up to the last bracket
    have hmark : ']' ∉ u.portText := fun hmem => absurd (isPortChar_of_mem_portText hmem) (by decide)
    have hcut : cutLast ']' ('[' :: u.rawHost ++ [']'] ++ u.portText) = (some ('[' :: u.rawHost), u.portText) := by
      rw [List.append_assoc, List.singleton_append, cutLast_append_mark hmark]
    rw [hostOf, hcut]
    rfl
  · -- a name, up to its colon
    rename_i hcolon
    have hchars : ∀ c ∈ u.rawHost, isHostChar c = true := isHostChar_of_notMem hu.canonical fun hmem =>
      hcolon (List.contains_iff_mem.mpr hmem)
    have hpass : ∀ c ∈ u.rawHost, (c != ':' && c != '@') = true := by
      intro c hc
      have hchar := hchars c hc
      rw [Bool.and_eq_true, bne_iff_ne, bne_iff_ne]
      constructor
      · rintro rfl
        exact absurd hchar (by decide)
      · rintro rfl
        exact absurd hchar (by decide)
    have hstop : ∀ c ∈ u.portText.head?, (c != ':' && c != '@') = false := by
      rw [portText]
      cases u.port with
      | none =>
        intro c hc
        cases hc
      | some n =>
        intro c hc
        obtain rfl := Option.some.inj hc
        rfl
    -- nothing in the name stops, and the colon of the port does
    obtain ⟨first, rest, hfirst⟩ := List.exists_cons_of_ne_nil hhost
    rw [hostOf_of_not_bracket]
    · rw [List.takeWhile_append_of_pos hpass, List.dropWhile_append_of_pos hpass]
      cases hport : u.portText with
      | nil => rw [List.takeWhile_nil, List.dropWhile_nil, List.append_nil]
      | cons c more =>
        rw [hport] at hstop
        have hc := hstop c rfl
        rw [List.takeWhile_cons_of_neg (by rw [hc]; decide), List.dropWhile_cons_of_neg (by rw [hc]; decide),
          List.append_nil]
    · rw [hfirst, List.cons_append, List.head?_cons]
      intro hbracket
      obtain rfl := Option.some.inj hbracket
      exact absurd (hchars '[' (hfirst ▸ List.mem_cons_self ..)) (by decide)

/-- **An authority is cut where it was put together.** -/
theorem Formed.cutAuthority (hu : u.Formed) (hhost : u.rawHost ≠ []) :
    cutAuthority u.authority = (u.userinfo, u.bracketedHost, u.portDigits) := by
  rw [cutAuthority_eq, hu.cutLast_authority.1, hu.cutLast_authority.2, hu.hostOf_hostAndPort hhost, portText,
    portDigits]
  cases u.port with
  | none => rfl
  | some n => rfl

/-! ## Reading the parts again

  The parts that were cut out are the ones that were put in, so what is left to see is that reading a part again
  gives the part, in lower case if it is a name. -/

/-- The host when it is read again: a name is put into lower case once more. -/
def refoldedHost (u : Url) : Text := if u.rawHost.contains ':' then u.rawHost else lower u.rawHost

/-- The port when it is read again behind a scheme: the default of the scheme goes. -/
def keptPort (u : Url) (scheme : Text) : Option Int := u.port.filter fun n => defaultPort? scheme != some n

/-- A text of the shape of an address of version four has digits and dots. -/
theorem mem_of_looksNumeric {s : Text} (h : looksNumeric s = true) {c : Char} (hc : c ∈ s) :
    c = '.' ∨ c.isDigit = true := by
  rw [looksNumeric, Bool.and_eq_true, List.all_eq_true] at h
  have hparts : c = '.' ∨ ∃ part ∈ s.splitOn '.', c ∈ part := mem_splitOn_or hc
  refine hparts.imp_right ?_
  rintro ⟨part, hpart, hmem⟩
  have hdigits := h.2 part hpart
  rw [Bool.and_eq_true, List.all_eq_true] at hdigits
  exact hdigits.2 c hmem

/-- What stands in brackets is read as an address, or not at all. -/
theorem readHost_address {host written : Text} (h : readHost ('[' :: host ++ [']']) = .ok written) :
    written = host := by
  have hnumeric : looksNumeric ('[' :: host ++ [']']) = false := by
    rw [← Bool.not_eq_true]
    intro hnumeric
    exact absurd (mem_of_looksNumeric hnumeric (List.mem_cons_self ..)) (by decide)
  have hbrackets : ('[' :: host ++ [']']).head? = some '[' ∧ ('[' :: host ++ [']']).getLast? = some ']' ∧
      2 ≤ ('[' :: host ++ [']']).length := by
    refine ⟨rfl, List.getLast?_concat, ?_⟩
    rw [List.length_append, List.length_cons]
    exact Nat.le_add_left 2 host.length
  have hinside : ('[' :: host ++ [']']).tail.dropLast = host := List.dropLast_concat
  rw [readHost, if_neg (by exact Bool.false_ne_true), hnumeric, if_neg Bool.false_ne_true, if_pos hbrackets] at h
  dsimp only at h
  rw [hinside] at h
  split at h
  · exact (Except.ok.inj h).symm
  · cases h

/-- Digits and dots have no case. -/
theorem lower_of_looksNumeric {s : Text} (h : looksNumeric s = true) : lower s = s := by
  have hchar : ∀ c ∈ s, isAscii c = true ∧ c.toLower = c := by
    intro c hc
    have hvisible : isVisible c = true := by
      rcases mem_of_looksNumeric h hc with rfl | hdigit
      · decide
      · exact isVisible_of_isDigit hdigit
    refine ⟨isAscii_of_isVisible hvisible, ?_⟩
    rcases mem_of_looksNumeric h hc with rfl | hdigit
    · rfl
    · revert hdigit
      exact ascii_forall c (of_decide_eq_true (isAscii_of_isVisible hvisible)) (by decide +kernel)
  rw [lower_of_ascii fun c hc => (hchar c hc).1]
  exact (List.map_congr_left fun c hc => (hchar c hc).2).trans (List.map_id s)

/-- **A name of safe characters is read in lower case**, with nothing escaped. -/
theorem readHost_name {host written : Text} (hne : host ≠ []) (hsafe : ∀ c ∈ host, safeWith hostMarks c = true)
    (h : readHost host = .ok written) : written = lower host := by
  have hascii : ∀ c ∈ host, isAscii c = true := fun c hc =>
    isAscii_of_isVisible (isVisible_of_safeWith (by decide) (hsafe c hc))
  -- lower case leaves safe characters safe
  have hlower : ∀ c ∈ lower host, safeWith hostMarks c = true := by
    intro c hc
    rw [lower_of_ascii hascii] at hc
    obtain ⟨d, hd, rfl⟩ := List.mem_map.mp hc
    have hsafe' := hsafe d hd
    revert hsafe'
    exact ascii_forall d (of_decide_eq_true (hascii d hd)) (by decide +kernel)
  have hbracket : ¬ (host.head? = some '[' ∧ host.getLast? = some ']' ∧ 2 ≤ host.length) := by
    rintro ⟨hhead, _⟩
    exact absurd (hsafe '[' (List.mem_of_mem_head? hhead)) (by decide)
  rw [readHost, if_neg (by rwa [List.isEmpty_iff])] at h
  cases hnumeric : looksNumeric host with
  -- an address of version four is kept, which is its lower case
  | true =>
    rw [hnumeric, if_pos rfl] at h
    split at h
    · rw [lower_of_looksNumeric hnumeric]
      exact (Except.ok.inj h).symm
    · cases h
  | false =>
    rw [hnumeric, if_neg Bool.false_ne_true, if_neg hbracket, if_pos (List.all_eq_true.mpr hascii),
      percentEncode_of_forall hlower] at h
    exact (Except.ok.inj h).symm

/-- A host that is read again is the same, but for its case if it is a name. -/
theorem Formed.readHost (hu : u.Formed) (hhost : u.rawHost ≠ []) {written : Text}
    (h : readHost u.bracketedHost = .ok written) : written = u.refoldedHost := by
  rw [refoldedHost]
  rw [bracketedHost] at h
  cases hcolon : u.rawHost.contains ':' with
  | true =>
    rw [hcolon, if_pos rfl] at h
    exact readHost_address h
  | false =>
    rw [hcolon, if_neg Bool.false_ne_true] at h
    refine readHost_name hhost (hu.host.resolve_left ?_) h
    rintro ⟨haddress, _⟩
    rw [List.contains_iff_mem.mpr (colon_mem_of_isAddress6 haddress)] at hcolon
    exact Bool.noConfusion hcolon

/-- A port that is read again is the same, unless it is the default of the scheme. -/
theorem readPort_portDigits {scheme : Text} {port : Option Int} (h : readPort scheme u.portDigits = .ok port) :
    port = u.keptPort scheme := by
  rw [portDigits] at h
  rw [keptPort]
  cases hport : u.port with
  | none =>
    rw [hport] at h
    exact (Except.ok.inj h).symm
  | some n =>
    rw [hport] at h
    dsimp only at h
    rw [readPort, if_neg (by rw [List.isEmpty_iff]; exact decimalInt_ne_nil n)] at h
    split at h
    · cases h
    · -- the number of the digits is the one that was written
      rename_i m hread
      obtain rfl := eq_of_readInteger? hread
      rw [← Except.ok.inj h, Option.filter_some]
      split
      · rename_i hdefault
        rw [hdefault, bne_self_eq_false]
        rfl
      · rename_i hother
        rw [bne_iff_ne.mpr hother]
        rfl

/-! ## The form is kept

  Reading from parts gives the form back, whether the parts come from a text or from a URL that has it. -/

/-- A host that is cut off has no characters but those of the text and its bracket. -/
theorem isHostInner_of_mem_hostOf {s : Text} (hs : ∀ c ∈ s, isHostInner c = true) {c : Char}
    (h : c ∈ (hostOf s).1) : isHostInner c = true := by
  rcases mem_of_mem_hostOf h with hmem | rfl
  · exact hs c hmem
  · decide

/-- What follows the user information holds no mark of it. -/
theorem notMem_cutLast_snd (s : Text) : '@' ∉ (cutLast '@' s).2 := by
  by_cases hmem : '@' ∈ s
  · -- behind the last one there is none
    obtain ⟨before, after, hnot, rfl⟩ := exists_cutLast hmem
    rw [cutLast_append_mark hnot]
    exact hnot
  · rw [cutLast_of_notMem hmem]
    exact hmem

/-- A host that is cut out of an authority without delimiters has none itself. -/
theorem isHostInner_of_mem_cutAuthority {authority : Text} (h : ∀ c ∈ authority, isInner c = true) {c : Char}
    (hc : c ∈ (Url.cutAuthority authority).2.1) : isHostInner c = true := by
  have hafter : ∀ c ∈ (cutLast '@' authority).2, isHostInner c = true := by
    intro c hc
    rw [isHostInner, Bool.and_eq_true, bne_iff_ne]
    refine ⟨h c (mem_of_mem_cutLast_snd rfl hc), ?_⟩
    rintro rfl
    exact notMem_cutLast_snd authority hc
  rw [cutAuthority_eq] at hc
  exact isHostInner_of_mem_hostOf hafter hc

/-- A host that is read is an address of the characters that were written, or safe. -/
theorem safe_of_readHost {host written : Text} (hhost : ∀ c ∈ host, isHostInner c = true)
    (h : Url.readHost host = .ok written) :
    (isAddress6 written = true ∧ ∀ c ∈ written, isHostInner c = true) ∨ ∀ c ∈ written, safeWith hostMarks c = true := by
  -- names need no escapes
  have hname {c : Char} (hc : Idna.isNameChar c = true) : safeWith hostMarks c = true :=
    of_ascii_check (by decide +kernel) (fun _ => isVisible_of_isNameChar) hc
  cases readsHost_of_readHost h with
  | empty hempty => exact Or.inr (List.forall_mem_nil _)
  | address4 hnumeric haddress => exact Or.inr fun c hc => hname (isNameChar_of_isAddress4 haddress hc)
  | address6 haddress => exact Or.inl ⟨haddress, fun c hc => hhost c (mem_of_mem_inside hc)⟩
  | ascii hascii =>
    refine Or.inr fun c hc => ?_
    rcases safe_or_escape_of_mem_percentEncode hc with hsafe | ⟨b, hb⟩
    · exact hsafe
    · exact of_mem_percentByte (by decide) hb
  | name hencode => exact Or.inr fun c hc => hname (Idna.isNameChar_of_encode hencode hc)

/-- What is read from parts is of the form, if no delimiter and no control is in the authority. -/
theorem formed_of_ofCuts {cuts : Cuts} (h : ofCuts cuts = .ok u)
    (hscheme : cuts.scheme = [] ∨ isSchemeName cuts.scheme = true)
    (hauthority : ∀ c ∈ cuts.authority, isInner c = true) : u.Formed := by
  refine ⟨canonical_of_ofCuts h hscheme, ?_⟩
  exact safe_of_readHost (fun c => isHostInner_of_mem_cutAuthority hauthority) (readOff_of_ofCuts h).host

/-- What becomes of scheme and authority of a URL that are read again, with this scheme in front. -/
structure Rereads (u : Url) (front : Text) (v : Url) : Prop where
  formed : v.Formed
  scheme : v.scheme = lower front
  userinfo : v.userinfo = u.userinfo
  host : v.rawHost = u.refoldedHost
  port : v.port = u.keptPort front

/-- **An authority that is read again.** -/
theorem rereads_of_ofCuts {cuts : Cuts} (hu : u.Formed) (hhost : u.rawHost ≠ [])
    (hscheme : cuts.scheme = [] ∨ isSchemeName cuts.scheme = true) (hauthority : cuts.authority = u.authority)
    (h : ofCuts cuts = .ok v) : u.Rereads cuts.scheme v := by
  have hformed := formed_of_ofCuts h hscheme fun c hc => hu.isInner_of_mem_authority (hauthority ▸ hc)
  have huserinfo : percentEncode (printableExcept userinfoMarks) u.userinfo = u.userinfo :=
    percentEncode_of_forall hu.canonical.userinfo
  have hread := readOff_of_ofCuts h
  -- the parts are what they were, so each is read again as itself
  have hcut : Url.cutAuthority cuts.authority = (u.userinfo, u.bracketedHost, u.portDigits) :=
    hauthority ▸ hu.cutAuthority hhost
  have hkept := hread.userinfo
  have hhostRead := hread.host
  have hportRead := hread.port
  rw [hcut] at hkept hhostRead hportRead
  exact ⟨hformed, hread.scheme, hkept.trans huserinfo, hu.readHost hhost hhostRead, readPort_portDigits hportRead⟩

/-- A name in lower case is still a name. -/
theorem Formed.lower_name (hu : u.Formed) (hcolon : u.rawHost.contains ':' = false) :
    lower u.rawHost = u.rawHost.map Char.toLower ∧ (lower u.rawHost).contains ':' = false := by
  have hchars : ∀ c ∈ u.rawHost, isHostChar c = true := isHostChar_of_notMem hu.canonical fun hmem => by
    rw [List.contains_iff_mem.mpr hmem] at hcolon
    exact Bool.noConfusion hcolon
  have hlower : lower u.rawHost = u.rawHost.map Char.toLower :=
    lower_of_ascii fun c hc => isAscii_of_isVisible (isVisible_of_isHostChar (hchars c hc))
  refine ⟨hlower, ?_⟩
  rw [hlower, ← Bool.not_eq_true, List.contains_iff_mem]
  intro hmem
  obtain ⟨c, hc, hsame⟩ := List.mem_map.mp hmem
  have hne : (c.toLower != ':') = true :=
    of_ascii_check (q := fun c => c.toLower != ':') (by decide +kernel) (fun _ => isVisible_of_isHostChar) (hchars c hc)
  rw [hsame] at hne
  exact absurd hne (by decide)

theorem Rereads.host_ne_nil {front : Text} (h : u.Rereads front v) (hu : u.Formed) (hhost : u.rawHost ≠ []) :
    v.rawHost ≠ [] := by
  rw [h.host, refoldedHost]
  cases hcolon : u.rawHost.contains ':' with
  | true => exact hhost
  | false =>
    rw [if_neg Bool.false_ne_true, (hu.lower_name hcolon).1]
    exact mt List.map_eq_nil_iff.mp hhost

/-- Reading a host once more changes nothing further. -/
theorem Rereads.refoldedHost {front : Text} (h : u.Rereads front v) (hu : u.Formed) :
    v.refoldedHost = u.refoldedHost := by
  rw [Url.refoldedHost, h.host, Url.refoldedHost]
  cases hcolon : u.rawHost.contains ':' with
  | true => rw [if_pos rfl, if_pos hcolon]
  | false => rw [if_neg Bool.false_ne_true, (hu.lower_name hcolon).2, if_neg Bool.false_ne_true, lower_lower]

/-! ## Every URL is of the form

  An invariant and its induction: reading a text establishes the form, and following a location keeps it. -/

/-- The authority behind two slashes, and what follows it. -/
def cutSlashes (s : Text) : Text × Text :=
  match s with
  | '/' :: '/' :: r => (r.takeWhile fun c => !endsAuthority c, r.dropWhile fun c => !endsAuthority c)
  | s => ([], s)

theorem cutText_eq (s : Text) : cutText s =
    { scheme := (cutScheme s).1
      authority := (cutSlashes (cutScheme s).2).1
      path := (cut '?' (cut '#' (cutSlashes (cutScheme s).2).2).1).1
      query := (cut '?' (cut '#' (cutSlashes (cutScheme s).2).2).1).2
      fragment := (cut '#' (cutSlashes (cutScheme s).2).2).2 } := rfl

/-- What is cut off as an authority does not hold its own end. -/
theorem not_endsAuthority_of_mem_cutSlashes {s : Text} {c : Char} (h : c ∈ (cutSlashes s).1) :
    endsAuthority c = false := by
  unfold cutSlashes at h
  split at h
  · have hends := List.mem_takeWhile_imp h
    rwa [Bool.not_eq_true'] at hends
  · exact absurd h List.not_mem_nil

theorem formed_of_read {s : Text} (h : read s = .ok u) : u.Formed := by
  obtain ⟨hprintable, hcuts⟩ := of_read h
  refine formed_of_ofCuts hcuts (scheme_cutText s) fun c hc => ?_
  have hends : endsAuthority c = false := not_endsAuthority_of_mem_cutSlashes hc
  rw [isInner, hends, hprintable c (mem_of_mem_authority hc)]
  rfl

theorem formed_of_resolve? {location : Text} (h : u.resolve? location = some v) : v.Formed := by
  obtain ⟨joined, hread⟩ := exists_read_of_resolve? h
  exact formed_of_read hread

/-- A URL that comes about: read from a text, or resolved against one that came about. -/
inductive Known : Url → Prop
  | parsed {s : Text} {u : Url} (h : parse s = .ok u) : Known u
  | joined {base u : Url} {location : Text} (hbase : Known base) (h : join base location = .ok u) : Known u

/-- **Following a location keeps the form.** -/
theorem formed_of_join {location : Text} (hu : u.Formed) (h : join u location = .ok v) : v.Formed := by
  rcases join_cases h with ⟨_, hresolve⟩ | ⟨_, ⟨hread, _⟩ | ⟨_, joined, _, hjoined, hback⟩⟩
  · exact formed_of_resolve? hresolve
  · exact formed_of_read hread
  · -- the scheme is put back in front of parts of a URL that is of the form
    have hformed := formed_of_resolve? hjoined
    exact formed_of_ofCuts (of_withScheme hback) (hu.canonical.scheme.imp_right And.left)
      fun c hc => hformed.isInner_of_mem_authority hc

/-- **Every URL that comes about is of the form.** -/
theorem formed_of_known (h : u.Known) : u.Formed := by
  induction h with
  | parsed h => exact formed_of_read (read_of_parse h)
  | joined _ h ih => exact formed_of_join ih h

end Url

end Courier
