/-
  The text of a URL.

  A URL in canonical form with a scheme and a host is written so that it can be cut again, if its host is no address
  of version six (`Url.Plain`).  Nothing in scheme and authority looks like a delimiter, so both stand where they
  were put, and what comes behind them ends the authority.

  1. **The shape** (`Url.text_eq`, `Url.stops_tail`): scheme, colon, two slashes, authority, and then path, query
     and fragment, of which the first that is there begins with a slash, a question mark or a number sign.

  2. **Characters**: those of a scheme, those of an authority (`Url.isAuthorityChar_of_mem_authority`) and the
     visible ones of everything else.  User information and port are in here too, so that a text with both is cut at
     the right places.

  3. **Located texts** (`Url.Located`): scheme and authority in front, an end of the authority behind them if
     anything, and no blanks.  The text of the URL is located (`Url.located_text`), and so is what is left of it
     before any of its number signs (`Url.Located.before`).  The second is needed because following a location takes
     the fragment of the base away at a number sign, and the text is cut only then.

  4. **Cutting**: a located text is not changed by the cleaning that comes first (`Url.cleanText_of_visible`),
     passes the checks of brackets and of compatibility, and is split at the authority that was put in
     (`Url.Located.split`).
-/
import Courier.Proofs.Url.Canonical

namespace Courier

namespace Url

/-! ## Parts

  The text of a URL, with the part behind the authority in one piece. -/

/-- Nothing, or what begins with the end of an authority. -/
def Stops (t : Text) : Prop := ∀ c ∈ t.head?, endsAuthority c = true

/-- An authority is read up to its end. -/
theorem takeWhile_authority {authority t : Text} (h : ∀ c ∈ authority, endsAuthority c = false) (ht : Stops t) :
    (authority ++ t).takeWhile (fun c => !endsAuthority c) = authority := by
  rw [List.takeWhile_append_of_pos fun c hc => by rw [h c hc]; rfl]
  cases t with
  | nil => exact List.append_nil _
  | cons c rest =>
    rw [List.takeWhile_cons_of_neg (by rw [ht c rfl]; decide), List.append_nil]

/-- A part that may be absent, behind its mark. -/
def marked (mark : Char) : Option Text → Text
  | none => []
  | some s => mark :: s

/-- What follows the authority. -/
def tail (u : Url) : Text := u.path ++ marked '?' u.query ++ marked '#' u.fragment

variable {u : Url}

/-- With a host there is an authority. -/
theorem authority_ne_nil (hhost : u.rawHost ≠ []) : u.authority ≠ [] := by
  have hbracketed : u.bracketedHost ≠ [] := by
    rw [bracketedHost]
    split
    · exact List.cons_ne_nil _ _
    · exact hhost
  rw [authority, hostAndPort]
  exact fun h => hbracketed (List.append_eq_nil_iff.mp (List.append_eq_nil_iff.mp h).2).1

/-- **The text of a URL** with a host, with everything behind the authority in one piece. -/
theorem text_eq_of_host (hhost : u.rawHost ≠ []) :
    u.text = (if u.scheme.isEmpty then [] else u.scheme ++ [':']) ++ '/' :: '/' :: (u.authority ++ u.tail) := by
  have hassoc (front query fragment : Text) :
      front ++ '/' :: '/' :: u.authority ++ u.path ++ query ++ fragment =
        front ++ '/' :: '/' :: (u.authority ++ (u.path ++ query ++ fragment)) := by
    simp only [List.append_assoc, List.cons_append]
  rw [Url.text, List.isEmpty_eq_false_iff.mpr (authority_ne_nil hhost)]
  exact hassoc _ _ _

/-- With a scheme, its colon stands in front of the slashes. -/
theorem text_eq (hscheme : u.scheme ≠ []) (hhost : u.rawHost ≠ []) :
    u.text = u.scheme ++ ':' :: '/' :: '/' :: (u.authority ++ u.tail) := by
  rw [text_eq_of_host hhost, List.isEmpty_eq_false_iff.mpr hscheme, if_neg Bool.false_ne_true, List.append_assoc,
    List.singleton_append]

/-- A path that is empty or begins with a slash ends the authority, if what comes behind it does. -/
theorem stops_append {path rest : Text} (hpath : Rooted path) (hrest : Stops rest) : Stops (path ++ rest) := by
  rcases hpath with rfl | hslash
  · exact hrest
  · intro c hc
    rw [List.head?_append, hslash] at hc
    obtain rfl := Option.some.inj hc
    rfl

/-- What comes behind the authority ends it. -/
theorem stops_tail (h : Rooted u.path) : Stops u.tail := by
  rw [tail, List.append_assoc]
  refine stops_append h ?_
  -- without a path, the marks of query and fragment end it
  cases u.query with
  | some q => exact fun c hc => Option.some.inj hc ▸ rfl
  | none =>
    cases u.fragment with
    | some f => exact fun c hc => Option.some.inj hc ▸ rfl
    | none => exact nofun

/-! ## Characters

  Which characters stand in which part, as far as the cuts depend on it. -/

theorem isUnprintableAscii_of_isVisible {c : Char} (h : isVisible c = true) : isUnprintableAscii c = false := by
  rw [isVisible_iff] at h
  rw [isUnprintableAscii, Bool.or_eq_false_iff, decide_eq_false_iff_not, beq_eq_false_iff_ne]
  omega

/-- A character that authorities hold. -/
def isAuthorityChar (c : Char) : Bool := isVisible c && !"/?#[]".toList.contains c

theorem bracketedHost_of_plain (hplain : ∀ c ∈ u.rawHost, isHostChar c = true) : u.bracketedHost = u.rawHost := by
  rw [bracketedHost, if_neg]
  intro hmem
  exact absurd (hplain _ (List.contains_iff_mem.mp hmem)) (by decide)

/-- A port is written with digits, and with a sign at most. -/
theorem isAuthorityChar_of_mem_decimalInt {n : Int} {c : Char} (h : c ∈ decimalInt n) : isAuthorityChar c = true := by
  have hdigit {n : Nat} {c : Char} (hc : c ∈ decimal n) : isAuthorityChar c = true :=
    of_ascii_check (by decide +kernel) (fun _ => isVisible_of_isDigit) (isDigit_of_mem_decimal hc)
  cases n with
  | ofNat n => exact hdigit h
  | negSucc n =>
    rcases List.mem_cons.mp h with rfl | h
    · decide
    · exact hdigit h

/-- **No delimiter in an authority**: not in user information, where it is escaped, nor in host and port. -/
theorem isAuthorityChar_of_mem_authority (hu : u.Canonical) (hplain : ∀ c ∈ u.rawHost, isHostChar c = true) {c : Char}
    (h : c ∈ u.authority) : isAuthorityChar c = true := by
  rw [authority, hostAndPort, bracketedHost_of_plain hplain, portText] at h
  rcases List.mem_append.mp h with h | h
  · -- user information and its mark, if there is any
    split at h
    · exact absurd h List.not_mem_nil
    · rcases List.mem_append.mp h with h | h
      · exact of_ascii_check (by decide +kernel) (fun _ => isVisible_of_printableExcept) (hu.userinfo c h)
      · rw [List.mem_singleton.mp h]
        decide
  · -- host, colon and port
    rcases List.mem_append.mp h with h | h
    · exact of_ascii_check (by decide +kernel) (fun _ => isVisible_of_isHostChar) (hplain c h)
    · split at h
      · exact absurd h List.not_mem_nil
      · rcases List.mem_cons.mp h with rfl | h
        · decide
        · exact isAuthorityChar_of_mem_decimalInt h

/-- A scheme in canonical form is made of characters of schemes. -/
theorem isSchemeChar_of_mem_scheme (hu : u.Canonical) {c : Char} (h : c ∈ u.scheme) : isSchemeChar c = true := by
  rcases hu.scheme with hempty | ⟨hname, _⟩
  · rw [hempty] at h
    exact absurd h List.not_mem_nil
  · exact isSchemeChar_of_mem hname h

theorem mem_or_of_mem_marked {mark c : Char} {part : Option Text} (h : c ∈ marked mark part) :
    c = mark ∨ c ∈ part.getD [] := by
  cases part with
  | none => exact absurd h List.not_mem_nil
  | some s => exact List.mem_cons.mp h

/-- Path, query and fragment can be seen. -/
theorem isVisible_of_mem_tail (hu : u.Canonical) {c : Char} (h : c ∈ u.tail) : isVisible c = true := by
  rw [tail] at h
  rcases List.mem_append.mp h with h | h
  · rcases List.mem_append.mp h with h | h
    · exact isVisible_of_printableExcept (hu.path c h)
    · rcases mem_or_of_mem_marked h with rfl | h
      · decide
      · exact isVisible_of_printableExcept (hu.query c h)
  · rcases mem_or_of_mem_marked h with rfl | h
    · decide
    · exact isVisible_of_printableExcept (hu.fragment c h)

/-! ## Scheme and authority in front

  A text in front of which scheme and authority stand as they were written, and which may have been cut off behind
  them. -/

/-- A URL with a scheme and a host whose characters are no delimiters. -/
structure Plain (u : Url) : Prop where
  canonical : u.Canonical
  scheme : u.scheme ≠ []
  host : u.rawHost ≠ []
  chars : ∀ c ∈ u.rawHost, isHostChar c = true

/-- A URL is written without blanks and controls. -/
theorem isVisible_of_mem_text (hu : u.Plain) {c : Char} (h : c ∈ u.text) : isVisible c = true := by
  have hslash : isVisible ':' = true ∧ isVisible '/' = true := by decide
  rw [text_eq hu.scheme hu.host] at h
  rcases List.mem_append.mp h with h | h
  · exact isVisible_of_isSchemeChar (isSchemeChar_of_mem_scheme hu.canonical h)
  · simp only [List.mem_cons, List.mem_append] at h
    rcases h with rfl | rfl | rfl | h | h
    · exact hslash.1
    · exact hslash.2
    · exact hslash.2
    · exact (Bool.and_eq_true_iff.mp (isAuthorityChar_of_mem_authority hu.canonical hu.chars h)).1
    · exact isVisible_of_mem_tail hu.canonical h

/-- Scheme and authority in front of a text, an end of the authority behind them if anything, and no blank in it. -/
structure Located (u : Url) (s : Text) : Prop where
  shape : ∃ t, s = u.scheme ++ ':' :: '/' :: '/' :: (u.authority ++ t) ∧ Stops t
  visible : ∀ c ∈ s, isVisible c = true

theorem isHostChar_of_notMem (hu : u.Canonical) (hcolon : ':' ∉ u.rawHost) : ∀ c ∈ u.rawHost, isHostChar c = true :=
  hu.host.resolve_left fun haddress => hcolon (colon_mem_of_isAddress6 haddress)

variable {s : Text}

/-- The text of a URL has its scheme and its authority in front. -/
theorem located_text (hu : u.Plain) : u.Located u.text :=
  ⟨⟨u.tail, text_eq hu.scheme hu.host, stops_tail (hu.canonical.rooted hu.host)⟩,
    fun _ => isVisible_of_mem_text hu⟩

theorem scheme_of_plain (hu : u.Plain) : isSchemeName u.scheme = true ∧ lower u.scheme = u.scheme :=
  hu.canonical.scheme.resolve_left hu.scheme

/-- What is left before a number sign is located as well. -/
theorem Located.before (hu : u.Plain) {before after : Text} (h : u.Located (before ++ '#' :: after)) :
    u.Located before := by
  refine ⟨?_, fun c hc => h.visible c (List.mem_append_left _ hc)⟩
  obtain ⟨t, hshape, hstops⟩ := h.shape
  -- no number sign in scheme, delimiters and authority
  have hfront : '#' ∉ u.scheme ++ ':' :: '/' :: '/' :: u.authority := by
    intro hmem
    rcases List.mem_append.mp hmem with hmem | hmem
    · exact absurd (isSchemeChar_of_mem_scheme hu.canonical hmem) (by decide)
    · rcases List.mem_cons.mp hmem with hmem | hmem
      · exact absurd hmem (by decide)
      · rcases List.mem_cons.mp hmem with hmem | hmem
        · exact absurd hmem (by decide)
        · rcases List.mem_cons.mp hmem with hmem | hmem
          · exact absurd hmem (by decide)
          · exact absurd (isAuthorityChar_of_mem_authority hu.canonical hu.chars hmem) (by decide)
  have hsplit : before ++ '#' :: after = (u.scheme ++ ':' :: '/' :: '/' :: u.authority) ++ t := by
    rw [hshape, List.append_assoc]
    rfl
  rcases List.append_eq_append_iff.mp hsplit with ⟨rest, hrest, ht⟩ | ⟨rest, hrest, ht⟩
  · -- the number sign would stand in scheme or authority, or right behind them
    cases rest with
    | nil =>
      rw [List.append_nil] at hrest
      exact ⟨[], by rw [List.append_nil, ← hrest], nofun⟩
    | cons c rest =>
      obtain ⟨rfl, _⟩ := List.cons.inj ht
      rw [hrest] at hfront
      exact absurd (List.mem_append_right _ (List.mem_cons_self ..)) hfront
  · refine ⟨rest, by rw [hrest, List.append_assoc]; rfl, fun c hc => hstops c ?_⟩
    rw [ht, List.head?_append, hc]
    rfl

/-- Where a located text is cut. -/
theorem Located.scheme (hu : u.Plain) (h : u.Located s) :
    (s.takeWhile fun c => c != '/' && c != ':') = u.scheme ∧
      ∃ t, s.drop u.scheme.length = ':' :: '/' :: '/' :: (u.authority ++ t) ∧ Stops t := by
  obtain ⟨t, rfl, hstops⟩ := h.shape
  constructor
  · rw [List.takeWhile_append_of_pos, List.takeWhile_cons_of_neg (by decide), List.append_nil]
    intro c hc
    have hc := isSchemeChar_of_mem_scheme hu.canonical hc
    rw [Bool.and_eq_true, bne_iff_ne, bne_iff_ne]
    constructor
    · rintro rfl
      exact absurd hc (by decide)
    · rintro rfl
      exact absurd hc (by decide)
  · exact ⟨t, List.drop_left, hstops⟩

/-- A text without line controls, and without a blank in front, is clean. -/
theorem cleanText_of_clean (hfirst : ∀ c ∈ s.head?, isControlOrSpace c = false)
    (h : ∀ c ∈ s, isUnprintableAscii c = false) : cleanText s = s := by
  have hdrop : s.dropWhile isControlOrSpace = s := by
    cases s with
    | nil => rfl
    | cons c rest => rw [List.dropWhile_cons_of_neg (by rw [hfirst c rfl]; exact Bool.false_ne_true)]
  rw [cleanText, hdrop, List.filter_eq_self]
  intro c hc
  have hprintable := h c hc
  rw [isLineControl, Bool.not_eq_true', Bool.or_eq_false_iff, Bool.or_eq_false_iff, beq_eq_false_iff_ne,
    beq_eq_false_iff_ne, beq_eq_false_iff_ne]
  refine ⟨⟨?_, ?_⟩, ?_⟩
  all_goals
    rintro rfl
    exact absurd hprintable (by decide)

/-- There is nothing to clean in a text without blanks and controls. -/
theorem cleanText_of_visible (h : ∀ c ∈ s, isVisible c = true) : cleanText s = s := by
  refine cleanText_of_clean (fun c hc => ?_) fun c hc => isUnprintableAscii_of_isVisible (h c hc)
  have hhigh := (isVisible_iff.mp (h c (List.mem_of_mem_head? hc))).1
  rw [isControlOrSpace, decide_eq_false_iff_not]
  omega

/-! ## Splitting

  The checks that splitting makes of an authority are passed by one that holds neither brackets nor characters
  outside ASCII. -/

/-- The scheme is split off at its colon. -/
theorem splitScheme_append (hu : u.Plain) (t : Text) :
    splitScheme [] (u.scheme ++ ':' :: t) = (u.scheme.map Char.toLower, t) := by
  have hname := (scheme_of_plain hu).1
  rw [splitScheme, cut_append_mark (colon_notMem_of_isSchemeName hname)]
  exact if_pos hname

/-- No character that an authority does not hold is in one. -/
theorem contains_authority (hu : u.Plain) {d : Char} (hd : isAuthorityChar d = false) :
    u.authority.contains d = false := by
  rw [← Bool.not_eq_true, List.contains_iff_mem]
  intro hmem
  rw [isAuthorityChar_of_mem_authority hu.canonical hu.chars hmem] at hd
  exact Bool.noConfusion hd

theorem checkBrackets_authority (hu : u.Plain) : checkBrackets u.authority = .ok () := by
  rw [checkBrackets, contains_authority hu (by decide), contains_authority hu (by decide)]

/-- An authority in ASCII is compatible with itself. -/
theorem checkCompatibility_authority (hu : u.Plain) : checkCompatibility u.authority = .ok () := by
  rw [checkCompatibility, if_pos]
  refine List.all_eq_true.mpr fun c hc => isAscii_of_isVisible ?_
  exact (Bool.and_eq_true_iff.mp (isAuthorityChar_of_mem_authority hu.canonical hu.chars hc)).1

/-- A located text is split into its authority and other parts. -/
theorem Located.split (hu : u.Plain) (h : u.Located s) :
    ∃ parts, Url.split [] s = .ok parts ∧ parts.authority = u.authority := by
  have hclean := cleanText_of_visible h.visible
  obtain ⟨t, rfl, hstops⟩ := h.shape
  have hauthority : (u.authority ++ t).takeWhile (fun c => !endsAuthority c) = u.authority := by
    refine takeWhile_authority (fun c hc => ?_) hstops
    rw [← Bool.not_eq_true, endsAuthority, Bool.or_eq_true, Bool.or_eq_true, beq_iff_eq, beq_iff_eq, beq_iff_eq]
    rintro ((rfl | rfl) | rfl)
    all_goals exact absurd (isAuthorityChar_of_mem_authority hu.canonical hu.chars hc) (by decide)
  let rest := (u.authority ++ t).dropWhile fun c => !endsAuthority c
  refine ⟨{
    scheme := u.scheme.map Char.toLower
    authority := u.authority
    path := (cut '?' (cut '#' rest).1).1
    query := (cut '?' (cut '#' rest).1).2.getD []
    fragment := (cut '#' rest).2.getD [] }, ?_, rfl⟩
  rw [Url.split, hclean, splitScheme_append hu]
  simp only [hauthority, checkBrackets_authority hu, checkCompatibility_authority hu]
  rfl

end Url

end Courier
