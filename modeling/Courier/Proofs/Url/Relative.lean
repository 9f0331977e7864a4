/-
  Locations without a scheme and without an authority.

  A location of this kind names no host, so following it should lead to the origin of the base.  It does, but for a
  port and for the case of a host, and the theorem says exactly for which bases (`Url.join_relative`).

  1. **The location** (`Url.IsRelative`, `Url.Bare`): it is read into a URL of nothing but path, query and fragment,
     and the text of that URL has no scheme and no authority either.  The crux is that percent coding makes up
     neither: it puts a percent sign where it puts anything, and none stands in a scheme or in two slashes
     (`Url.front_of_percentEncode`, by induction over the text, with what stands in front of it growing shorter with
     it).

  2. **Two grammars**: a URL is read by one grammar and references are resolved by another, and the two do not agree
     on every text.  Texts with scheme and authority in front are cut alike by both (`Url.Heads`, `Url.Heads.cut`),
     and so are those with neither.

  3. **Resolving** (`Url.heads_of_resolveText`): the rules of references take scheme and authority from the base,
     and what is left of them is what is left when they are read again (`Url.rereads_of_resolve?`), once for a
     scheme that the rules know (`Url.inherits_of_resolve?`) and three times for one that they do not
     (`Url.inherits_of_borrowed`).

  4. **The origin** (`Url.Inherits`, `Url.Settled`): what can change is the port and the case of the host.  A port
     goes when it is the default of the scheme that the rules work with, which is `http` for a scheme that they do
     not know.  A base that loses neither keeps its origin, every other base loses it, and after one hop there is
     nothing left to lose (`Url.Inherits.settled`).

  A single colon in front of a location counts for nothing when the location is read (`Url.IsRelative.cutScheme`),
  so what is relative is asked of the text behind it.  A host behind that colon is a host all the same
  (`Url.host_behind_colon`).
-/
import Courier.Proofs.Url.Reread

namespace Courier

namespace Url

variable {base u v : Url} {location : Text}

/-! ## Relative locations

  Which locations are meant, and that this can be decided, so that concrete ones are checked by computation. -/

/-- The text behind a colon that it may begin with. -/
def afterColon : Text → Text
  | ':' :: rest => rest
  | s => s

/-- No scheme in front of a text. -/
def Unnamed (s : Text) : Prop := ∀ name rest, s = name ++ ':' :: rest → isSchemeName name = false

/-- A location without a scheme and without an authority, also behind a colon.

    This leaves out the locations that begin with a colon and name a host behind it, `://h/x` and `:http://h/x`.  Read as
    text they have no scheme and no authority, but a base does not keep its origin over them: see
    `host_behind_colon`. -/
structure IsRelative (location : Text) : Prop where
  scheme : Unnamed (afterColon location)
  slashes : ¬ ['/', '/'] <+: afterColon location

/-- A text begins with a colon, or is the same behind it. -/
theorem afterColon_cases (s : Text) :
    (∃ rest, s = ':' :: rest ∧ afterColon s = rest) ∨ (∀ rest, s ≠ ':' :: rest) ∧ afterColon s = s := by
  unfold afterColon
  split
  · rename_i rest
    exact Or.inl ⟨rest, rfl, rfl⟩
  · rename_i hcolon
    exact Or.inr ⟨hcolon, rfl⟩

/-- The first colon decides. -/
theorem unnamed_iff {s : Text} : Unnamed s ↔ ((cut ':' s).2.isSome → isSchemeName (cut ':' s).1 = false) := by
  rcases hcut : cut ':' s with ⟨name, rest?⟩
  constructor
  · intro h hsome
    obtain ⟨rest, rfl⟩ := Option.isSome_iff_exists.mp hsome
    exact h name rest (cut_eq_some hcut)
  · intro h front behind hs
    rw [← Bool.not_eq_true]
    intro hfront
    -- a scheme holds no colon, so this colon is the first
    rw [hs, cut_append_mark (colon_notMem_of_isSchemeName hfront)] at hcut
    obtain ⟨rfl, rfl⟩ := Prod.mk.inj hcut
    rw [h rfl] at hfront
    exact Bool.noConfusion hfront

instance (s : Text) : Decidable (Unnamed s) := decidable_of_iff _ unnamed_iff.symm

instance (location : Text) : Decidable (IsRelative location) :=
  decidable_of_iff (Unnamed (afterColon location) ∧ ¬ ['/', '/'] <+: afterColon location)
    ⟨fun h => ⟨h.1, h.2⟩, fun h => ⟨h.scheme, h.slashes⟩⟩

/-- Without a scheme and a colon in front nothing is cut off. -/
theorem cutScheme_of_not_named {s : Text} (hcolon : ∀ rest, s ≠ ':' :: rest) (h : Unnamed s) :
    cutScheme s = ([], s) := by
  rw [cutScheme]
  rcases hcut : cut ':' s with ⟨name, _ | rest⟩
  · rfl
  · have hs := cut_eq_some hcut
    have hname : (name.isEmpty || isSchemeName name) = false := by
      rw [h name rest hs, Bool.or_false, ← Bool.not_eq_true, List.isEmpty_iff]
      rintro rfl
      exact hcolon rest hs
    dsimp only
    rw [hname]
    rfl

/-- The lenient grammar leaves such a text alone as well, and gives it a scheme. -/
theorem splitScheme_of_not_named {s : Text} (h : Unnamed s) (given : Text) : splitScheme given s = (given, s) := by
  rw [splitScheme]
  rcases hcut : cut ':' s with ⟨name, _ | rest⟩
  · rfl
  · have hname : (name.head?.any Char.isAlpha && name.all isSchemeChar) = false := h name rest (cut_eq_some hcut)
    dsimp only
    rw [hname]
    rfl

/-- **A relative location has no scheme to be cut off**, and loses a colon in front. -/
theorem IsRelative.cutScheme (h : IsRelative location) : cutScheme location = ([], afterColon location) := by
  rcases afterColon_cases location with ⟨rest, rfl, hafter⟩ | ⟨hcolon, hafter⟩
  · -- an empty name is no scheme, but its colon is gone
    have hcut : cut ':' (':' :: rest) = ([], some rest) := cut_append_mark List.not_mem_nil rest
    rw [hafter, Url.cutScheme, hcut]
    rfl
  · rw [hafter]
    exact cutScheme_of_not_named hcolon (hafter ▸ h.scheme)

theorem cutSlashes_of_not_prefix {s : Text} (h : ¬ ['/', '/'] <+: s) : cutSlashes s = ([], s) := by
  unfold cutSlashes
  split
  · exact absurd (List.prefix_append ['/', '/'] _) h
  · rfl

/-! ## What a location is read into

  A bare URL is what is left of a relative location when it was read.  Its text begins neither with a scheme nor
  with two slashes, and for both it is shown that the location itself would have begun so. -/

/-- A text without percent signs in front of an encoded text stood in front of it before. -/
theorem front_of_percentEncode {safe : Char → Bool} {front s : Text} (hfront : '%' ∉ front)
    (h : front <+: percentEncode safe s) : front <+: s := by
  induction s generalizing front with
  | nil => exact h
  | cons c rest ih =>
    cases front with
    | nil => exact List.nil_prefix
    | cons d front =>
      rw [percentEncode, List.flatMap_cons] at h
      cases hsafe : safe c with
      -- a safe character stands for itself
      | true =>
        rw [hsafe, if_pos rfl, List.singleton_append, List.cons_prefix_cons] at h
        rw [List.cons_prefix_cons]
        exact ⟨h.1, ih (fun hmem => hfront (List.mem_cons_of_mem _ hmem)) h.2⟩
      | false =>
        -- an escape begins with a percent sign
        obtain ⟨b, more, hchar⟩ := exists_cons_of_utf8Char c
        rw [hsafe, if_neg Bool.false_ne_true, hchar, List.flatMap_cons, percentByte, List.cons_append,
          List.cons_append, List.cons_prefix_cons] at h
        exact absurd (h.1 ▸ List.mem_cons_self ..) hfront

/-- What stands in front of path, query and fragment, and holds no mark of the last two, stands in front of the path. -/
theorem prefix_path_of_prefix_tail {front : Text} (hquery : '?' ∉ front) (hfragment : '#' ∉ front)
    (h : front <+: u.tail) : front <+: u.path := by
  rw [tail, List.append_assoc] at h
  rcases List.prefix_or_prefix_of_prefix h (List.prefix_append u.path _) with hpath | ⟨more, hmore⟩
  · exact hpath
  · cases more with
    | nil =>
      rw [List.append_nil] at hmore
      exact hmore ▸ List.prefix_rfl
    | cons c more =>
      -- the next character would be a mark
      rw [← hmore, List.prefix_append_right_inj] at h
      have hmem : c ∈ front := hmore ▸ List.mem_append_right _ (List.mem_cons_self ..)
      have hmark : c = '?' ∨ c = '#' := by
        cases hq : u.query with
        | some q =>
          rw [hq, marked, List.cons_append, List.cons_prefix_cons] at h
          exact Or.inl h.1
        | none =>
          cases hf : u.fragment with
          | some f =>
            rw [hq, hf, marked, marked, List.nil_append, List.cons_prefix_cons] at h
            exact Or.inr h.1
          | none =>
            rw [hq, hf] at h
            exact absurd (List.prefix_nil.mp h) (List.cons_ne_nil _ _)
      rcases hmark with rfl | rfl
      · exact absurd hmem hquery
      · exact absurd hmem hfragment

/-- What a relative location is read into: path, query and fragment, and nothing in front of them that could be taken
    for more. -/
structure Bare (u : Url) : Prop where
  canonical : u.Canonical
  text : u.text = u.tail
  host : u.rawHost = []
  scheme : Unnamed u.tail
  slashes : ¬ ['/', '/'] <+: u.tail

/-- **What a relative location is read into** is bare: coding its parts puts nothing in front of them. -/
theorem bare_of_read (h : IsRelative location) (hread : read location = .ok u) : u.Bare := by
  obtain ⟨_, hcuts⟩ := of_read hread
  have hcanonical := canonical_of_ofCuts hcuts (scheme_cutText location)
  rw [cutText_eq, h.cutScheme, cutSlashes_of_not_prefix h.slashes] at hcuts
  have hfront : (cut '?' (cut '#' (afterColon location)).1).1 <+: afterColon location :=
    (List.takeWhile_prefix _).trans (List.takeWhile_prefix _)
  -- nothing but the path, up to a question mark or a number sign, is in front
  have hparts : u.scheme = [] ∧ u.userinfo = [] ∧ u.rawHost = [] ∧ u.port = none ∧
      u.path = percentEncode (printableExcept pathMarks) (cut '?' (cut '#' (afterColon location)).1).1 := by
    obtain ⟨rawHost, hhost, hcuts⟩ := exists_of_bind_eq_ok hcuts
    obtain ⟨port, hport, hcuts⟩ := exists_of_bind_eq_ok hcuts
    obtain rfl := Except.ok.inj hhost
    obtain rfl := Except.ok.inj hport
    obtain ⟨_, _, hcuts⟩ := exists_of_bind_eq_ok hcuts
    obtain rfl := Except.ok.inj hcuts
    exact ⟨rfl, rfl, rfl, rfl, rfl⟩
  obtain ⟨hscheme, huserinfo, hhost, hport, hpath⟩ := hparts
  -- what stands in front of the text stood in front of the location
  have hlocation {front : Text} (hpercent : '%' ∉ front) (hquery : '?' ∉ front) (hfragment : '#' ∉ front)
      (hstart : front <+: u.tail) : front <+: afterColon location := by
    have hbefore := prefix_path_of_prefix_tail hquery hfragment hstart
    rw [hpath] at hbefore
    exact (front_of_percentEncode hpercent hbefore).trans hfront
  refine ⟨hcanonical, ?_, hhost, ?_, ?_⟩
  · have hauthority : u.authority = [] := by
      rw [authority, hostAndPort, bracketedHost, portText, huserinfo, hhost, hport]
      rfl
    rw [Url.text, hscheme, hauthority]
    rfl
  · -- a scheme in front of the text would have been one of the location
    intro name rest htail
    rw [← Bool.not_eq_true]
    intro hname
    have hchars {c : Char} (hc : isSchemeChar c = false) (hcolon : c ≠ ':') : c ∉ name ++ [':'] := by
      intro hmem
      rcases List.mem_append.mp hmem with hmem | hmem
      · rw [isSchemeChar_of_mem hname hmem] at hc
        exact Bool.noConfusion hc
      · exact hcolon (List.mem_singleton.mp hmem)
    have hstart : name ++ [':'] <+: u.tail := ⟨rest, by rw [htail, List.append_assoc]; rfl⟩
    obtain ⟨more, hmore⟩ := hlocation (hchars (by decide) (by decide)) (hchars (by decide) (by decide))
      (hchars (by decide) (by decide)) hstart
    have hnot := h.scheme name more (by rw [← hmore, List.append_assoc]; rfl)
    rw [hname] at hnot
    exact Bool.noConfusion hnot
  · exact fun hstart => h.slashes (hlocation (by decide) (by decide) (by decide) hstart)

/-! ## Scheme and authority in front

  The text of any URL with a host has this shape, and so has what a reference means.  From the shape alone both
  grammars find the same scheme and the same authority. -/

/-- Scheme and authority in front of a text, and the end of the authority behind them if anything. -/
def Heads (scheme authority s : Text) : Prop :=
  ∃ t, s = (if scheme.isEmpty then [] else scheme ++ [':']) ++ '/' :: '/' :: (authority ++ t) ∧ Stops t

/-- A scheme as it stands in a URL. -/
def IsScheme (scheme : Text) : Prop := scheme = [] ∨ isSchemeName scheme = true ∧ lower scheme = scheme

variable {scheme authority s : Text}

/-- Schemes are ASCII, so putting them in lower case is a matter of each character. -/
theorem map_toLower_of_isSchemeName (h : isSchemeName scheme = true) : scheme.map Char.toLower = lower scheme :=
  (lower_of_ascii fun _ hc =>
    isAscii_of_isVisible (isVisible_of_isSchemeChar (isSchemeChar_of_mem h hc))).symm

theorem unnamed_of_slash (t : Text) : Unnamed ('/' :: t) := by
  intro name rest hs
  cases name with
  | nil => exact absurd (List.cons.inj hs).1 (by decide)
  | cons c name =>
    obtain ⟨rfl, _⟩ := List.cons.inj hs
    rfl

/-- Both grammars find scheme and authority again. -/
theorem Heads.cut (h : Heads scheme authority s) (hscheme : IsScheme scheme) :
    ∃ t, cutScheme s = (scheme, '/' :: '/' :: (authority ++ t)) ∧
      splitScheme [] s = (scheme, '/' :: '/' :: (authority ++ t)) ∧ Stops t := by
  obtain ⟨t, rfl, hstops⟩ := h
  refine ⟨t, ?_⟩
  -- without a scheme, the two slashes are in front, and with one, its colon is the first
  rcases hscheme with rfl | ⟨hname, hlower⟩
  · have hunnamed := unnamed_of_slash ('/' :: (authority ++ t))
    refine ⟨cutScheme_of_not_named (fun rest hs => ?_) hunnamed, splitScheme_of_not_named hunnamed [], hstops⟩
    exact absurd (List.cons.inj hs).1 (by decide)
  · have hne : scheme.isEmpty = false := by
      cases scheme with
      | nil => cases hname
      | cons c rest => rfl
    have hmark := colon_notMem_of_isSchemeName hname
    rw [hne, if_neg Bool.false_ne_true, List.append_assoc, List.singleton_append]
    refine ⟨?_, ?_, hstops⟩
    · rw [cutScheme, cut_append_mark hmark]
      dsimp only
      rw [hname, Bool.or_true, if_pos rfl]
    · rw [splitScheme, cut_append_mark hmark]
      dsimp only
      rw [if_pos (by exact hname), map_toLower_of_isSchemeName hname, hlower]

theorem cutSlashes_of_stops {t : Text} (hauthority : ∀ c ∈ authority, isInner c = true) (ht : Stops t) :
    (cutSlashes ('/' :: '/' :: (authority ++ t))).1 = authority := by
  refine takeWhile_authority (fun c hc => ?_) ht
  have hinner := hauthority c hc
  rw [isInner, Bool.and_eq_true, Bool.not_eq_true'] at hinner
  exact hinner.1

theorem Heads.cutText (h : Heads scheme authority s) (hscheme : IsScheme scheme)
    (hauthority : ∀ c ∈ authority, isInner c = true) :
    (cutText s).scheme = scheme ∧ (cutText s).authority = authority := by
  obtain ⟨t, hcut, _, hstops⟩ := h.cut hscheme
  rw [cutText_eq, hcut]
  exact ⟨rfl, cutSlashes_of_stops hauthority hstops⟩

/-- Splitting as cuts of one text, after the checks. -/
theorem split_eq (given s : Text) : split given s = (do
    checkBrackets (cutSlashes (splitScheme given (cleanText s)).2).1
    checkCompatibility (cutSlashes (splitScheme given (cleanText s)).2).1
    .ok {
      scheme := (splitScheme given (cleanText s)).1
      authority := (cutSlashes (splitScheme given (cleanText s)).2).1
      path := (Courier.cut '?' (Courier.cut '#' (cutSlashes (splitScheme given (cleanText s)).2).2).1).1
      query := (Courier.cut '?' (Courier.cut '#' (cutSlashes (splitScheme given (cleanText s)).2).2).1).2.getD []
      fragment := (Courier.cut '#' (cutSlashes (splitScheme given (cleanText s)).2).2).2.getD [] }) := rfl

/-- A scheme or two slashes in front: there is nothing to clean away. -/
theorem Heads.cleanText (h : Heads scheme authority s) (hscheme : IsScheme scheme)
    (hs : ∀ c ∈ s, isUnprintableAscii c = false) : cleanText s = s := by
  obtain ⟨t, rfl, _⟩ := h
  refine cleanText_of_clean (fun c hc => ?_) hs
  rcases hscheme with rfl | ⟨hname, _⟩
  · obtain rfl := Option.some.inj hc
    decide
  · cases scheme with
    | nil => cases hname
    | cons d rest =>
      obtain rfl : d = c := Option.some.inj hc
      have hvisible := isVisible_of_isSchemeChar (isSchemeChar_of_mem hname (List.mem_cons_self ..))
      have hhigh := (isVisible_iff.mp hvisible).1
      rw [isControlOrSpace, decide_eq_false_iff_not]
      omega

/-- A text with scheme and authority in front is split into them, if it can be split. -/
theorem Heads.split (h : Heads scheme authority s) (hscheme : IsScheme scheme)
    (hauthority : ∀ c ∈ authority, isInner c = true) (hs : ∀ c ∈ s, isUnprintableAscii c = false) {parts : Parts}
    (hsplit : split [] s = .ok parts) : parts.scheme = scheme ∧ parts.authority = authority := by
  obtain ⟨t, _, hcut, hstops⟩ := h.cut hscheme
  rw [split_eq, h.cleanText hscheme hs, hcut] at hsplit
  obtain ⟨_, _, hsplit⟩ := exists_of_bind_eq_ok hsplit
  obtain ⟨_, _, hsplit⟩ := exists_of_bind_eq_ok hsplit
  obtain rfl := Except.ok.inj hsplit
  exact ⟨rfl, cutSlashes_of_stops hauthority hstops⟩

/-- Parts with an authority are written with scheme and authority in front. -/
theorem heads_text {p : Parts} (hauthority : p.authority ≠ []) : Heads p.scheme p.authority p.text := by
  have hpresent : p.authority.isEmpty = false := List.isEmpty_eq_false_iff.mpr hauthority
  have hrooted : Rooted (if p.path.isEmpty || p.path.head? == some '/' then p.path else '/' :: p.path) := by
    split
    · rename_i hpath
      rwa [Bool.or_eq_true, List.isEmpty_iff, beq_iff_eq] at hpath
    · exact Or.inr rfl
  have hmarks : Stops ((if p.query.isEmpty then [] else '?' :: p.query) ++
      if p.fragment.isEmpty then [] else '#' :: p.fragment) := by
    intro c hc
    split at hc
    · split at hc
      · cases hc
      · obtain rfl := Option.some.inj hc
        rfl
    · obtain rfl := Option.some.inj hc
      rfl
  refine ⟨_, ?_, stops_append hrooted hmarks⟩
  simp only [Parts.text, hpresent, Bool.not_false, Bool.true_or, if_true, List.append_assoc, List.cons_append]

/-! ## The base

  The base is written as a text, which has the shape and is clean. -/

theorem Formed.isScheme (hu : u.Formed) : IsScheme u.scheme := hu.canonical.scheme

theorem Formed.heads (hu : u.Formed) (hhost : u.rawHost ≠ []) : Heads u.scheme u.authority u.text :=
  ⟨u.tail, text_eq_of_host hhost, stops_tail (hu.canonical.rooted hhost)⟩

/-- No control is in the text of a URL. -/
theorem Formed.isUnprintableAscii_of_mem_text (hu : u.Formed) (hhost : u.rawHost ≠ []) {c : Char} (h : c ∈ u.text) :
    isUnprintableAscii c = false := by
  rw [text_eq_of_host hhost] at h
  rcases List.mem_append.mp h with h | h
  · split at h
    · exact absurd h List.not_mem_nil
    · rcases List.mem_append.mp h with h | h
      · exact isUnprintableAscii_of_isVisible (isVisible_of_isSchemeChar (isSchemeChar_of_mem_scheme hu.canonical h))
      · rw [List.mem_singleton.mp h]
        decide
  · simp only [List.mem_cons, List.mem_append] at h
    rcases h with rfl | rfl | h | h
    · decide
    · decide
    · have hinner := hu.isInner_of_mem_authority h
      rw [isInner, Bool.and_eq_true, Bool.not_eq_true', Bool.not_eq_true'] at hinner
      exact hinner.2
    · exact isUnprintableAscii_of_isVisible (isVisible_of_mem_tail hu.canonical h)

/-! ## Resolving

  The rules of references are opened here, for a reference without scheme and authority.  They have a case for an
  empty reference, one for an empty path and one for a path, and in each of them scheme and authority are those of
  the base. -/

/-- The reference has neither scheme nor authority, also for the grammar that references are resolved in. -/
theorem Bare.split (h : v.Bare) {given : Text} {parts : Parts} (hsplit : split given v.text = .ok parts) :
    parts.scheme = given ∧ parts.authority = [] := by
  -- it is visible ASCII, so nothing is cleaned away
  have hclean : Url.cleanText v.text = v.text := by
    rw [h.text]
    exact cleanText_of_visible fun c hc => isVisible_of_mem_tail h.canonical hc
  rw [split_eq, hclean, h.text, splitScheme_of_not_named h.scheme, cutSlashes_of_not_prefix h.slashes] at hsplit
  obtain ⟨_, _, hsplit⟩ := exists_of_bind_eq_ok hsplit
  obtain ⟨_, _, hsplit⟩ := exists_of_bind_eq_ok hsplit
  obtain rfl := Except.ok.inj hsplit
  exact ⟨rfl, rfl⟩

theorem isOneOf_authoritySchemes (h : isOneOf relativeSchemes scheme = true) :
    isOneOf authoritySchemes scheme = true := by
  rw [isOneOf, List.any_eq_true] at h
  obtain ⟨name, hname, hsame⟩ := h
  have hall : (relativeSchemes.all fun name => isOneOf authoritySchemes name.toList) = true := by decide
  have hlisted := List.all_eq_true.mp hall name hname
  rwa [beq_iff_eq.mp hsame] at hlisted

/-- **What a reference without scheme and authority means begins with those of the base.** -/
theorem heads_of_resolveText (hu : u.Formed) (hhost : u.rawHost ≠ [])
    (hscheme : isOneOf relativeSchemes u.scheme = true) (hv : v.Bare) {joined : Text}
    (h : resolveText u.text v.text = .ok joined) : Heads u.scheme u.authority joined := by
  have hne : u.text.isEmpty = false := by
    obtain ⟨t, ht, _⟩ := hu.heads hhost
    rw [ht, List.isEmpty_eq_false_iff]
    exact List.append_ne_nil_of_right_ne_nil _ (List.cons_ne_nil _ _)
  rw [resolveText, hne, if_neg Bool.false_ne_true] at h
  split at h
  · -- an empty reference means the base itself
    rw [← Except.ok.inj h]
    exact hu.heads hhost
  · obtain ⟨b, hb, h⟩ := exists_of_bind_eq_ok h
    obtain ⟨r, hr, h⟩ := exists_of_bind_eq_ok h
    obtain ⟨hbscheme, hbauthority⟩ := (hu.heads hhost).split hu.isScheme (fun _ => hu.isInner_of_mem_authority)
      (fun _ => hu.isUnprintableAscii_of_mem_text hhost) hb
    obtain ⟨hrscheme, hrauthority⟩ := hv.split hr
    have hsame : r.scheme = u.scheme := hrscheme.trans hbscheme
    -- the reference has no authority, so the one of the base is taken
    have hpresent : b.authority ≠ [] := hbauthority ▸ authority_ne_nil hhost
    have hresult {path query : Text} : Heads u.scheme u.authority
        (Parts.mk u.scheme b.authority path query r.fragment).text := by
      rw [← hbauthority]
      exact heads_text hpresent
    rw [hbscheme, hsame, hscheme, hrauthority, isOneOf_authoritySchemes hscheme] at h
    simp only [bne_self_eq_false, Bool.not_true, Bool.or_false, List.isEmpty_nil, Bool.and_false,
      Bool.false_eq_true, if_false, if_true] at h
    split at h
    · rw [← Except.ok.inj h]
      exact hresult
    · rw [← Except.ok.inj h]
      exact hresult

/-- **Following a relative location reads the authority of the base again**, if the rules know its scheme. -/
theorem rereads_of_resolve? (hu : u.Formed) (hhost : u.rawHost ≠ [])
    (hscheme : isOneOf relativeSchemes u.scheme = true) (hlocation : IsRelative location)
    (h : u.resolve? location = some v) : u.Rereads u.scheme v := by
  rw [resolve?] at h
  obtain ⟨target, htarget, h⟩ := Option.bind_eq_some_iff.mp h
  obtain ⟨joined, hjoined, h⟩ := Option.bind_eq_some_iff.mp h
  have hheads := heads_of_resolveText hu hhost hscheme (bare_of_read hlocation (toOption_eq_some_iff.mp htarget))
    (toOption_eq_some_iff.mp hjoined)
  obtain ⟨_, hcuts⟩ := of_read (toOption_eq_some_iff.mp h)
  obtain ⟨hcutScheme, hcutAuthority⟩ := hheads.cutText hu.isScheme fun _ => hu.isInner_of_mem_authority
  have hrereads := rereads_of_ofCuts hu hhost (scheme_cutText joined) hcutAuthority hcuts
  rwa [hcutScheme] at hrereads

/-! ## The origin

  How often an authority was read again does not matter: a port that was kept is kept, and a host that was put in
  lower case is in lower case. -/

/-- The scheme that references are resolved with. -/
def workingScheme (u : Url) : Text := if isOneOf relativeSchemes u.scheme then u.scheme else "http".toList

/-- The same scheme, user information, host and port. -/
structure SameOrigin (u v : Url) : Prop where
  scheme : v.scheme = u.scheme
  userinfo : v.userinfo = u.userinfo
  host : v.rawHost = u.rawHost
  port : v.port = u.port

/-- A URL that stays what it is when references are resolved against it: a name as host is in lower case, and the port
    is not the default of the scheme that they are resolved with. -/
structure Settled (u : Url) : Prop where
  host : u.refoldedHost = u.rawHost
  port : ∀ n, u.port = some n → defaultPort? u.workingScheme ≠ some n

/-- What a URL takes from the base that a relative location is resolved against. -/
structure Inherits (base u : Url) : Prop where
  scheme : u.scheme = base.scheme
  userinfo : u.userinfo = base.userinfo
  host : u.rawHost = base.refoldedHost
  port : u.port = base.keptPort base.workingScheme

/-- A port is kept when it is not the default. -/
theorem keptPort_eq_iff :
    u.keptPort scheme = u.port ↔ ∀ n, u.port = some n → defaultPort? scheme ≠ some n := by
  rw [keptPort]
  cases u.port with
  | none => exact iff_of_true rfl fun _ hnone => absurd hnone.symm (Option.some_ne_none _)
  | some n =>
    rw [Option.filter_some]
    constructor
    · rintro hkept m hm hdefault
      obtain rfl := Option.some.inj hm
      rw [hdefault, bne_self_eq_false] at hkept
      cases hkept
    · intro hother
      rw [bne_iff_ne.mpr (hother n rfl)]
      rfl

theorem keptPort_of_defaultPort?_eq_none (h : defaultPort? scheme = none) : u.keptPort scheme = u.port :=
  keptPort_eq_iff.mpr fun _ _ hdefault => Option.some_ne_none _ (hdefault.symm.trans h)

theorem keptPort_of_kept (h : v.port = u.keptPort scheme) : v.keptPort scheme = u.keptPort scheme := by
  rw [keptPort, h, keptPort, Option.filter_filter]
  simp only [Bool.and_self]

/-- Every scheme with a default port is one that the rules of references know. -/
theorem defaultPort?_of_unknown (h : isOneOf relativeSchemes scheme = false) : defaultPort? scheme = none := by
  rw [defaultPort?, List.findSome?_eq_none_iff]
  rintro ⟨name, port⟩ hlisted
  have hall : ([("ftp", 21), ("http", 80), ("https", 443), ("ws", 80), ("wss", 443)].all
      fun entry : String × Int => isOneOf relativeSchemes entry.1.toList) = true := by decide
  have hknown : isOneOf relativeSchemes name.toList = true := List.all_eq_true.mp hall (name, port) hlisted
  refine if_neg ?_
  rintro rfl
  rw [hknown] at h
  exact Bool.noConfusion h

/-- The same origin is what is inherited from a settled base, and from no other. -/
theorem Inherits.sameOrigin_iff (h : base.Inherits u) : base.SameOrigin u ↔ base.Settled :=
  ⟨fun hsame => ⟨h.host.symm.trans hsame.host, keptPort_eq_iff.mp (h.port.symm.trans hsame.port)⟩,
    fun hsettled => ⟨h.scheme, h.userinfo, h.host.trans hsettled.host,
      h.port.trans (keptPort_eq_iff.mpr hsettled.port)⟩⟩

/-- A host that was put in lower case stays as it is. -/
theorem Formed.refoldedHost_idem (hu : base.Formed) (h : u.rawHost = base.refoldedHost) :
    u.refoldedHost = u.rawHost := by
  rw [refoldedHost, h, refoldedHost]
  cases hcolon : base.rawHost.contains ':' with
  -- an address is kept, and a name is in lower case
  | true => rw [if_pos rfl, hcolon, if_pos rfl]
  | false => rw [if_neg Bool.false_ne_true, (hu.lower_name hcolon).2, if_neg Bool.false_ne_true, lower_lower]

/-- What has inherited from a base is settled: the next hop takes nothing away. -/
theorem Inherits.settled (h : base.Inherits u) (hbase : base.Formed) : u.Settled := by
  refine ⟨hbase.refoldedHost_idem h.host, keptPort_eq_iff.mp ?_⟩
  have hworking : u.workingScheme = base.workingScheme := by rw [workingScheme, workingScheme, h.scheme]
  rw [hworking, keptPort_of_kept h.port, h.port]

/-- A scheme that the rules know: the authority is read again once. -/
theorem inherits_of_resolve? (hbase : base.Formed) (hhost : base.rawHost ≠ [])
    (hknown : isOneOf relativeSchemes base.scheme = true) (hlocation : IsRelative location)
    (h : base.resolve? location = some u) : base.Inherits u := by
  have hrereads := rereads_of_resolve? hbase hhost hknown hlocation h
  have hlower : lower base.scheme = base.scheme := hbase.isScheme.elim (fun hnil => hnil ▸ rfl) And.right
  have hworking : base.workingScheme = base.scheme := if_pos hknown
  exact ⟨hrereads.scheme.trans hlower, hrereads.userinfo, hrereads.host, hworking.symm ▸ hrereads.port⟩

theorem rereads_of_withScheme (hu : u.Formed) (hhost : u.rawHost ≠ [])
    (hscheme : scheme = [] ∨ isSchemeName scheme = true) (h : u.withScheme scheme = .ok v) : u.Rereads scheme v :=
  rereads_of_ofCuts hu hhost hscheme rfl (of_withScheme h)

/-- A scheme that the rules do not know: the authority is read again behind `http`, twice, and then behind the scheme,
    which has no default port. -/
theorem inherits_of_borrowed {borrowed joined : Url} (hbase : base.Formed) (hhost : base.rawHost ≠ [])
    (hunknown : isOneOf relativeSchemes base.scheme = false) (hlocation : IsRelative location)
    (hborrowed : base.withScheme "http".toList = .ok borrowed) (hjoined : borrowed.resolve? location = some joined)
    (hback : joined.withScheme base.scheme = .ok u) : base.Inherits u := by
  -- behind `http` for the first time, then resolved, and then behind the scheme of the base
  have hfirst := rereads_of_withScheme hbase hhost (Or.inr (by decide)) hborrowed
  have hhttp : borrowed.scheme = "http".toList := hfirst.scheme.trans (by decide)
  have hsecond := rereads_of_resolve? hfirst.formed (hfirst.host_ne_nil hbase hhost)
    (hhttp ▸ by decide) hlocation hjoined
  rw [hhttp] at hsecond
  have hthird := rereads_of_withScheme hsecond.formed
    (hsecond.host_ne_nil hfirst.formed (hfirst.host_ne_nil hbase hhost)) (hbase.isScheme.imp_right And.left) hback
  have hlower : lower base.scheme = base.scheme := hbase.isScheme.elim (fun hnil => hnil ▸ rfl) And.right
  have hworking : base.workingScheme = "http".toList := if_neg (by rw [hunknown]; exact Bool.false_ne_true)
  constructor
  · exact hthird.scheme.trans hlower
  · exact hthird.userinfo.trans (hsecond.userinfo.trans hfirst.userinfo)
  · exact hthird.host.trans ((hsecond.refoldedHost hfirst.formed).trans (hfirst.refoldedHost hbase))
  · calc
      u.port = joined.keptPort base.scheme := hthird.port
      _ = joined.port := keptPort_of_defaultPort?_eq_none (defaultPort?_of_unknown hunknown)
      _ = borrowed.keptPort "http".toList := hsecond.port
      _ = base.keptPort "http".toList := keptPort_of_kept hfirst.port
      _ = base.keptPort base.workingScheme := by rw [hworking]

/-- In whatever way a relative location is resolved, it takes scheme and authority from the base. -/
theorem inherits_of_join (hbase : base.Formed) (hhost : base.rawHost ≠ []) (hlocation : IsRelative location)
    (h : join base location = .ok u) : base.Inherits u := by
  rcases join_cases h with ⟨hknown, hresolve⟩ | ⟨hunknown, ⟨hread, habsolute⟩ | ⟨_, _, hborrowed, hjoined, hback⟩⟩
  · exact inherits_of_resolve? hbase hhost hknown hlocation hresolve
  · -- an absolute location would have a host
    rw [isAbsolute, (bare_of_read hlocation hread).host, List.isEmpty_nil, Bool.not_true, Bool.and_false] at habsolute
    exact Bool.noConfusion habsolute
  · exact inherits_of_borrowed hbase hhost hunknown hlocation hborrowed hjoined hback

/-- **A relative location leads to the origin of a settled base, and to nothing else**: it cannot be resolved, or the
    URL has scheme and user information of the base, its host in lower case and its port, unless that is the default of
    the scheme that references are resolved with.  A second hop takes nothing further away.

    A location that begins with a colon is relative when what follows the colon has no scheme and no authority either;
    with a host behind its colon it leads to that host. -/
theorem join_relative (hbase : base.Known) (hhost : base.rawHost ≠ []) (hlocation : IsRelative location) :
    join base location = .error (.unresolvable location) ∨
      ∃ u, join base location = .ok u ∧ base.Inherits u ∧ (base.SameOrigin u ↔ base.Settled) ∧ u.Settled := by
  have hformed := formed_of_known hbase
  cases hjoin : join base location with
  | error e =>
    rw [join] at hjoin
    split at hjoin
    · cases hjoin
    · exact Or.inl (hjoin ▸ rfl)
  | ok u =>
    refine Or.inr ⟨u, rfl, ?_⟩
    have hinherits := inherits_of_join hformed hhost hlocation hjoin
    exact ⟨hinherits, hinherits.sameOrigin_iff, hinherits.settled hformed⟩

/-- An address, a port that is no default and a scheme that the rules do not know: colons and slashes behind the path
    name nothing. -/
theorem join_relative_of_address6 :
    ∃ base, parse "test://u:p@[::1]:81/a/b".toList = .ok base ∧ base.rawHost ≠ [] ∧ IsRelative "../c:d?//e".toList ∧
      (join base "../c:d?//e".toList = .error (.unresolvable "../c:d?//e".toList) ∨
        ∃ u, join base "../c:d?//e".toList = .ok u ∧ base.Inherits u ∧ (base.SameOrigin u ↔ base.Settled) ∧
          u.Settled) := by
  have hparse : parse "test://u:p@[::1]:81/a/b".toList = .ok {
      scheme := "test".toList, userinfo := "u:p".toList, rawHost := "::1".toList, port := some 81,
      path := "/a/b".toList } := by decide +kernel
  exact ⟨_, hparse, by decide, by decide, join_relative (.parsed hparse) (by decide) (by decide)⟩

/-- The port of a base goes when it is the one that `http` would have. -/
theorem port_lost_of_borrowed : ∃ base u,
    parse "test://h:80/a".toList = .ok base ∧ base.rawHost ≠ [] ∧ IsRelative "b".toList ∧
      join base "b".toList = .ok u ∧ base.port = some 80 ∧ u.port = none ∧ ¬ base.SameOrigin u := by
  refine ⟨{ scheme := "test".toList, rawHost := "h".toList, port := some 80, path := "/a".toList },
    { scheme := "test".toList, rawHost := "h".toList, path := "/b".toList }, by decide +kernel, by decide,
    by decide, by decide +kernel, rfl, rfl, fun hsame => Option.some_ne_none _ hsame.port.symm⟩

/-- A colon in front of a location is cut off, and what is behind it is read as a location of its own: these two have
    neither a scheme nor an authority in front, and lead from a settled base to another host. -/
theorem host_behind_colon : ∃ base u,
    parse "http://h/a".toList = .ok base ∧ base.Settled ∧ u.rawHost = "evil".toList ∧ ¬ base.SameOrigin u ∧
      ∀ location ∈ ["://evil/x".toList, ":http://evil/x".toList],
        Unnamed location ∧ ¬ ['/', '/'] <+: location ∧ ¬ IsRelative location ∧ join base location = .ok u := by
  refine ⟨{ scheme := "http".toList, rawHost := "h".toList, path := "/a".toList },
    { scheme := "http".toList, rawHost := "evil".toList, path := "/x".toList }, by decide +kernel,
    ⟨by decide, fun n hport => nomatch hport⟩, rfl, fun hsame => absurd hsame.host (by decide), ?_⟩
  intro location hlocation
  rw [List.mem_cons, List.mem_singleton] at hlocation
  rcases hlocation with rfl | rfl
  · exact ⟨by decide, by decide, by decide, by decide +kernel⟩
  · exact ⟨by decide, by decide, by decide, by decide +kernel⟩

end Url

end Courier
