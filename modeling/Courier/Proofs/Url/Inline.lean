/-
  What the parts of a URL that go into a request are made of.

  Three parts of a URL are written into a head: its path and its query into the request line, and its host with the
  port into a field.  None of them may hold anything that ends a line, or a URL could add fields of its own.

  1. **Path and query** are percent coded, so they are visible ASCII, and so is the query that a caller's parameters
     are written as, whatever these hold (`Url.Lined.combineQuery`).

  2. **The host** is not coded in every form: an address of version six keeps its scope as it was written.  But no
     form lets a character through that could end a line, because a URL text with a control character is refused as
     a whole before it is cut.  So the host is followed back to the text: a character of the host is one of the
     authority, or the bracket that closes an address, and a character of the authority is one of the text
     (`Url.mem_of_mem_host`, `Url.mem_of_mem_authority`).  The lemmas follow the cuts one by one, and each says only
     that a part of a text holds no other characters than the text.

  3. **Together** (`Url.Lined`): the three parts of a URL that is read from parts are safe if the authority is
     (`Url.lined_of_ofCuts`), and so are those of every URL text that is read (`Url.lined_of_parse`).  What stands
     in a request is then safe as well: the path (`Url.Lined.requestPath`), and host and port
     (`Url.Lined.hostAndPort`), where brackets, a colon and a number are all that is added.
-/
import Courier.Url.Parse
import Courier.Url.Query
import Courier.Proofs.Url.Canonical

namespace Courier

namespace Url

/-! ## Safe characters -/

/-- A URL whose path and query are visible ASCII, and whose host stays on its line. -/
structure Lined (u : Url) : Prop where
  path : ∀ c ∈ u.path, isVisible c = true
  query : ∀ c ∈ u.queryText, isVisible c = true
  host : ∀ c ∈ u.rawHost, isInline c = true

/-! ## The cuts

  A text is cut at its scheme, its authority, the at sign and the colon of its port.  None of these cuts adds a
  character but for the bracket that closes an address. -/

theorem mem_of_mem_cut_snd {mark c : Char} {s before after : Text} (h : cut mark s = (before, some after))
    (hc : c ∈ after) : c ∈ s := by
  rw [cut_eq_some h]
  exact List.mem_append_right _ (List.mem_cons_of_mem _ hc)

/-- What stands before the last mark stands in the text. -/
theorem mem_of_mem_cutLast_fst {mark c : Char} {s before after : Text}
    (h : cutLast mark s = (some before, after)) (hc : c ∈ before) : c ∈ s := by
  rw [cutLast] at h
  rcases hcut : cut mark s.reverse with ⟨x, _ | y⟩
  · rw [hcut] at h
    exact absurd h (by simp)
  · rw [hcut] at h
    rw [Prod.mk.injEq, Option.map_some, Option.some.injEq] at h
    rw [← h.1, List.mem_reverse] at hc
    exact List.mem_reverse.mp (mem_of_mem_cut_snd hcut hc)

/-- What stands behind the last mark stands in the text, and without a mark this is the text. -/
theorem mem_of_mem_cutLast_snd {mark c : Char} {s after : Text} {before : Option Text}
    (h : cutLast mark s = (before, after)) (hc : c ∈ after) : c ∈ s := by
  rw [cutLast, Prod.mk.injEq] at h
  rw [← h.2, List.mem_reverse] at hc
  exact List.mem_reverse.mp ((List.takeWhile_sublist _).subset hc)

theorem mem_of_mem_authorityAfter {s : Text} {c : Char}
    (h : c ∈ (match s with
      | '/' :: '/' :: r => (r.takeWhile fun c => !endsAuthority c, r.dropWhile fun c => !endsAuthority c)
      | s => ([], s)).1) : c ∈ s := by
  split at h
  · exact List.mem_cons_of_mem _ (List.mem_cons_of_mem _ ((List.takeWhile_sublist _).subset h))
  · exact absurd h List.not_mem_nil

/-- **An authority has no characters but those of the text.** -/
theorem mem_of_mem_authority {s : Text} {c : Char} (h : c ∈ (cutText s).authority) : c ∈ s := by
  rw [cutText] at h
  rcases hcut : cut ':' s with ⟨name, _ | rest⟩
  · rw [hcut] at h
    exact mem_of_mem_authorityAfter h
  · rw [hcut] at h
    have hafter (scheme : Bool) (hc : c ∈ (if scheme then (name, rest) else ([], s)).2) : c ∈ s := by
      cases scheme with
      | true => exact mem_of_mem_cut_snd hcut hc
      | false => exact hc
    -- with or without a scheme, what is left is a part of the text
    exact hafter _ (mem_of_mem_authorityAfter h)

/-- A host is a part of what is left without user information, with a bracket behind it at most. -/
theorem mem_of_mem_hostOf {s : Text} {c : Char}
    (h : c ∈ (match s.head?, cutLast ']' s with
      | some '[', (some inside, after) => (inside ++ [']'], after)
      | _, _ => (s.takeWhile fun c => c != ':' && c != '@', s.dropWhile fun c => c != ':' && c != '@')).1) :
    c ∈ s ∨ c = ']' := by
  split at h
  · rename_i hcut
    rcases List.mem_append.mp h with h | h
    · exact Or.inl (mem_of_mem_cutLast_fst hcut h)
    · exact Or.inr (List.mem_singleton.mp h)
  · exact Or.inl ((List.takeWhile_sublist _).subset h)

/-- **A host has no characters but those of the authority**, and the bracket that closes it. -/
theorem mem_of_mem_host {authority : Text} {c : Char} (h : c ∈ (cutAuthority authority).2.1) :
    c ∈ authority ∨ c = ']' := by
  rw [cutAuthority] at h
  rcases hcut : cutLast '@' authority with ⟨_ | userinfo, rest⟩ <;> rw [hcut] at h
  · exact (mem_of_mem_hostOf h).imp_left (mem_of_mem_cutLast_snd hcut)
  · exact (mem_of_mem_hostOf h).imp_left (mem_of_mem_cutLast_snd hcut)

/-! ## Reading

  A host is kept as it was written only where that is an address, and everything else is coded. -/

/-- Reading a host adds nothing that ends a line. -/
theorem isInline_of_mem_readHost {host written : Text} (h : readHost host = .ok written)
    (hhost : ∀ c ∈ host, isInline c = true) {c : Char} (hc : c ∈ written) : isInline c = true := by
  cases readsHost_of_readHost h with
  | empty hempty => exact absurd hc List.not_mem_nil
  -- addresses are kept as they were written, and names are coded
  | address4 hnumeric haddress => exact hhost c hc
  | address6 haddress => exact hhost c (mem_of_mem_inside hc)
  | ascii hascii =>
    exact isInline_of_isVisible (isVisible_of_mem_percentEncode (fun _ => isVisible_of_safeWith (by decide)) hc)
  | name hencode => exact isInline_of_isVisible (isVisible_of_isNameChar (Idna.isNameChar_of_encode hencode hc))

/-- What is read from parts stays on its line if the authority does. -/
theorem lined_of_ofCuts {cuts : Cuts} {u : Url} (h : ofCuts cuts = .ok u)
    (hauthority : ∀ c ∈ cuts.authority, isInline c = true) : u.Lined := by
  have hread := readOff_of_ofCuts h
  -- the host may be kept as it was written, so it is safe because the authority is
  have hhost : ∀ c ∈ (cutAuthority cuts.authority).2.1, isInline c = true := by
    intro c hc
    rcases mem_of_mem_host hc with hmem | rfl
    · exact hauthority c hmem
    · decide
  constructor
  · rw [hread.path]
    exact fun c hc => isVisible_of_mem_percentEncode (fun _ => isVisible_of_printableExcept) hc
  · intro c hc
    rw [queryText, hread.query] at hc
    cases hq : cuts.query with
    | none =>
      rw [hq] at hc
      exact absurd hc List.not_mem_nil
    | some q =>
      rw [hq] at hc
      exact isVisible_of_mem_percentEncode (fun _ => isVisible_of_printableExcept) hc
  · exact fun c hc => isInline_of_mem_readHost hread.host hhost hc

/-- **A URL text is read into parts that stay on their line.** -/
theorem lined_of_parse {s : Text} {u : Url} (h : parse s = .ok u) : u.Lined := by
  obtain ⟨hprintable, hcuts⟩ := of_read (read_of_parse h)
  refine lined_of_ofCuts hcuts fun c hc => isInline_of_le ?_
  -- a control in the text would have been the end of reading it
  have hkept := hprintable c (mem_of_mem_authority hc)
  rw [isUnprintableAscii, Bool.or_eq_false_iff, decide_eq_false_iff_not] at hkept
  omega

/-! ## What a request takes from a URL

  The request line takes the path, the query and nothing else, and the host field takes host and port. -/

variable {u : Url}

/-- The path of a request is visible ASCII. -/
theorem Lined.requestPath (h : u.Lined) : ∀ c ∈ u.requestPath, isVisible c = true := by
  intro c hc
  have hc : c ∈ u.target := (List.takeWhile_sublist _).subset hc
  rw [target] at hc
  rcases List.mem_append.mp hc with hc | hc
  · rw [rootedPath] at hc
    split at hc
    · rw [List.mem_singleton.mp hc]
      decide
    · exact h.path c hc
  · -- the query is in the target, though the path of a request ends before it
    cases hq : u.query with
    | none =>
      rw [hq] at hc
      exact absurd hc List.not_mem_nil
    | some q =>
      rw [hq] at hc
      rcases List.mem_cons.mp hc with rfl | hc
      · decide
      · exact h.query c (by rw [queryText, hq]; exact hc)

/-- Besides the host, host and port hold brackets, a colon and a number. -/
theorem mem_hostAndPort {c : Char} (h : c ∈ u.hostAndPort) : c ∈ u.rawHost ∨ isVisible c = true := by
  rw [hostAndPort, bracketedHost, portText] at h
  rcases List.mem_append.mp h with h | h
  · split at h
    · rw [List.cons_append] at h
      rcases List.mem_cons.mp h with rfl | h
      · exact Or.inr (by decide)
      · rcases List.mem_append.mp h with h | h
        · exact Or.inl h
        · rw [List.mem_singleton.mp h]
          exact Or.inr (by decide)
    · exact Or.inl h
  · split at h
    · exact absurd h List.not_mem_nil
    · rcases List.mem_cons.mp h with rfl | h
      · exact Or.inr (by decide)
      · exact Or.inr (isVisible_of_mem_decimalInt h)

theorem Lined.hostAndPort (h : u.Lined) : ∀ c ∈ u.hostAndPort, isInline c = true := fun c hc =>
  (mem_hostAndPort hc).elim (h.host c) isInline_of_isVisible

end Url

/-! ## Queries

  Parameters are percent coded character by character, and the marks between them are visible. -/

theorem Form.isVisible_of_mem_encodeText {s : Text} {c : Char} (h : c ∈ encodeText s) : isVisible c = true := by
  obtain ⟨d, hd, rfl⟩ := List.mem_map.mp h
  split
  · -- a space is written as a plus sign
    decide
  · rename_i hspace
    rcases safe_or_isVisible_of_mem_percentEncode hd with hsafe | hsafe
    · rw [Bool.or_eq_true, beq_iff_eq] at hsafe
      exact isVisible_of_isUnreserved (hsafe.resolve_right hspace)
    · exact hsafe

/-- Encoded pairs are visible ASCII. -/
theorem Form.isVisible_of_mem_encode {pairs : List (Text × Text)} {c : Char} (h : c ∈ encode pairs) :
    isVisible c = true := by
  rcases mem_of_mem_intercalate h with h | ⟨piece, hpiece, hc⟩
  · rw [List.mem_singleton.mp h]
    decide
  · obtain ⟨pair, _, rfl⟩ := List.mem_map.mp hpiece
    rw [encodePair] at hc
    rcases List.mem_append.mp hc with hc | hc
    · exact isVisible_of_mem_encodeText hc
    · rcases List.mem_cons.mp hc with rfl | hc
      · decide
      · exact isVisible_of_mem_encodeText hc

/-- **The query of a request is visible ASCII, whatever the caller's parameters hold.** -/
theorem Url.Lined.combineQuery {u : Url} (h : u.Lined) (query : Query) :
    ∀ c ∈ u.combineQuery query, isVisible c = true := by
  intro c hc
  have hquery {c : Char} (hc : c ∈ query.text) : isVisible c = true := Form.isVisible_of_mem_encode hc
  rw [Url.combineQuery] at hc
  split at hc
  · exact absurd hc List.not_mem_nil
  · rcases List.mem_cons.mp hc with rfl | hc
    · decide
    · exact h.query c hc
  · rcases List.mem_cons.mp hc with rfl | hc
    · decide
    · exact hquery hc
  · rw [List.cons_append] at hc
    rcases List.mem_cons.mp hc with rfl | hc
    · decide
    · rcases List.mem_append.mp hc with hc | hc
      · exact h.query c hc
      · -- the parameters alone, and then both with an ampersand between them
        rcases List.mem_cons.mp hc with rfl | hc
        · decide
        · exact hquery hc

end Courier
