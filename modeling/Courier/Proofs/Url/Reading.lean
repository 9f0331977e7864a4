/-
  The steps of reading a URL.

  Three functions make URLs: one reads a text, one gives a URL another scheme, and one follows a location from a
  base.  All of them end in the same step, which brings parts to their form, and this is the only way in which a URL
  comes about (`Url.exists_ofCuts_of_join`).

  1. **What becomes of parts** (`Url.ReadOff`, `Url.readOff_of_ofCuts`): each part of the result as a function of
     the parts that were given, with the check of the path that was passed.  The function is opened here and nowhere
     else.

  2. **Texts** (`Url.of_read`): a text is searched for control characters before it is cut, and then its cuts are
     read.  Reading on behalf of a caller differs from this only in the error it gives (`Url.read_of_parse`).

  3. **Locations** (`Url.join_cases`): three ways to resolve a location, of which the last reads the base as if its
     scheme were `http` and puts the scheme back afterwards.  Callers of `Url.join` work with these cases and do not
     open it.

  What is true of all URLs, and what is true of those that a redirect leads to, follows from these lemmas.
-/
import Courier.Proofs.Basic
import Courier.Url.Parse

namespace Courier

namespace Url

variable {base u : Url} {location s : Text}

/-! ## Parts

  Everything that can be known of a URL that was read is in the fields of one structure. -/

/-- Whether user information, host or port stands in an authority. -/
def hasAuthority (u : Url) : Bool := !u.userinfo.isEmpty || !u.rawHost.isEmpty || u.port.isSome

/-- What becomes of the parts that a URL is read from. -/
structure ReadOff (cuts : Cuts) (u : Url) : Prop where
  scheme : u.scheme = lower cuts.scheme
  userinfo : u.userinfo = percentEncode (printableExcept userinfoMarks) (cutAuthority cuts.authority).1
  host : readHost (cutAuthority cuts.authority).2.1 = .ok u.rawHost
  port : readPort cuts.scheme (cutAuthority cuts.authority).2.2 = .ok u.port
  checked : checkPath (!u.scheme.isEmpty) u.hasAuthority cuts.path = .ok ()
  path : u.path = percentEncode (printableExcept pathMarks)
    (if !u.scheme.isEmpty || u.hasAuthority then foldPath cuts.path else cuts.path)
  query : u.query = cuts.query.map (percentEncode (printableExcept queryMarks))
  fragment : u.fragment = cuts.fragment.map (percentEncode (printableExcept fragmentMarks))

/-- **What reading parts gives**: host, port and path were accepted, and every part is in its form. -/
theorem readOff_of_ofCuts {cuts : Cuts} (h : ofCuts cuts = .ok u) : ReadOff cuts u := by
  rw [ofCuts] at h
  obtain ⟨rawHost, hhost, h⟩ := exists_of_bind_eq_ok h
  obtain ⟨port, hport, h⟩ := exists_of_bind_eq_ok h
  obtain ⟨_, hpath, h⟩ := exists_of_bind_eq_ok h
  obtain rfl := Except.ok.inj h
  exact ⟨rfl, rfl, hhost, hport, hpath, rfl, rfl, rfl⟩

/-! ## Texts

  A text is refused at once when it is too long or holds a control character. -/

/-- A text that is read holds no control, and its parts were read. -/
theorem of_read (h : read s = .ok u) : (∀ c ∈ s, isUnprintableAscii c = false) ∧ ofCuts (cutText s) = .ok u := by
  rw [read] at h
  split at h
  · cases h
  · split at h
    · cases h
    · rename_i hprintable
      refine ⟨fun c hc => ?_, h⟩
      have hkept := List.dropWhile_eq_nil_iff.mp hprintable c hc
      rwa [Bool.not_eq_true'] at hkept

/-- A text that a caller gives is read like any other. -/
theorem read_of_parse (h : parse s = .ok u) : read s = .ok u := by
  rw [parse] at h
  cases hread : read s with
  | error e =>
    rw [hread] at h
    cases h
  | ok v =>
    rw [hread] at h
    rw [Except.ok.inj h]

/-! ## Locations

  A location is resolved against a base whose scheme has rules for references, and a base with another scheme
  borrows `http` for it. -/

/-- The parts of a URL that is given another scheme are read again. -/
theorem of_withScheme {scheme : Text} (h : base.withScheme scheme = .ok u) :
    ofCuts { scheme, authority := base.authority, path := base.path, query := base.query, fragment := base.fragment } =
      .ok u := by
  rw [withScheme] at h
  dsimp only at h
  split at h
  · cases h
  · exact h

theorem exists_read_of_resolve? (h : base.resolve? location = some u) : ∃ joined, read joined = .ok u := by
  rw [resolve?] at h
  obtain ⟨target, _, h⟩ := Option.bind_eq_some_iff.mp h
  obtain ⟨joined, _, hread⟩ := Option.bind_eq_some_iff.mp h
  exact ⟨joined, toOption_eq_some_iff.mp hread⟩

/-- The ways in which a location is resolved: against the base when the rules of references know its scheme, otherwise
    not at all when the location is absolute, and behind `http` when it is not. -/
theorem join_cases (h : join base location = .ok u) :
    isOneOf relativeSchemes base.scheme = true ∧ base.resolve? location = some u ∨
    isOneOf relativeSchemes base.scheme = false ∧ (read location = .ok u ∧ u.isAbsolute = true ∨
      ∃ borrowed joined, base.withScheme "http".toList = .ok borrowed ∧ borrowed.resolve? location = some joined ∧
        joined.withScheme base.scheme = .ok u) := by
  rw [join] at h
  split at h
  · rename_i v hresult
    obtain rfl := Except.ok.inj h
    split at hresult
    · -- the rules of references know the scheme
      rename_i hknown
      exact Or.inl ⟨hknown, hresult⟩
    · rename_i hunknown
      refine Or.inr ⟨Bool.eq_false_iff.mpr hunknown, ?_⟩
      obtain ⟨target, htarget, hresult⟩ := Option.bind_eq_some_iff.mp hresult
      split at hresult
      · -- an absolute location needs no base
        rename_i habsolute
        obtain rfl := Option.some.inj hresult
        exact Or.inl ⟨toOption_eq_some_iff.mp htarget, habsolute⟩
      · obtain ⟨borrowed, hborrowed, hresult⟩ := Option.bind_eq_some_iff.mp hresult
        obtain ⟨joined, hjoined, hback⟩ := Option.bind_eq_some_iff.mp hresult
        exact Or.inr ⟨borrowed, joined, toOption_eq_some_iff.mp hborrowed, hjoined, toOption_eq_some_iff.mp hback⟩
  · cases h

theorem exists_ofCuts_of_join (h : join base location = .ok u) : ∃ cuts, ofCuts cuts = .ok u := by
  -- in each way of resolving, the last step reads parts
  rcases join_cases h with ⟨_, hresolve⟩ | ⟨_, ⟨hread, _⟩ | ⟨_, _, _, _, hback⟩⟩
  · obtain ⟨joined, hread⟩ := exists_read_of_resolve? hresolve
    exact ⟨cutText joined, (of_read hread).2⟩
  · exact ⟨cutText location, (of_read hread).2⟩
  · exact ⟨_, of_withScheme hback⟩

end Url

end Courier
