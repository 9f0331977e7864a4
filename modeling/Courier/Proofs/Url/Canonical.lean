/-
  URLs in canonical form.

  Reading brings a URL to one form (`Url.Canonical`), whatever text it was read from and whether it came from a
  caller or from a location: its scheme is a name in lower case, its parts are visible ASCII without the delimiters
  that end them, an address of version six apart, and behind a host the path is empty or begins with a slash.  So
  the text of a URL is cut again where its parts were put together, which is what following a relative location
  rests on.

  1. **Parts**: user information, path, query and fragment are percent coded, each with safe characters of its own.
     What percent coding writes is safe or belongs to an escape, and the characters of escapes are safe everywhere
     (`Url.printableExcept_of_mem_percentEncode`).

  2. **Schemes**: what stands before the first colon is a scheme when it has the form of one and is nothing
     otherwise (`Url.scheme_cutText`), and putting it in lower case leaves that form (`Url.isSchemeName_lower`).

  3. **Paths**: behind an authority a path that is not rooted is refused, so a slash is in front when dot segments
     are taken out.  The crux is that this keeps it: the segments are held in reverse, the empty segment before the
     first slash is the last of them, and a segment that goes up never takes it away (`Url.getLast?_foldSegments`,
     by induction over the segments that are left).

  The form is stated for what is read from parts (`Url.canonical_of_ofCuts`), since some URLs are put together from
  the parts of others.  A URL text is the case in which the parts were cut from it.
-/
import Courier.Proofs.Text.Case
import Courier.Proofs.Url.Host
import Courier.Proofs.Url.Reading

namespace Courier

namespace Url

variable {u : Url}

/-! ## Paths

  Dot segments are taken out behind an authority, and the path has to be rooted before and after. -/

/-- Empty, or with a slash in front. -/
def Rooted (path : Text) : Prop := path = [] ∨ path.head? = some '/'

/-- The first segment stays where it is while dot segments are taken out. -/
theorem getLast?_foldSegments {done : List Text} (h : done.getLast? = some []) (segments : List Text) :
    (foldSegments done segments).getLast? = some [] := by
  induction segments generalizing done with
  -- nothing left: the segments are the ones that were held
  | nil => exact h
  | cons segment rest ih =>
    rw [foldSegments]
    split
    · exact ih h
    · -- two dots go up by one, but not above the first segment
      split
      · -- another segment, held in front of the others
        refine ih ?_
        split
        · exact h
        · rename_i hlong
          rw [Bool.or_eq_true, not_or, beq_iff_eq] at hlong
          match done, h, hlong with
          | [first], h, hlong =>
            obtain rfl : first = [] := Option.some.inj h
            exact absurd rfl hlong.2
          | first :: second :: done, h, _ => exact h
      · refine ih ?_
        rw [List.getLast?_cons, h]
        rfl

/-- **Taking out dot segments keeps a path rooted.** -/
theorem rooted_foldPath {path : Text} (h : Rooted path) : Rooted (foldPath path) := by
  rw [foldPath]
  split
  · match path, h with
    | [], _ => exact Or.inl rfl
    | c :: path, h =>
      obtain rfl : c = '/' := Option.some.inj (h.resolve_left (List.cons_ne_nil _ _))
      have hsplit : ('/' :: path).splitOn '/' = [] :: path.splitOn '/' :=
        List.splitOn_append_cons_self_of_not_mem List.not_mem_nil path
      have hfold : foldSegments [] ([] :: path.splitOn '/') = foldSegments [[]] (path.splitOn '/') := rfl
      rw [hsplit, hfold]
      -- the first segment is empty, and so the text begins with a slash again
      have hlast : (foldSegments [[]] (path.splitOn '/')).getLast? = some [] := getLast?_foldSegments rfl _
      obtain ⟨above, habove⟩ := List.getLast?_eq_some_iff.mp hlast
      rw [habove, List.reverse_append]
      cases habove' : above.reverse with
      | nil => exact Or.inl rfl
      | cons segment rest => exact Or.inr rfl
  · exact h

/-! ## Schemes

  A scheme is a name, and it is cut off a text only if it has the form of one. -/

/-- A name that a scheme may have: a letter, and then letters, digits and three marks. -/
def isSchemeName (name : Text) : Bool := name.head?.any Char.isAlpha && name.all isSchemeChar

theorem isSchemeChar_of_mem {name : Text} (h : isSchemeName name = true) {c : Char} (hc : c ∈ name) :
    isSchemeChar c = true :=
  List.all_eq_true.mp (Bool.and_eq_true_iff.mp h).2 c hc

/-- No scheme holds the mark that ends it. -/
theorem colon_notMem_of_isSchemeName {name : Text} (h : isSchemeName name = true) : ':' ∉ name := fun hmem =>
  absurd (isSchemeChar_of_mem h hmem) (by decide)

/-- The scheme in front of a text, and the rest. -/
def cutScheme (s : Text) : Text × Text :=
  match cut ':' s with
  | (name, some rest) => if name.isEmpty || isSchemeName name then (name, rest) else ([], s)
  | (_, none) => ([], s)

/-- What is cut off as a scheme has the form of one. -/
theorem scheme_cutText (s : Text) : (cutText s).scheme = [] ∨ isSchemeName (cutText s).scheme = true := by
  have hscheme : (cutText s).scheme = (cutScheme s).1 := rfl
  rw [hscheme, cutScheme]
  rcases cut ':' s with ⟨name, _ | rest⟩
  · exact Or.inl rfl
  · dsimp only
    split
    · rename_i hname
      rw [Bool.or_eq_true, List.isEmpty_iff] at hname
      exact hname
    · exact Or.inl rfl

theorem isVisible_of_isSchemeChar {c : Char} (h : isSchemeChar c = true) : isVisible c = true := by
  rw [isSchemeChar, Bool.or_eq_true, Bool.or_eq_true, Bool.or_eq_true, beq_iff_eq, beq_iff_eq, beq_iff_eq] at h
  rcases h with ((h | rfl) | rfl) | rfl
  · exact isVisible_of_isTokenChar (by rw [Header.isTokenChar, h]; rfl)
  · decide
  · decide
  · decide

/-- The lower case of a scheme is one too. -/
theorem isSchemeName_lower {name : Text} (h : isSchemeName name = true) : isSchemeName (lower name) = true := by
  rw [isSchemeName, Bool.and_eq_true, List.all_eq_true] at h
  have hascii : ∀ c ∈ name, isAscii c = true := fun c hc => isAscii_of_isVisible (isVisible_of_isSchemeChar (h.2 c hc))
  -- on ASCII, lower case is a matter of each character alone
  have hlower {c : Char} (hc : c ∈ name) : (isSchemeChar c = true → isSchemeChar c.toLower = true) ∧
      (c.isAlpha = true → c.toLower.isAlpha = true) :=
    ascii_forall c (of_decide_eq_true (hascii c hc)) (by decide +kernel)
  rw [lower_of_ascii hascii, isSchemeName, Bool.and_eq_true, List.all_eq_true, List.head?_map, Option.any_map]
  constructor
  · cases name with
    | nil => exact h.1
    | cons c rest => exact (hlower (List.mem_cons_self ..)).2 h.1
  · intro c hc
    obtain ⟨d, hd, rfl⟩ := List.mem_map.mp hc
    exact (hlower hd).1 (h.2 d hd)

/-! ## The form

  What is read is put together from percent coded parts, a host and a port.  Each field of the structure is what one
  of the sections or modules before says about its part. -/

/-- The form of every URL that is read. -/
structure Canonical (u : Url) : Prop where
  scheme : u.scheme = [] ∨ isSchemeName u.scheme = true ∧ lower u.scheme = u.scheme
  userinfo : ∀ c ∈ u.userinfo, printableExcept userinfoMarks c = true
  host : isAddress6 u.rawHost = true ∨ ∀ c ∈ u.rawHost, isHostChar c = true
  path : ∀ c ∈ u.path, printableExcept pathMarks c = true
  rooted : u.rawHost ≠ [] → Rooted u.path
  query : ∀ c ∈ u.query.getD [], printableExcept queryMarks c = true
  fragment : ∀ c ∈ u.fragment.getD [], printableExcept fragmentMarks c = true

theorem isVisible_of_printableExcept {marks : Text} {c : Char} (h : printableExcept marks c = true) :
    isVisible c = true := by
  rw [printableExcept, Bool.and_eq_true] at h
  exact h.1

/-- Percent coding writes no mark that is not safe, if none is a digit of base sixteen or the percent sign. -/
theorem printableExcept_of_mem_percentEncode {marks s : Text} {c : Char}
    (hmarks : "%0123456789ABCDEF".toList.all (printableExcept marks) = true)
    (h : c ∈ percentEncode (printableExcept marks) s) : printableExcept marks c = true := by
  rcases safe_or_escape_of_mem_percentEncode h with hsafe | ⟨b, hb⟩
  · exact hsafe
  · exact of_mem_percentByte hmarks hb

theorem printableExcept_of_mem_part {marks : Text} {part : Option Text} {c : Char}
    (hmarks : "%0123456789ABCDEF".toList.all (printableExcept marks) = true)
    (h : c ∈ (part.map (percentEncode (printableExcept marks))).getD []) : printableExcept marks c = true := by
  cases part with
  | none => exact absurd h List.not_mem_nil
  | some s => exact printableExcept_of_mem_percentEncode hmarks h

/-- A slash is not escaped, so a coded path stays rooted. -/
theorem rooted_percentEncode {path : Text} (h : Rooted path) :
    Rooted (percentEncode (printableExcept pathMarks) path) := by
  match path, h with
  | [], _ => exact Or.inl rfl
  | c :: path, h =>
    obtain rfl : c = '/' := Option.some.inj (h.resolve_left (List.cons_ne_nil _ _))
    exact Or.inr rfl

/-- **What is read from parts is in canonical form**, if its scheme had the form of one. -/
theorem canonical_of_ofCuts {cuts : Cuts} (h : ofCuts cuts = .ok u)
    (hscheme : cuts.scheme = [] ∨ isSchemeName cuts.scheme = true) : u.Canonical := by
  have hread := readOff_of_ofCuts h
  constructor
  · rw [hread.scheme]
    rcases hscheme with hempty | hname
    · rw [hempty]
      exact Or.inl rfl
    · exact Or.inr ⟨isSchemeName_lower hname, lower_lower _⟩
  · rw [hread.userinfo]
    exact fun c hc => printableExcept_of_mem_percentEncode (by decide) hc
  · exact isHostChar_of_readHost hread.host
  · rw [hread.path]
    exact fun c hc => printableExcept_of_mem_percentEncode (by decide) hc
  · -- behind a host the path was checked to be rooted
    intro hhost
    have hauthority : u.hasAuthority = true := by
      rw [hasAuthority, List.isEmpty_eq_false_iff.mpr hhost, Bool.not_false, Bool.or_true, Bool.true_or]
    have hchecked := hread.checked
    rw [hauthority, checkPath, if_pos rfl] at hchecked
    rw [hread.path, hauthority, Bool.or_true, if_pos rfl]
    refine rooted_percentEncode (rooted_foldPath ?_)
    split at hchecked
    · rename_i hrooted
      rw [Bool.or_eq_true, List.isEmpty_iff, beq_iff_eq] at hrooted
      exact hrooted
    · cases hchecked
  · rw [hread.query]
    exact fun c hc => printableExcept_of_mem_part (by decide) hc
  · rw [hread.fragment]
    exact fun c hc => printableExcept_of_mem_part (by decide) hc

/-- **Every URL that is read is in canonical form.** -/
theorem canonical_of_parse {s : Text} (h : parse s = .ok u) : u.Canonical :=
  canonical_of_ofCuts (of_read (read_of_parse h)).2 (scheme_cutText s)

end Url

end Courier
