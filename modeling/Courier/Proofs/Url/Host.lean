/-
  What the host of a URL is made of.

  A host can be read in five ways, and what comes out is different in each: nothing, an address of version four as
  it was written, what stood between the brackets of an address of version six, an ASCII name in lower case with its
  other characters escaped, or the ASCII form of an international name.

  1. **The ways of reading** (`Url.ReadsHost`): one constructor for each way, with the test that led there.  The
     function that reads hosts is opened once, in `Url.readsHost_of_readHost`, and every fact about a host that was
     read is a case analysis on this relation.

  2. **Host characters** (`Url.isHostChar`): visible ASCII without the marks that end a scheme, an authority, user
     information or a port.  They are what makes a URL text cut again where it was put together.  Each alphabet that
     a host may be written in lies within them: names, digits and dots, and what percent coding leaves or writes.

  3. **The result** (`Url.isHostChar_of_readHost`): what is read is an address of version six or is made of host
     characters.  The first alternative is a real one.  The scope behind a percent sign in such an address is kept
     as it is, so it may hold characters that are no host characters, and it is told by its colons
     (`Url.colon_mem_of_isAddress6`).

  Statements about one character are checked for the 128 ASCII characters by computation (`Url.of_ascii_check`),
  after it has been shown that there are no others.
-/
import Courier.Proofs.Idna.Alphabet
import Courier.Url.Parse

namespace Courier

namespace Url

/-! ## Host characters

  Inclusions between alphabets, each by a check of the ASCII characters. -/

/-- Visible ASCII without the delimiters of a URL. -/
def isHostChar (c : Char) : Bool := isVisible c && !"/?#@[]:".toList.contains c

theorem isVisible_of_isHostChar {c : Char} (h : isHostChar c = true) : isVisible c = true :=
  (Bool.and_eq_true_iff.mp h).1

/-- A property of visible characters that is checked one by one. -/
theorem of_ascii_check {p q : Char → Bool} (hall : ∀ n : Fin 128, p (Char.ofNat n) = true → q (Char.ofNat n) = true)
    (hvisible : ∀ c, p c = true → isVisible c = true) {c : Char} (h : p c = true) : q c = true := by
  have hlow : c.toNat < 128 := Nat.lt_trans (isVisible_iff.mp (hvisible c h)).2 (by decide)
  revert h
  exact ascii_forall c hlow hall

theorem isHostChar_of_hostSafe {c : Char} (h : safeWith hostMarks c = true) : isHostChar c = true :=
  of_ascii_check (by decide +kernel) (fun _ => isVisible_of_safeWith (by decide)) h

/-- The characters of names can be seen. -/
theorem isVisible_of_isNameChar {c : Char} (h : Idna.isNameChar c = true) : isVisible c = true := by
  apply isVisible_of_isUnreserved
  rw [Idna.isNameChar, Idna.isLabelChar, Bool.or_eq_true, Bool.or_eq_true] at h
  rw [isUnreserved]
  rcases h with (h | h) | h
  · rw [h]
    rfl
  · rw [h, Bool.or_true, Bool.true_or]
  · rw [h, Bool.or_true, Bool.true_or, Bool.true_or]

theorem isHostChar_of_isNameChar {c : Char} (h : Idna.isNameChar c = true) : isHostChar c = true :=
  of_ascii_check (by decide +kernel) (fun _ => isVisible_of_isNameChar) h

/-! ## Addresses

  The two kinds of addresses are told apart by their characters. -/

/-- A character of a text is the mark at which it is split, or stands in a part. -/
theorem mem_splitOn_or {mark c : Char} {s : Text} (h : c ∈ s) : c = mark ∨ ∃ part ∈ s.splitOn mark, c ∈ part := by
  have hjoin : [mark].intercalate (s.splitOn mark) = s := List.intercalate_splitOn mark
  rw [← hjoin] at h
  exact (mem_of_mem_intercalate h).imp_left List.mem_singleton.mp

/-- A version four address is made of digits and dots. -/
theorem isNameChar_of_isAddress4 {s : Text} (h : isAddress4 s = true) {c : Char} (hc : c ∈ s) :
    Idna.isNameChar c = true := by
  rw [isAddress4, Bool.and_eq_true, List.all_eq_true] at h
  have hcut : c = '.' ∨ ∃ part ∈ s.splitOn '.', c ∈ part := mem_splitOn_or hc
  -- a dot, or a digit of a part
  rcases hcut with rfl | ⟨part, hpart, hc⟩
  · rfl
  · have hpart := h.2 part hpart
    rw [isOctetText, Bool.and_eq_true, Bool.and_eq_true, Bool.and_eq_true, Bool.and_eq_true, List.all_eq_true] at hpart
    rw [Idna.isNameChar, Idna.isLabelChar, Char.isAlphanum, hpart.1.1.1.2 c hc, Bool.or_true, Bool.true_or, Bool.true_or]

/-- A version six address has colons. -/
theorem colon_mem_of_isAddress6 {s : Text} (h : isAddress6 s = true) : ':' ∈ s := by
  -- without a colon there is one group only, and one is not enough
  have hplain {t : Text} (ht : isPlainAddress6 t = true) : ':' ∈ t := by
    rw [isPlainAddress6] at ht
    by_contra hmark
    have hnone : addressGroups? t = none := by
      rw [addressGroups?, List.splitOn_eq_singleton hmark]
      rfl
    rw [hnone] at ht
    exact Bool.noConfusion ht
  rw [isAddress6, Bool.and_eq_true] at h
  -- the colon of the address itself, with or without a scope behind it
  rcases hcut : cut '%' s with ⟨address, _ | scope⟩
  · rw [hcut] at h
    have hmem : ':' ∈ (cut '%' s).1 := by
      rw [hcut]
      exact hplain h.2
    exact (List.takeWhile_sublist _).subset hmem
  · rw [hcut, Bool.and_eq_true] at h
    have hmem : ':' ∈ (cut '%' s).1 := by
      rw [hcut]
      exact hplain h.2.2
    exact (List.takeWhile_sublist _).subset hmem

/-! ## Hosts

  One case for each way of reading. -/

/-- The ways in which a host is read. -/
inductive ReadsHost (host : Text) : Text → Prop
  | empty (hhost : host = []) : ReadsHost host []
  | address4 (hnumeric : looksNumeric host = true) (haddress : isAddress4 host = true) : ReadsHost host host
  | address6 (haddress : isAddress6 host.tail.dropLast = true) : ReadsHost host host.tail.dropLast
  | ascii (hascii : host.all isAscii = true) : ReadsHost host (percentEncode (safeWith hostMarks) (lower host))
  | name {written : Text} (hencode : Idna.encode (lower host) = .ok written) : ReadsHost host written

/-- **How a host was read**: the tests are made in this order, and the first that holds decides. -/
theorem readsHost_of_readHost {host written : Text} (h : readHost host = .ok written) : ReadsHost host written := by
  rw [readHost] at h
  split at h
  · rename_i hempty
    exact Except.ok.inj h ▸ .empty (List.isEmpty_iff.mp hempty)
  · split at h
    · rename_i hnumeric
      split at h
      · rename_i haddress
        exact Except.ok.inj h ▸ .address4 hnumeric haddress
      · cases h
    · split at h
      · dsimp only at h
        split at h
        · rename_i haddress
          exact Except.ok.inj h ▸ .address6 haddress
        · cases h
      · split at h
        · rename_i hascii
          exact Except.ok.inj h ▸ .ascii hascii
        · split at h
          · rename_i hencode
            exact Except.ok.inj h ▸ .name hencode
          · cases h

/-- The characters of an address stand in the host. -/
theorem mem_of_mem_inside {host : Text} {c : Char} (h : c ∈ host.tail.dropLast) : c ∈ host :=
  List.mem_of_mem_tail ((List.dropLast_sublist _).subset h)

/-- **A host that is read** is an address of version six, or made of host characters. -/
theorem isHostChar_of_readHost {host written : Text} (h : readHost host = .ok written) :
    isAddress6 written = true ∨ ∀ c ∈ written, isHostChar c = true := by
  cases readsHost_of_readHost h with
  | empty hhost => exact Or.inr (List.forall_mem_nil _)
  | address4 hnumeric haddress =>
    exact Or.inr fun c hc => isHostChar_of_isNameChar (isNameChar_of_isAddress4 haddress hc)
  | address6 haddress => exact Or.inl haddress
  | ascii hascii =>
    refine Or.inr fun c hc => ?_
    -- a character that was left alone, or one of an escape
    rcases safe_or_escape_of_mem_percentEncode hc with hsafe | ⟨b, hb⟩
    · exact isHostChar_of_hostSafe hsafe
    · exact of_mem_percentByte (by decide) hb
  | name hencode => exact Or.inr fun c hc => isHostChar_of_isNameChar (Idna.isNameChar_of_encode hencode hc)

end Url

end Courier
