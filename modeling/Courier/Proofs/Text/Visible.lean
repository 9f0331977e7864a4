/-
  Visible ASCII, and which texts of this library consist of it.

  Tokens, numbers and everything that percent coding writes are visible ASCII.  Such a text can be written in either
  alphabet of single octets, and it holds none of the characters that the grammars of heads give a meaning to
  between lines: no blank, no line end, no control character.

  `isVisible` is the class that most proofs about texts go through.  It is narrow enough to be inside every class
  that a text of a request must keep to (`isInline_of_isVisible`, `not_isBlank_of_isVisible`,
  `isAscii_of_isVisible`), and wide enough to hold every text that the library itself puts together.  So for a text
  that is made from tokens, digits and escapes, one lemma for each of these says that it is visible, and what is
  asked of it follows.

  `isInline` is wider: it has blanks and all that lies outside ASCII, and leaves out what would end a line.  It is
  what the value of a field must keep to.

  Some of these facts are about ASCII alone, and are checked for its characters one by one (`ascii_forall`).
-/
import Courier.Header.Basic
import Courier.Proofs.Basic
import Courier.Text.Narrow
import Courier.Text.Percent

namespace Courier

/-- The characters between the space and the end of ASCII. -/
def isVisible (c : Char) : Bool := 32 < c.toNat && c.toNat < 127

/-- By code points. -/
theorem isVisible_iff {c : Char} : isVisible c = true ↔ 32 < c.toNat ∧ c.toNat < 127 := by
  rw [isVisible, Bool.and_eq_true, decide_eq_true_iff, decide_eq_true_iff]

/-- What is visible is ASCII. -/
theorem isAscii_of_isVisible {c : Char} (h : isVisible c = true) : isAscii c = true := by
  rw [isVisible_iff] at h
  rw [isAscii, decide_eq_true_iff]
  omega

/-- No blank is visible. -/
theorem not_isBlank_of_isVisible {c : Char} (h : isVisible c = true) : isBlank c = false := by
  rw [isVisible_iff] at h
  simp only [isBlank, blanks, List.any_cons, List.any_nil, Bool.or_false, Bool.or_eq_false_iff, Bool.and_eq_false_iff,
    decide_eq_false_iff_not]
  omega

/-! ## Characters that stay on their line

  This is a larger class than visible ASCII: a blank, a letter of Latin-1 or any other character may stand in a
  line, if it is neither zero nor a line control. -/

/-- A character that may stand inside a line of a head: neither zero nor a line control. -/
def isInline (c : Char) : Bool := c.toNat != 0 && (c.toNat < 10 || 13 < c.toNat)

/-- By code points, without zero and the controls of lines. -/
theorem isInline_iff {c : Char} : isInline c = true ↔ c.toNat ≠ 0 ∧ (c.toNat < 10 ∨ 13 < c.toNat) := by
  rw [isInline, Bool.and_eq_true, Bool.or_eq_true, bne_iff_ne, decide_eq_true_iff, decide_eq_true_iff]

theorem isInline_of_le {c : Char} (h : 32 ≤ c.toNat) : isInline c = true := by
  rw [isInline_iff]
  omega

/-- What is visible stays on its line. -/
theorem isInline_of_isVisible {c : Char} (h : isVisible c = true) : isInline c = true := by
  rw [isVisible_iff] at h
  exact isInline_of_le (by omega)

/-- A line feed does not. -/
theorem ne_of_isInline {c : Char} (h : isInline c = true) : c ≠ '\n' := by
  rintro rfl
  exact absurd h (by decide)

/-! ## Numbers

  Numbers are written with digits, which are visible. -/

/-- Digits are visible. -/
theorem isVisible_of_isDigit {c : Char} (h : c.isDigit = true) : isVisible c = true := by
  have hd : 48 ≤ c.toNat ∧ c.toNat ≤ 57 := Char.isDigit_iff_toNat.mp h
  rw [isVisible_iff]
  omega

/-- A number is written in digits. -/
theorem isDigit_of_mem_decimal {n : Nat} {c : Char} (h : c ∈ decimal n) : c.isDigit = true :=
  Nat.isDigit_of_mem_toDigits (by decide) (by decide) h

theorem isVisible_of_mem_decimal {n : Nat} {c : Char} (h : c ∈ decimal n) : isVisible c = true :=
  isVisible_of_isDigit (isDigit_of_mem_decimal h)

/-- A number with a sign is visible, the sign as well. -/
theorem isVisible_of_mem_decimalInt {n : Int} {c : Char} (h : c ∈ decimalInt n) :
    isVisible c = true := by
  cases n with
  | ofNat n => exact isVisible_of_mem_decimal h
  | negSucc n =>
    rcases List.mem_cons.mp h with rfl | h
    · decide
    · exact isVisible_of_mem_decimal h

/-! ## Tokens

  The characters of tokens are visible, and stay so in upper case. -/

/-- Token characters are ASCII. -/
theorem lt_of_isTokenChar {c : Char} (h : Header.isTokenChar c = true) : c.toNat < 128 := by
  have hmarks : Header.tokenMarks.all isAscii = true := by decide
  rw [Header.isTokenChar, Bool.or_eq_true, List.contains_iff_mem] at h
  rcases h with h | h
  · have hranges : ((decide (65 ≤ c.val ∧ c.val ≤ 90) || (decide (97 ≤ c.val) && decide (c.val ≤ 122))) ||
        (decide (48 ≤ c.val) && decide (c.val ≤ 57))) = true := h
    simp only [Bool.or_eq_true, Bool.and_eq_true, decide_eq_true_iff, UInt32.le_iff_toNat_le] at hranges
    change ((65 ≤ c.toNat ∧ c.toNat ≤ 90) ∨ (97 ≤ c.toNat ∧ c.toNat ≤ 122)) ∨
      (48 ≤ c.toNat ∧ c.toNat ≤ 57) at hranges
    omega
  · exact of_decide_eq_true (List.all_eq_true.mp hmarks c h)

/-- Token characters are visible. -/
theorem isVisible_of_isTokenChar {c : Char} (h : Header.isTokenChar c = true) : isVisible c = true := by
  have hlow := lt_of_isTokenChar h
  revert h
  exact ascii_forall c hlow (by decide +kernel)

/-- The upper case of a token character is one. -/
theorem isTokenChar_toUpper {c : Char} (h : Header.isTokenChar c = true) : Header.isTokenChar c.toUpper = true := by
  have hlow := lt_of_isTokenChar h
  revert h
  exact ascii_forall c hlow (by decide +kernel)

/-- A token is a text of token characters, and not empty. -/
theorem isToken_iff {s : Text} :
    Header.isToken s = true ↔ s ≠ [] ∧ ∀ c ∈ s, Header.isTokenChar c = true := by
  rw [Header.isToken, Bool.and_eq_true, List.all_eq_true, Bool.not_eq_true', ne_eq,
    ← List.isEmpty_iff, Bool.not_eq_true]

theorem upper_of_ascii {s : Text} (h : ∀ c ∈ s, c.toNat < 128) : upper s = s.map Char.toUpper := by
  induction s with
  | nil => rfl
  | cons c t ih =>
    have ht := ih fun d hd => h d (List.mem_cons_of_mem _ hd)
    rw [upper] at ht ⊢
    rw [List.flatMap_cons, ht, upperChar, if_pos (h c (List.mem_cons_self ..))]
    rfl

/-- The upper case of a token is a token. -/
theorem isToken_upper {s : Text} (h : Header.isToken s = true) : Header.isToken (upper s) = true := by
  rw [isToken_iff] at h ⊢
  rw [upper_of_ascii fun c hc => lt_of_isTokenChar (h.2 c hc)]
  refine ⟨fun hn => h.1 (List.map_eq_nil_iff.mp hn), fun c hc => ?_⟩
  obtain ⟨d, hd, rfl⟩ := List.mem_map.mp hc
  exact isTokenChar_toUpper (h.2 d hd)

/-! ## Percent coding

  What is written is a safe character or one of an escape, and escapes are visible. -/

/-- An escape is written with the percent sign and the digits of base sixteen. -/
theorem of_mem_percentByte {p : Char → Bool} (hp : "%0123456789ABCDEF".toList.all p = true) {b : UInt8} {c : Char}
    (h : c ∈ percentByte b) : p c = true := by
  have hall : (percentByte b).all "%0123456789ABCDEF".toList.contains = true := octet_forall b (by decide +kernel)
  exact List.all_eq_true.mp hp c (List.contains_iff_mem.mp (List.all_eq_true.mp hall c h))

/-- An escape is visible. -/
theorem isVisible_of_mem_percentByte {b : UInt8} {c : Char} (h : c ∈ percentByte b) : isVisible c = true :=
  of_mem_percentByte (by decide) h

/-- What percent coding writes is safe, or part of an escape. -/
theorem safe_or_escape_of_mem_percentEncode {safe : Char → Bool} {s : Text} {c : Char}
    (h : c ∈ percentEncode safe s) : safe c = true ∨ ∃ b, c ∈ percentByte b := by
  obtain ⟨d, _, hc⟩ := List.mem_flatMap.mp h
  split at hc
  · rename_i hd
    rw [List.mem_singleton.mp hc]
    exact Or.inl hd
  · obtain ⟨b, _, hb⟩ := List.mem_flatMap.mp hc
    exact Or.inr ⟨b, hb⟩

/-- What percent coding writes is safe or visible. -/
theorem safe_or_isVisible_of_mem_percentEncode {safe : Char → Bool} {s : Text} {c : Char}
    (h : c ∈ percentEncode safe s) : safe c = true ∨ isVisible c = true := by
  rcases safe_or_escape_of_mem_percentEncode h with hsafe | ⟨b, hb⟩
  · exact Or.inl hsafe
  · exact Or.inr (isVisible_of_mem_percentByte hb)

/-- Percent coding with a visible safe set writes visible text. -/
theorem isVisible_of_mem_percentEncode {safe : Char → Bool} (hsafe : ∀ c, safe c = true → isVisible c = true)
    {s : Text} {c : Char} (h : c ∈ percentEncode safe s) : isVisible c = true :=
  (safe_or_isVisible_of_mem_percentEncode h).elim (hsafe c) id

theorem isVisible_of_isUnreserved {c : Char} (h : isUnreserved c = true) : isVisible c = true := by
  rw [isUnreserved, Bool.or_eq_true, Bool.or_eq_true, Bool.or_eq_true, Bool.or_eq_true] at h
  rcases h with (((h | h) | h) | h) | h
  · exact isVisible_of_isTokenChar (by rw [Header.isTokenChar, h]; rfl)
  · rw [beq_iff_eq.mp h]; decide
  · rw [beq_iff_eq.mp h]; decide
  · rw [beq_iff_eq.mp h]; decide
  · rw [beq_iff_eq.mp h]; decide

theorem isVisible_of_isAlphanum {c : Char} (h : c.isAlphanum = true) : isVisible c = true :=
  isVisible_of_isUnreserved (by rw [isUnreserved, h]; rfl)

/-- A safe set is visible when its marks are. -/
theorem isVisible_of_safeWith {marks : Text} (hmarks : marks.all isVisible = true) {c : Char}
    (h : safeWith marks c = true) : isVisible c = true := by
  rw [safeWith, Bool.or_eq_true] at h
  rcases h with h | h
  · exact isVisible_of_isUnreserved h
  · exact List.all_eq_true.mp hmarks c (List.contains_iff_mem.mp h)

/-! ## Writing in an alphabet of single octets

  ASCII and Latin-1 are alphabets with an octet for each character, and a text can be written when all its
  characters are in the alphabet. -/

/-- A text of an alphabet can be written in it, an octet for a character. -/
theorem Narrow.write_of_holds {a : Narrow} {s : Text} (h : ∀ c ∈ s, a.holds c = true) :
    a.write s = .ok (s.map fun c => UInt8.ofNat c.toNat) := by
  have hd : s.dropWhile a.holds = [] := by
    rw [← List.append_nil s, List.dropWhile_append_of_pos h]
    rfl
  rw [write, hd]

/-- What was written is in the alphabet, and an octet for a character. -/
theorem Narrow.of_write {a : Narrow} {s : Text} {b : Bytes} (h : a.write s = .ok b) :
    (∀ c ∈ s, a.holds c = true) ∧ b = s.map fun c => UInt8.ofNat c.toNat := by
  rw [write] at h
  split at h
  · rename_i hd
    have hall := List.any_dropWhile (p := a.holds) (l := s)
    rw [hd, List.any_nil, Bool.false_eq, Bool.not_eq_false'] at hall
    exact ⟨List.all_eq_true.mp hall, (Except.ok.inj h).symm⟩
  · exact absurd h (by simp)

theorem Narrow.holds_of_isAscii {a : Narrow} {c : Char} (h : isAscii c = true) : a.holds c = true := by
  rw [isAscii, decide_eq_true_iff] at h
  rw [holds, decide_eq_true_iff]
  cases a with
  | ascii => exact h
  | latin1 => exact Nat.lt_trans h (by decide)

end Courier
