/-
  Upper case of tokens.

  Upper case takes a token to a token.  The other way round there is one exception in Latin-1: the sharp s, whose
  upper case is two ASCII letters (`upperChar_sharpS`).  No other character of the upper half goes to ASCII, which
  is a check of the rows of both tables that upper case looks in.

  * The simple mappings keep the upper half outside ASCII.  A row does if it begins above Latin-1, ends within
    ASCII, or has its targets outside (`Rows.staysHigh`), and this is so of all rows (`upperRows_stay`).

  * Of the characters that become several, the sharp s is the first, and the only one in Latin-1
    (`wideUpper_front`).

  So a text in Latin-1 is a token in upper case exactly when it is one but for sharp s (`isToken_upper_iff`).  The
  restriction to Latin-1 is that of a head: a method with any other character is not written at all.
-/
import Courier.Proofs.Text.Case
import Courier.Proofs.Text.Visible

namespace Courier

namespace Rows

/-- Whether a row of a simple mapping keeps the upper half of Latin-1 outside ASCII. -/
def staysHigh : List Nat → Bool
  | [low, high, _, target] => 256 ≤ low || high < 128 || 128 ≤ target
  | _ => true

variable {rows : Rows} {c : Nat}

/-- Such a mapping takes the upper half of Latin-1 to nothing in ASCII. -/
theorem le_mapSimple (hrows : rows.toList.all staysHigh = true) (hlow : 128 ≤ c) (hhigh : c < 256) :
    128 ≤ rows.mapSimple c := by
  rw [mapSimple]
  split
  · rename_i low high step target hrow
    have hstays := List.all_eq_true.mp hrows _ (mem_of_rowAt? hrow)
    have hbelow : low ≤ c := le_of_rowAt? hrow
    simp only [staysHigh, Bool.or_eq_true, decide_eq_true_iff] at hstays
    split
    · rename_i hmaps
      rw [Bool.and_eq_true, decide_eq_true_iff] at hmaps
      omega
    · exact hlow
  · exact hlow

/-- A row that is found under a number begins with it. -/
theorem mem_of_get? {rest : List Nat} (h : rows.get? c = some rest) : c :: rest ∈ rows.toList := by
  rw [get?] at h
  split at h
  · rename_i low tail hrow
    split at h
    · rename_i hsame
      rw [← Option.some.inj h, ← hsame]
      exact mem_of_rowAt? hrow
    · exact nomatch h
  · exact nomatch h

end Rows

set_option maxRecDepth 100000 in
theorem upperRows_stay : upperRows.toList.all Rows.staysHigh = true := by
  unfold upperRows
  apply Rows.all_toList_read
  decide +kernel

/-- The one character of Latin-1 that becomes several in upper case. -/
def sharpS : Char := Char.ofNat 0xdf

set_option maxRecDepth 100000 in
/-- The rows of the characters that become several, checked. -/
theorem wideUpper_front :
    ∃ rest, wideUpper.toList = [sharpS.toNat, 0x53, 0x53] :: rest ∧ ∀ row ∈ rest, 256 ≤ row.headD 0 := by
  have hfront : wideUpper.toList.head? = some [sharpS.toNat, 0x53, 0x53] ∧
      (wideUpper.toList.tail.all fun row => 256 ≤ row.headD 0) = true := by
    unfold wideUpper
    rw [Rows.toList_read]
    decide +kernel
  obtain ⟨hhead, htail⟩ := hfront
  obtain ⟨rest, hrest⟩ := List.head?_eq_some_iff.mp hhead
  refine ⟨rest, hrest, fun row hrow => ?_⟩
  rw [hrest] at htail
  exact of_decide_eq_true (List.all_eq_true.mp htail row hrow)

theorem upperChar_sharpS : upperChar sharpS = ['S', 'S'] := by
  obtain ⟨rest, hrows, hrest⟩ := wideUpper_front
  have hsharp : sharpS.toNat < 256 := by decide
  have hrow : wideUpper.rowAt? sharpS.toNat = some [sharpS.toNat, 0x53, 0x53] :=
    Rows.rowAt?_of_first hrows (Nat.le_refl _) fun row hr => Nat.lt_of_lt_of_le hsharp (hrest row hr)
  rw [upperChar, if_neg (by decide), Rows.get?, hrow]
  rfl

/-- No other character of Latin-1 becomes several. -/
theorem eq_sharpS_of_get? {c : Char} {several : List Nat} (hlatin : c.toNat < 256)
    (h : wideUpper.get? c.toNat = some several) : c = sharpS := by
  obtain ⟨rest, hrows, hrest⟩ := wideUpper_front
  have hrow := Rows.mem_of_get? h
  rw [hrows, List.mem_cons] at hrow
  rcases hrow with hfirst | hlater
  · exact Char.toNat_inj.mp (List.cons.inj hfirst).1
  · exact absurd (hrest _ hlater) (Nat.not_le.mpr hlatin)

/-- The code point of a token character is one, so no number beyond ASCII makes one. -/
theorem not_isTokenChar_ofNat {v : Nat} (h : 128 ≤ v) : Header.isTokenChar (Char.ofNat v) = false := by
  by_cases hvalid : v.isValidChar
  · rw [← Bool.not_eq_true]
    intro htoken
    have hlow := lt_of_isTokenChar htoken
    rw [toNat_ofNat hvalid] at hlow
    omega
  · rw [Char.ofNat, dif_neg hvalid]
    decide

/-- **Of the characters of Latin-1, those of tokens and the sharp s alone have an upper case for tokens.** -/
theorem isTokenChar_or_sharp {c : Char} (hlatin : c.toNat < 256) (h : (upperChar c).all Header.isTokenChar = true) :
    Header.isTokenChar c = true ∨ c = sharpS := by
  rcases Nat.lt_or_ge c.toNat 128 with hascii | hhigh
  · -- within ASCII every character is looked at
    left
    revert h
    exact ascii_forall c hascii (by decide +kernel)
  · -- outside it is a character that becomes several, or it stays outside
    right
    rw [upperChar, if_neg (Nat.not_lt.mpr hhigh)] at h
    split at h
    · rename_i several hseveral
      exact eq_sharpS_of_get? hlatin hseveral
    · rw [List.all_cons, Bool.and_eq_true,
        not_isTokenChar_ofNat (Rows.le_mapSimple upperRows_stay hhigh hlatin)] at h
      exact Bool.noConfusion h.1

/-- **A Latin-1 text is a token in upper case exactly when it is one but for sharp s.** -/
theorem isToken_upper_iff {s : Text} (hlatin : ∀ c ∈ s, c.toNat < 256) :
    Header.isToken (upper s) = true ↔ s ≠ [] ∧ ∀ c ∈ s, Header.isTokenChar c = true ∨ c = sharpS := by
  rw [isToken_iff]
  constructor
  · rintro ⟨hne, hchars⟩
    refine ⟨?_, fun c hc => ?_⟩
    · rintro rfl
      exact hne rfl
    · refine isTokenChar_or_sharp (hlatin c hc) (List.all_eq_true.mpr fun d hd => hchars d ?_)
      exact List.mem_flatMap.mpr ⟨c, hc, hd⟩
  · rintro ⟨hne, hchars⟩
    have hupper : ∀ c ∈ s, upperChar c ≠ [] ∧ ∀ d ∈ upperChar c, Header.isTokenChar d = true := by
      intro c hc
      rcases hchars c hc with htoken | rfl
      · rw [upperChar, if_pos (lt_of_isTokenChar htoken)]
        exact ⟨List.cons_ne_nil _ _, List.forall_mem_singleton.mpr (isTokenChar_toUpper htoken)⟩
      · rw [upperChar_sharpS]
        have hletters : ['S', 'S'].all Header.isTokenChar = true := by decide
        exact ⟨List.cons_ne_nil _ _, List.all_eq_true.mp hletters⟩
    refine ⟨?_, fun d hd => ?_⟩
    · obtain ⟨c, hc⟩ := List.exists_mem_of_ne_nil s hne
      exact fun hnil => (hupper c hc).1 (List.flatMap_eq_nil_iff.mp hnil c hc)
    · obtain ⟨c, hc, hd⟩ := List.mem_flatMap.mp hd
      exact (hupper c hc).2 d hd

end Courier
