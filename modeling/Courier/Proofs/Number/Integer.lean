/-
  Whole numbers, written and read back.

  The digits of a number have its value (`decimalValue_decimal`), so what is read of a number that was written is
  that number, unless it has too many digits to be read at all (`eq_of_readInteger?`).

  Three remarks carry this.  Writing is the library's `Nat.toDigits`, and the library says that reading the digits
  from the left gives the number back; `decimalValue_eq` is the bridge to the reader's own sum, which differs in
  the order of a product.  What is written is visible ASCII, so the reader finds it as it is: nothing is spelled
  otherwise, and nothing is cut off at the ends.  And it holds no low line, so the digits are one group.

  The bound on the digits is why the statement is about what is read and not that something is read: a content
  length of five thousand digits is written by a caller without complaint and read back by nobody.
-/
import Courier.Number.Integer
import Courier.Proofs.Text.Visible

namespace Courier

/-- The reader's sum is the one of the library. -/
theorem decimalValue_eq (s : Text) : decimalValue s = Nat.ofDigitChars 10 s 0 := by
  rw [decimalValue, Nat.ofDigitChars]
  refine congrArg (fun f => s.foldl f 0) (funext fun n => funext fun c => ?_)
  rw [Nat.mul_comm]
  rfl

/-- The digits of a number have its value. -/
theorem decimalValue_decimal (n : Nat) : decimalValue (decimal n) = n := by
  rw [decimalValue_eq, decimal_value]

theorem decimal_ne_nil (n : Nat) : decimal n ≠ [] := by
  intro hnil
  -- no digits have the value zero, which is written with one
  have hvalue := decimal_value n
  rw [hnil] at hvalue
  obtain rfl : 0 = n := hvalue
  exact absurd hnil (by decide)

theorem decimalInt_ne_nil (n : Int) : decimalInt n ≠ [] := by
  cases n with
  | ofNat n => exact decimal_ne_nil n
  | negSucc n => exact List.cons_ne_nil _ _

/-- An integer is written in digits, with a minus sign in front if it is negative. -/
theorem mem_decimalInt {n : Int} {c : Char} (h : c ∈ decimalInt n) : c = '-' ∨ c.isDigit = true := by
  cases n with
  | ofNat n => exact Or.inr (isDigit_of_mem_decimal h)
  | negSucc n => exact (List.mem_cons.mp h).imp_right isDigit_of_mem_decimal

/-- Visible characters are no blanks, and spelled in ASCII already. -/
theorem numeralText_of_visible {s : Text} (h : ∀ c ∈ s, isVisible c = true) : numeralText s = s := by
  have hspelled : s.map numeralChar = s := by
    refine (List.map_congr_left fun c hc => ?_).trans (List.map_id s)
    rw [numeralChar, if_pos (isVisible_iff.mp (h c hc)).2, id]
  rw [numeralText, hspelled]
  refine trim_of_forall fun c hc => ?_
  have hlow := (isVisible_iff.mp (h c hc)).1
  rw [isAsciiBlank, Bool.or_eq_false_iff, Bool.and_eq_false_iff, decide_eq_false_iff_not, decide_eq_false_iff_not,
    beq_eq_false_iff_ne]
  refine ⟨by omega, ?_⟩
  rintro rfl
  exact absurd hlow (by decide)

/-- Digits alone are one group. -/
theorem groupedDigits?_decimal (n : Nat) : groupedDigits? (decimal n) = some (decimal n) := by
  have hmark : '_' ∉ decimal n := fun hmem => absurd (isDigit_of_mem_decimal hmem) (by decide)
  have hdigits : ((decimal n).all Char.isDigit) = true := List.all_eq_true.mpr fun c hc => isDigit_of_mem_decimal hc
  rw [groupedDigits?, List.splitOn_eq_singleton hmark, List.all_cons, List.isEmpty_eq_false_iff.mpr (decimal_ne_nil n),
    hdigits]
  exact congrArg some (List.append_nil _)

/-- Digits begin with no sign. -/
theorem takeSign_decimal (n : Nat) : takeSign (decimal n) = (false, decimal n) := by
  have hdigit : ∀ c ∈ decimal n, c.isDigit = true := fun c hc => isDigit_of_mem_decimal hc
  cases hdecimal : decimal n with
  | nil => rfl
  | cons c rest =>
    rw [hdecimal] at hdigit
    have hc := hdigit c (List.mem_cons_self ..)
    rw [takeSign]
    · intro rest' hcons
      obtain ⟨rfl, _⟩ := List.cons.inj hcons
      exact absurd hc (by decide)
    · intro rest' hcons
      obtain ⟨rfl, _⟩ := List.cons.inj hcons
      exact absurd hc (by decide)

/-- **What is read of a number that was written is that number.** -/
theorem eq_of_readInteger? {n m : Int} (h : readInteger? (decimalInt n) = some m) : m = n := by
  rw [readInteger?, numeralText_of_visible fun c hc => isVisible_of_mem_decimalInt hc] at h
  cases n with
  | ofNat n =>
    -- no sign, one group, and the value of its digits
    rw [decimalInt, takeSign_decimal] at h
    dsimp only at h
    rw [groupedDigits?_decimal] at h
    dsimp only at h
    split at h
    · rw [decimalValue_decimal] at h
      exact (Option.some.inj h).symm
    · exact nomatch h
  | negSucc n =>
    -- the sign is the first character, and the digits are those of the absolute value
    rw [decimalInt, takeSign] at h
    dsimp only at h
    rw [groupedDigits?_decimal] at h
    dsimp only at h
    split at h
    · rw [decimalValue_decimal] at h
      exact (Option.some.inj h).symm
    · exact nomatch h

end Courier
