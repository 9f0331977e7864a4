/-
  Taking in the values of a response, one after the other.

  The values are read in order, each at its own moment, and what is read first has no part in how the others are
  read but through the jar: so the intake of two lists in a row is the intake of the second behind that of the
  first, with the clock for the values after those (`Intake.addAll_append`), and only the readings for the values
  themselves count (`Intake.addAll_congr`).  The two together allow values to be taken out of a list or put between
  others, with `Clock.after` for the readings of what stands behind and `Clock.without` for the readings without
  one.

  A Set-Cookie value without a pair of name and value is skipped, and so is one that is useless.  What is not
  skipped is a URL that is no origin: the first value with a pair then makes the whole intake fail
  (`Jar.ingest_isOk_iff`).  The domain that a value is given before it is read has no part in this, because it comes
  after a semicolon (`hasPair_withDomain`).

  So an intake fails at the first value with a pair or not at all, and whatever the values before it are, they have
  left the jar alone.
-/
import Courier.Proofs.Cookie.Value

namespace Courier

/-! ## Clocks

  Every value is read at a moment of its own, and a clock gives the moment by the place of the value.  To speak of
  the values behind others, or of the values with one left out, is to speak of another clock. -/

namespace Clock

/-- The clock for the values after the first `n`. -/
def after (clock : Clock) (n : Nat) : Clock := fun i => clock (i + n)

/-- The clock without its reading at one place: what it shows when the value there is left out. -/
def without (clock : Clock) (n : Nat) : Clock := fun i => if i < n then clock i else clock (i + 1)

theorem after_zero (clock : Clock) (n : Nat) : clock.after n 0 = clock n := congrArg clock (Nat.zero_add n)

theorem without_of_lt {clock : Clock} {n i : Nat} (h : i < n) : clock.without n i = clock i := if_pos h

/-- Behind the place that is left out, the clock is one reading further. -/
theorem after_without (clock : Clock) (n : Nat) : (clock.without n).after n = (clock.after n).later := by
  funext i
  have hplace : ¬ i + n < n := by omega
  rw [after, without, if_neg hplace, later, after, Nat.add_right_comm]

end Clock

/-! ## Values in a row

  Taking in a list of values that was put together is taking in one part and then the other, with the clock moved
  on. -/

namespace Intake

variable {clock : Clock} {hostname url : Text} {intake : Intake}

/-- The values behind others are read when those have been. -/
theorem addAll_append (values more : List Text) :
    intake.addAll clock hostname url (values ++ more) =
      match intake.addAll clock hostname url values with
      | (.ok (), intake) => intake.addAll (clock.after values.length) hostname url more
      | (.error e, intake) => (.error e, intake) := by
  induction values generalizing intake clock with
  | nil => rfl
  | cons raw rest ih =>
    rw [List.cons_append, addAll, addAll]
    rcases intake.add (clock 0) hostname url raw with ⟨e | ⟨⟩, intake'⟩
    · rfl
    · exact ih

/-- Only the readings for the values themselves count. -/
theorem addAll_congr {clock' : Clock} (values : List Text) (h : ∀ i < values.length, clock i = clock' i) :
    intake.addAll clock hostname url values = intake.addAll clock' hostname url values := by
  induction values generalizing intake clock clock' with
  | nil => rfl
  | cons raw rest ih =>
    have hrest : ∀ i < rest.length, clock.later i = clock'.later i :=
      fun i hi => h (i + 1) (Nat.succ_lt_succ hi)
    rw [addAll, addAll, h 0 (Nat.zero_lt_succ _)]
    rcases intake.add (clock' 0) hostname url raw with ⟨e | ⟨⟩, intake'⟩
    · rfl
    · exact ih hrest

end Intake

/-! ## Failures

  A failure can only come from the URL of the response, which is read as the origin of a cookie.  It is read only
  when there is a pair to store. -/

/-- One value is taken in or skipped, unless it has a pair and the URL is no origin. -/
theorem Intake.add_isOk_iff {now : Int} {hostname url : Text} {intake : Intake} {raw : Text} :
    (intake.add now hostname url raw).1.isOk = true ↔
      SetCookie.hasPair raw = false ∨ (Origin.read url).isOk = true := by
  rw [add, SetCookie.read, hasPair_withDomain]
  cases hp : SetCookie.hasPair raw with
  | false => simp [Except.isOk, Except.toBool]
  | true =>
    cases ho : Origin.read url with
    | error e => simp [Except.isOk, Except.toBool]
    | ok origin =>
      simp only [Bool.not_true, Bool.false_eq_true, if_false]
      split
      · rename_i hread
        split at hread
        · exact absurd hread (by simp)
        · exact absurd hread (by simp)
      · simp [Except.isOk, Except.toBool]
      · split <;> simp [Except.isOk, Except.toBool]

/-- The values of a response are all taken in or skipped, unless one of them has a pair and the URL is no origin. -/
theorem Intake.addAll_isOk_iff {clock : Clock} {hostname url : Text} {intake : Intake} {values : List Text} :
    (intake.addAll clock hostname url values).1.isOk = true ↔
      (∀ raw ∈ values, SetCookie.hasPair raw = false) ∨ (Origin.read url).isOk = true := by
  induction values generalizing intake clock with
  | nil => simp [addAll, Except.isOk, Except.toBool]
  | cons raw rest ih =>
    have hadd := @add_isOk_iff (clock 0) hostname url intake raw
    rw [addAll]
    rcases h : intake.add (clock 0) hostname url raw with ⟨e | ⟨⟩, intake'⟩
    · -- the first value fails: it has a pair, and the URL is no origin
      rw [h] at hadd
      have hno : ¬ (SetCookie.hasPair raw = false ∨ (Origin.read url).isOk = true) :=
        fun hok => absurd (hadd.mpr hok) (by simp [Except.isOk, Except.toBool])
      rw [not_or] at hno
      refine ⟨fun hok => absurd hok (by simp [Except.isOk, Except.toBool]), fun hok => ?_⟩
      rcases hok with hnone | horigin
      · exact absurd (hnone raw (List.mem_cons_self ..)) hno.1
      · exact absurd horigin hno.2
    · -- it was taken in or skipped, and the others decide
      rw [h] at hadd
      have hraw := hadd.mp rfl
      dsimp only
      rw [ih, List.forall_mem_cons]
      constructor
      · rintro (hrest | horigin)
        · exact hraw.imp_left fun hp => ⟨hp, hrest⟩
        · exact Or.inr horigin
      · rintro (⟨_, hrest⟩ | horigin)
        · exact Or.inl hrest
        · exact Or.inr horigin

/-- **Taking in cookies fails only for want of an origin**: when the URL of the response is none, and some
    value has a pair. -/
theorem Jar.ingest_isOk_iff {jar : Jar} {clock : Clock} {hostname url : Text} {values : List Text} :
    (jar.ingest clock hostname (some url) values).1.isOk = true ↔
      (∀ raw ∈ values, SetCookie.hasPair raw = false) ∨ (Origin.read url).isOk = true :=
  Intake.addAll_isOk_iff

end Courier
