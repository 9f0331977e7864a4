/-
  Settings from any environment.

  Whatever the variables hold, the settings can be used: the limits are in their ranges, and a timeout is greater
  than zero or there is none (`Settings.usable_ofEnvironment`).  There is no failure here that a caller could be
  told of, so every text has to mean something.

  1. **Variables and fields**: a field is made of its own variable and of nothing else
     (`Settings.field_ofEnvironment`), and no two variables have one name, so another value of a variable changes no
     other field.  The three timeouts are read alike and so are the two limits, and each kind is one family with the
     variable, the field and the least value as parameters.

  2. **Limits**: a whole number that is not below the least value is taken, and everything else leaves the default
     (`Settings.limitOf_of_isWhole`, `Settings.limitOf_of_forall_not`).

  3. **Timeouts**: a positive number is taken, infinity included.  A number that is not positive means no timeout,
     and so does the number that is no number (`Settings.timeoutOf_of_isReal`).  A text that is no number leaves the
     default.

  4. **Numbers** are not what the reading of the library says but what the grammar of numbers says
     (`Numeral.IsWhole`, `Numeral.IsReal`), and positive is a matter of the value (`Binary64.Positive`), not of the
     test that is made (`Binary64.isPositive_iff`).
-/
import Courier.Settings
import Courier.Proofs.Number.Reading
import Mathlib.Algebra.Order.Ring.Rat
import Mathlib.Data.List.Nodup
import Mathlib.Logic.Function.Basic

namespace Courier

namespace Binary64

/-! ## Positive numbers

  A number of the format is positive by its value.  The test looks at the sign and at the digits, and so it does not
  need the value. -/

/-- The value of a finite number. -/
def value? : Binary64 → Option ℚ
  | .finite negative m e => some ((Numeral.withSign negative m : ℤ) * (2 : ℚ) ^ e)
  | .infinite _ => none
  | .notANumber => none

/-- A number greater than zero: infinity, or a finite number of such a value. -/
def Positive (x : Binary64) : Prop := x = .infinite false ∨ ∃ q, x.value? = some q ∧ 0 < q

/-- A whole number is positive when it has no sign and is not zero. -/
theorem withSign_pos_iff {negative : Bool} {m : Nat} :
    0 < Numeral.withSign negative m ↔ (!negative && m != 0) = true := by
  rw [Numeral.withSign, Bool.and_eq_true, bne_iff_ne]
  cases negative with
  | false =>
    show (0 : Int) < m ↔ _
    constructor
    · intro h
      exact ⟨rfl, by omega⟩
    · rintro ⟨_, h⟩
      omega
  | true =>
    show (0 : Int) < -(m : Int) ↔ _
    constructor
    · intro h
      omega
    · rintro ⟨h, _⟩
      exact nomatch h

/-- The sign and the digits tell whether a number is positive. -/
theorem isPositive_iff {x : Binary64} : x.isPositive = true ↔ x.Positive := by
  cases x with
  -- a power of two is positive, so the sign is that of the digits
  | finite negative m e =>
    have hpower : (0 : ℚ) < 2 ^ e := Rat.zpow_pos (by decide)
    rw [isPositive, ← withSign_pos_iff]
    constructor
    · intro h
      refine Or.inr ⟨_, rfl, ?_⟩
      exact Rat.mul_pos (Rat.intCast_pos.mpr h) hpower
    · rintro (h | ⟨q, hq, h⟩)
      · exact nomatch h
      · rw [← Option.some.inj hq] at h
        exact Rat.intCast_pos.mp (pos_of_mul_pos_left h hpower.le)
  | infinite negative =>
    cases negative with
    | false => exact ⟨fun _ => Or.inl rfl, fun _ => rfl⟩
    | true =>
      constructor
      · exact fun h => nomatch h
      · rintro (h | ⟨q, hq, _⟩)
        · exact nomatch h
        · exact nomatch hq
  | notANumber =>
    constructor
    · exact fun h => nomatch h
    · rintro (h | ⟨q, hq, _⟩)
      · exact nomatch h
      · exact nomatch hq

end Binary64

namespace Settings

/-! ## Variables and fields

  The variables in two families and three single ones, with the field that each of them sets. -/

/-- The timeouts of a hop. -/
inductive Timeout
  | connect | read | write

/-- The limits of a journey and of a body. -/
inductive Limit
  | redirects | bodyBytes

/-- The variables that settings are made of. -/
inductive Variable
  | timeout (t : Timeout)
  | limit (l : Limit)
  | userAgent | verify | logLevel

/-- The variable of a timeout. -/
def Timeout.name : Timeout → Text
  | .connect => variableName "CONNECT_TIMEOUT"
  | .read => variableName "READ_TIMEOUT"
  | .write => variableName "WRITE_TIMEOUT"

/-- The variable of a limit. -/
def Limit.name : Limit → Text
  | .redirects => variableName "MAX_REDIRECTS"
  | .bodyBytes => variableName "MAX_BODY_BYTES"

/-- The name of a variable in an environment. -/
def Variable.name : Variable → Text
  | .timeout t => t.name
  | .limit l => l.name
  | .userAgent => variableName "USER_AGENT"
  | .verify => variableName "VERIFY_SSL"
  | .logLevel => variableName "LOG_LEVEL"

/-- The field that the variable of a timeout sets: the seconds, or that there is no timeout. -/
def Timeout.field (s : Settings) : Timeout → Option Binary64
  | .connect => s.connectTimeout
  | .read => s.readTimeout
  | .write => s.writeTimeout

/-- The field that the variable of a limit sets. -/
def Limit.field (s : Settings) : Limit → Int
  | .redirects => s.maxRedirects
  | .bodyBytes => s.maxBodyBytes

/-- What a variable says. -/
def Variable.Value : Variable → Type
  | .timeout _ => Option Binary64
  | .limit _ => Int
  | .userAgent => Text
  | .verify => Bool
  | .logLevel => Option Text

/-- The field of a variable. -/
def Variable.field (s : Settings) : (v : Variable) → v.Value
  | .timeout t => t.field s
  | .limit l => l.field s
  | .userAgent => s.userAgent
  | .verify => s.verify
  | .logLevel => s.logLevel

/-- The least value of a limit. -/
def Limit.least : Limit → Int
  | .redirects => 0
  | .bodyBytes => 1

/-- All of them, each once: settings are read from these and from no other variable. -/
def Variable.all : List Variable :=
  [.timeout .connect, .timeout .read, .timeout .write, .limit .redirects, .limit .bodyBytes, .userAgent, .verify,
    .logLevel]

theorem Variable.mem_all (v : Variable) : v ∈ all := by
  rcases v with (_ | _ | _) | (_ | _) | _ | _ | _ <;> simp [all]

/-- No two variables have one name. -/
theorem Variable.name_injective : Function.Injective Variable.name := by
  intro v w h
  have hnodup : (all.map name).Nodup := by decide
  exact List.inj_on_of_nodup_map hnodup (mem_all v) (mem_all w) h

variable (env : Environment)

/-- A timeout is read from its variable, with the default for what is no number. -/
theorem timeout_ofEnvironment (t : Timeout) :
    t.field (ofEnvironment env) = timeoutOf (t.field {}) (env t.name) := by
  cases t <;> rfl

theorem limit_ofEnvironment (l : Limit) :
    l.field (ofEnvironment env) = limitOf l.least (l.field {}) (env l.name) := by
  cases l <;> rfl

/-- **A field is made of its own variable.** -/
theorem field_ofEnvironment {env env' : Environment} {v : Variable} (h : env v.name = env' v.name) :
    v.field (ofEnvironment env) = v.field (ofEnvironment env') := by
  cases v with
  | timeout t =>
    show t.field _ = t.field _
    rw [timeout_ofEnvironment, timeout_ofEnvironment, show env t.name = env' t.name from h]
  | limit l =>
    show l.field _ = l.field _
    rw [limit_ofEnvironment, limit_ofEnvironment, show env l.name = env' l.name from h]
  | userAgent => exact congrArg (Option.getD · _) h
  | verify => exact congrArg (switchOf true) h
  | logLevel => exact congrArg textOf h

/-! ## Limits

  A limit is a whole number, and numbers below its least value count as no number at all. -/

variable {least low : Int} {value : Option Text} {s : Text}

theorem least_le_limitOf (h : least ≤ low) : least ≤ limitOf least low value := by
  rw [limitOf]
  split
  · split
    · assumption
    · exact h
  · exact h

/-- A whole number is taken, unless it is below the least value. -/
theorem limitOf_of_isWhole {n : Int} (h : Numeral.IsWhole s n) :
    limitOf least low (some s) = if least ≤ n then n else low := by
  rw [limitOf, Option.bind_some, readInteger?_eq_some_iff.mpr h]

/-- A text that is no whole number does not count. -/
theorem limitOf_of_forall_not (h : ∀ s, value = some s → ¬ ∃ n, Numeral.IsWhole s n) :
    limitOf least low value = low := by
  have hread : value.bind readInteger? = none :=
    Option.bind_eq_none_iff.mpr fun s hs => readInteger?_eq_none_iff.mpr (h s hs)
  rw [limitOf, hread]

/-! ## Timeouts

  A timeout is a real number, and numbers that are not positive mean that there is none. -/

variable {fallback : Option Binary64} {x : Binary64}

theorem positive_of_timeoutOf (hfallback : ∀ x, fallback = some x → x.Positive) (h : timeoutOf fallback value = some x) :
    x.Positive := by
  rw [timeoutOf] at h
  split at h
  · obtain ⟨hpositive, h⟩ := Option.ite_none_right_eq_some.mp h
    rw [← Option.some.inj h]
    exact Binary64.isPositive_iff.mp hpositive
  · exact hfallback x h

/-- A number is taken if it is positive, and otherwise there is no timeout. -/
theorem timeoutOf_of_isReal (h : Numeral.IsReal s x) :
    x.Positive ∧ timeoutOf fallback (some s) = some x ∨ ¬ x.Positive ∧ timeoutOf fallback (some s) = none := by
  rw [timeoutOf, Option.bind_some, Binary64.read?_eq_some_iff.mpr h, ← Binary64.isPositive_iff]
  cases hpositive : x.isPositive with
  | true => exact Or.inl ⟨rfl, if_pos hpositive⟩
  | false => exact Or.inr ⟨Bool.false_ne_true, if_neg (by rw [hpositive]; decide)⟩

/-- A text that is no real number does not count. -/
theorem timeoutOf_of_forall_not (h : ∀ s, value = some s → ¬ ∃ x, Numeral.IsReal s x) :
    timeoutOf fallback value = fallback := by
  have hread : value.bind Binary64.read? = none :=
    Option.bind_eq_none_iff.mpr fun s hs => Binary64.read?_eq_none_iff.mpr (h s hs)
  rw [timeoutOf, hread]

/-! ## Every environment

  All fields together, for texts of any kind in any of the variables. -/

/-- Settings that can be used. -/
structure Usable (s : Settings) : Prop where
  redirects : 0 ≤ s.maxRedirects
  bodyBytes : 0 < s.maxBodyBytes
  timeouts : ∀ t : Timeout, t.field s = none ∨ ∃ x, t.field s = some x ∧ x.Positive

/-- The timeouts that hold without an environment are positive. -/
theorem positive_of_default {t : Timeout} (h : t.field {} = some x) : x.Positive := by
  rw [← Binary64.isPositive_iff]
  cases t <;> rw [← Option.some.inj h] <;> decide

/-- No environment gives a negative number of redirects. -/
theorem maxRedirects_ofEnvironment (env : Environment) : 0 ≤ (ofEnvironment env).maxRedirects :=
  least_le_limitOf (by decide)

/-- **Settings from an environment can be used.** -/
theorem usable_ofEnvironment (env : Environment) : Usable (ofEnvironment env) where
  redirects := maxRedirects_ofEnvironment env
  bodyBytes := least_le_limitOf (by decide)
  timeouts t := by
    cases h : t.field (ofEnvironment env) with
    | none => exact Or.inl rfl
    | some x =>
      rw [timeout_ofEnvironment] at h
      exact Or.inr ⟨x, rfl, positive_of_timeoutOf (fun _ => positive_of_default) h⟩

/-- **Every environment gives usable settings**, whatever text its variables hold or do not hold.  Each field is made of
    its own variable alone, so another value of a variable changes no other field.  A limit that is a whole number is
    taken if it is not below the least value, and a timeout that is a number is taken if it is positive and is none
    otherwise; a text that is no number, or no text at all, leaves the default. -/
theorem every_environment_usable (env : Environment) :
    Usable (ofEnvironment env) ∧
    (∀ (env' : Environment) (v : Variable), env' v.name = env v.name →
      v.field (ofEnvironment env') = v.field (ofEnvironment env)) ∧
    (∀ (v w : Variable) value, v ≠ w →
      v.field (ofEnvironment (Function.update env w.name value)) = v.field (ofEnvironment env)) ∧
    (∀ l : Limit,
      (∀ s n, env l.name = some s → Numeral.IsWhole s n →
        l.field (ofEnvironment env) = if l.least ≤ n then n else l.field {}) ∧
      ((∀ s, env l.name = some s → ¬ ∃ n, Numeral.IsWhole s n) → l.field (ofEnvironment env) = l.field {})) ∧
    (∀ t : Timeout,
      (∀ s x, env t.name = some s → Numeral.IsReal s x →
        x.Positive ∧ t.field (ofEnvironment env) = some x ∨ ¬ x.Positive ∧ t.field (ofEnvironment env) = none) ∧
      ((∀ s, env t.name = some s → ¬ ∃ x, Numeral.IsReal s x) → t.field (ofEnvironment env) = t.field {})) := by
  refine ⟨usable_ofEnvironment env, fun _ _ => field_ofEnvironment, ?others, ?limits, ?timeouts⟩
  -- another name, so the value under the own name is the same
  case others =>
    intro v w value hne
    apply field_ofEnvironment
    exact Function.update_of_ne (fun hname => hne (Variable.name_injective hname)) value env
  case limits =>
    intro l
    rw [limit_ofEnvironment]
    constructor
    · intro s n hs hn
      rw [hs, limitOf_of_isWhole hn]
    · exact limitOf_of_forall_not
  case timeouts =>
    intro t
    rw [timeout_ofEnvironment]
    constructor
    · intro s x hs hx
      rw [hs]
      exact timeoutOf_of_isReal hx
    · exact timeoutOf_of_forall_not

/-- Digits of another script between blanks, a limit out of its range, the word for no number, a number beyond the
    format, and two low lines in a row. -/
def unusualEnvironment : Environment := fun name =>
  if name = Limit.redirects.name then some "\u3000+٣_0\n".toList
  else if name = Limit.bodyBytes.name then some "-5".toList
  else if name = Timeout.connect.name then some " nan".toList
  else if name = Timeout.read.name then some "1_0e+99_9".toList
  else if name = Timeout.write.name then some "1__0".toList
  else none

/-- Each of them is read as the grammar says, and the variable that is not set leaves its default. -/
theorem every_environment_usable_of_unusual :
    (Numeral.IsWhole "\u3000+٣_0\n".toList 30 ∧ (ofEnvironment unusualEnvironment).maxRedirects = 30) ∧
    (Numeral.IsWhole "-5".toList (-5) ∧ (ofEnvironment unusualEnvironment).maxBodyBytes = 16777216) ∧
    (Numeral.IsReal " nan".toList .notANumber ∧ (ofEnvironment unusualEnvironment).connectTimeout = none) ∧
    (Numeral.IsReal "1_0e+99_9".toList (.infinite false) ∧
      (ofEnvironment unusualEnvironment).readTimeout = some (.infinite false)) ∧
    ((¬ ∃ x, Numeral.IsReal "1__0".toList x) ∧
      (ofEnvironment unusualEnvironment).writeTimeout = some (Binary64.ofInt 30)) ∧
    (ofEnvironment unusualEnvironment).userAgent = "hopwire/0.1.0".toList := by
  obtain ⟨_, hown, _, hlimits, htimeouts⟩ := every_environment_usable unusualEnvironment
  refine ⟨?redirects, ?bodyBytes, ?connect, ?read, ?write, ?userAgent⟩
  case redirects =>
    have h : Numeral.IsWhole "\u3000+٣_0\n".toList 30 := readInteger?_eq_some_iff.mp (by decide +kernel)
    exact ⟨h, (hlimits .redirects).1 _ _ (by decide) h⟩
  case bodyBytes =>
    have h : Numeral.IsWhole "-5".toList (-5) := readInteger?_eq_some_iff.mp (by decide +kernel)
    exact ⟨h, (hlimits .bodyBytes).1 _ _ (by decide) h⟩
  case connect =>
    have h : Numeral.IsReal " nan".toList .notANumber := Binary64.read?_eq_some_iff.mp (by decide +kernel)
    have hnot : ¬ Binary64.Positive .notANumber := mt Binary64.isPositive_iff.mpr (by decide)
    exact ⟨h, ((htimeouts .connect).1 _ _ (by decide) h).elim (fun h => absurd h.1 hnot) And.right⟩
  case read =>
    have h : Numeral.IsReal "1_0e+99_9".toList (.infinite false) := Binary64.read?_eq_some_iff.mp (by decide +kernel)
    exact ⟨h, ((htimeouts .read).1 _ _ (by decide) h).elim And.right fun h => absurd (Or.inl rfl) h.1⟩
  case write =>
    have h : ¬ ∃ x, Numeral.IsReal "1__0".toList x := Binary64.read?_eq_none_iff.mp (by decide +kernel)
    refine ⟨h, (htimeouts .write).2 fun s hs => ?_⟩
    have htext : unusualEnvironment Timeout.write.name = some "1__0".toList := by decide
    rwa [← Option.some.inj (htext.symm.trans hs)]
  case userAgent => exact (hown (fun _ => none) .userAgent (by decide)).symm

end Settings

end Courier
