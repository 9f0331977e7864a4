/-
  The budget of redirects, exactly.

  A leg carries what is left of the budget.  Going on takes one off, so hop `k` of a journey with budget `n` has `n
  - k` (`budget_of_reaches`), and it asks for a budget that is not zero, so hop `k` is reached only for `k ≤ n`
  (`le_budget_of_reaches`).  Since every hop ends the journey or goes on, a journey whose budget is not below zero
  ends (`ends_of_budget`).  With a budget below zero none of this holds: it is taken down and never reaches zero.

  `Budgeted` is all that follows for a journey with budget `n` that ends with hop `i`: how many connections it
  opens, when another hop is begun, when it fails for too many redirects, and what it may return.

  The one subtle point is where a journey fails for too many redirects.  The budget is looked at before the location
  of a redirect, so a redirect without a location counts as one; but it is looked at after the cookies, so an answer
  at hop `n` whose cookies cannot be taken in fails for that instead.  `CookiesReadable` is the exact condition:
  nobody keeps cookies, or no value is a pair, or the URL of the hop can be split as the origin of a cookie.  Both
  directions of `exhausted_iff` need that the last hop is hop `n`: from the failure because the budget is used up
  there, and from the answer because no hop comes after it.

  At the end stands an address for which the condition fails, with a hop that a caller really gets for the text of a
  URL (`build_scopedLeg`).
-/
import Courier.Proofs.Journey.Trace
import Courier.Proofs.Cookie.Intake

namespace Courier

namespace Journey

/-! ## When cookies are taken in

  Cookies come before the budget: an answer whose cookies fail is never judged. -/

/-- The cookies of an answer can be taken in: nobody keeps them, or none is a pair, or the URL is an origin. -/
def CookiesReadable (j : Journey) (leg : Leg) (r : Response) : Prop :=
  j.jar = none ∨
    (∀ raw ∈ Header.valuesOf r.headers setCookieName, SetCookie.hasPair raw = false) ∨
    (Origin.read leg.hop.url.text).isOk = true

variable {d : Dispatcher} {clock : Clock} {clocks : Clocks} {j j' : Journey} {leg leg' : Leg} {r : Response} {a : Arrival}
  {i k n : Nat}

/-- Taking in the cookies of an answer succeeds just when they are readable. -/
theorem takeCookies_isOk_iff :
    (takeCookies clock j.jar leg.hop r).1.isOk = true ↔ j.CookiesReadable leg r := by
  rw [CookiesReadable]
  cases hj : j.jar with
  | none => simp [takeCookies, Except.isOk, Except.toBool]
  -- with a jar it is a matter of the jar's own intake
  | some jar =>
    have hingest := @Jar.ingest_isOk_iff jar clock leg.hop.hostname leg.hop.url.text
      (Header.valuesOf r.headers setCookieName)
    rw [← hingest, takeCookies]
    simp only [reduceCtorEq, false_or]
    split
    · rename_i hok
      rw [hok]
      simp [Except.isOk, Except.toBool]
    · rename_i herr
      rw [herr]
      simp [Except.isOk, Except.toBool]

/-! ## What is left of the budget

  Every hop that goes on takes one off the budget, whatever the redirect is. -/

theorem budget_of_reaches (h : Reaches d clocks j leg k j' leg') : leg'.budget = leg.budget - k := by
  induction h with
  | start => omega
  | onward before step ih =>
    -- every hop that goes on takes one off
    obtain ⟨s, r, next, hstep⟩ := onward_inv step
    rw [hstep.budget, ih]
    omega

/-- A hop is reached only when the hop before it judged a redirect that can be followed. -/
theorem answer_of_reaches (h : Reaches d clocks j leg (k + 1) j' leg') :
    ∃ j₁ leg₁ r, Reaches d clocks j leg k j₁ leg₁ ∧ j₁.answer? d leg₁ = some r ∧ r.isRedirect = true ∧
      r.location?.isSome = true ∧ leg.budget ≠ k := by
  cases h with
  | onward before step =>
    obtain ⟨s, r, next, hstep⟩ := onward_inv step
    obtain ⟨hredirect, hleft, location, hlocation, _⟩ := Leg.of_next? hstep.follows
    refine ⟨_, _, r, before, (judged?_eq_some_iff.mp hstep.judged).1, hredirect, ?_, ?_⟩
    · rw [hlocation]
      rfl
    · rw [budget_of_reaches before] at hleft
      omega

theorem le_budget_of_reaches (hn : leg.budget = n) (h : Reaches d clocks j leg k j' leg') : k ≤ n := by
  induction k generalizing j' leg' with
  | zero => exact Nat.zero_le n
  | succ k ih =>
    -- the hop before was within the budget, and had some of it left
    obtain ⟨j₁, leg₁, r, hreach, _, _, _, hleft⟩ := answer_of_reaches h
    have hle := ih hreach
    rw [hn] at hleft
    omega

/-- **A budget that is not below zero ends every journey.** -/
theorem ends_of_budget (d : Dispatcher) (clocks : Clocks) (j : Journey) (leg : Leg) (h : 0 ≤ leg.budget) :
    ∃ i, Ends d clocks j leg i (run d clocks j leg) := by
  obtain ⟨n, hn⟩ := Int.eq_ofNat_of_zero_le h
  rcases ends_or_reaches d clocks j leg n with ⟨i, _, a, hends⟩ | ⟨j', leg', hreach⟩
  · exact ⟨i, (run_of_ends hends).symm ▸ hends⟩
  · -- no hop comes after hop `n`
    have hle := le_budget_of_reaches hn hreach
    omega

/-! ## The whole journey

  How a journey ends, told by the hop it ends with and by what that hop judges. -/

/-- What a budget of `n` redirects means for a journey that ends with hop `i`. -/
structure Budgeted (d : Dispatcher) (clocks : Clocks) (j : Journey) (leg : Leg) (n i : Nat) (a : Arrival) :
    Prop where
  /-- the journey ends, within its budget -/
  ends : Ends d clocks j leg i a
  le : i ≤ n
  /-- a hop opens one connection at most -/
  streams : a.streams.length ≤ j.streams.length + (i + 1)
  /-- another hop is begun only after a redirect with a location, and only with budget left -/
  onward : ∀ k j' leg', Reaches d clocks j leg (k + 1) j' leg' →
    ∃ j₁ leg₁ r, Reaches d clocks j leg k j₁ leg₁ ∧ j₁.answer? d leg₁ = some r ∧ r.isRedirect = true ∧
      r.location?.isSome = true ∧ k < n
  /-- too many redirects: hop `n` is reached and answered by a redirect, with or without a location, whose
      cookies can be taken in -/
  exhausted : a.result = .error .tooManyRedirects ↔
    ∃ j₁ leg₁ r, Reaches d clocks j leg n j₁ leg₁ ∧ j₁.answer? d leg₁ = some r ∧ r.isRedirect = true ∧
      j₁.CookiesReadable leg₁ r
  /-- what is returned is no redirect, or one without a location while there was budget left -/
  final : ∀ r', a.result = .ok r' →
    ∃ j₁ leg₁ r s isHead, Reaches d clocks j leg i j₁ leg₁ ∧ j₁.answer? d leg₁ = some r ∧
      r' = r.attach s isHead ∧
      (r.isRedirect = false ∨ (r.isRedirect = true ∧ r.location? = none ∧ i < n))

/-- **Where a journey ends for too many redirects.** -/
theorem exhausted_iff (hn : leg.budget = n) (h : Ends d clocks j leg i a) :
    a.result = .error .tooManyRedirects ↔
      ∃ j₁ leg₁ r, Reaches d clocks j leg n j₁ leg₁ ∧ j₁.answer? d leg₁ = some r ∧ r.isRedirect = true ∧
        j₁.CookiesReadable leg₁ r := by
  obtain ⟨j', leg', hreach, hhop⟩ := h
  have hle := le_budget_of_reaches hn hreach
  have hleft := budget_of_reaches hreach
  constructor
  · intro hresult
    -- the last hop judged a redirect with nothing left, and that is hop `n`
    obtain ⟨r, hjudged, hverdict⟩ := (tooManyRedirects_iff hhop).mp hresult
    obtain ⟨hanswer, htaken⟩ := judged?_eq_some_iff.mp hjudged
    obtain ⟨hredirect, hzero⟩ := Leg.verdict_exhausted_iff.mp hverdict
    have heq : i = n := by omega
    exact ⟨j', leg', r, heq ▸ hreach, hanswer, hredirect, takeCookies_isOk_iff.mp htaken⟩
  · rintro ⟨j₁, leg₁, r, hreach₁, hanswer, hredirect, hcookies⟩
    -- hop `n` has no budget left, so it is the last one
    have hge : n ≤ i := Ends.le ⟨j', leg', hreach, hhop⟩ hreach₁
    have heq : i = n := by omega
    subst heq
    obtain ⟨rfl, rfl⟩ := hreach.unique hreach₁
    refine (tooManyRedirects_iff hhop).mpr ⟨r, ?_, ?_⟩
    · exact judged?_eq_some_iff.mpr ⟨hanswer, takeCookies_isOk_iff.mpr hcookies⟩
    · exact Leg.verdict_exhausted_iff.mpr ⟨hredirect, by omega⟩

theorem final_of_ends (hn : leg.budget = n) (h : Ends d clocks j leg i a) {r' : Response}
    (hr : a.result = .ok r') :
    ∃ j₁ leg₁ r s isHead, Reaches d clocks j leg i j₁ leg₁ ∧ j₁.answer? d leg₁ = some r ∧
      r' = r.attach s isHead ∧
      (r.isRedirect = false ∨ (r.isRedirect = true ∧ r.location? = none ∧ i < n)) := by
  obtain ⟨j', leg', hreach, hhop⟩ := h
  obtain ⟨r, s, hjudged, hverdict, hattach⟩ := final_of_arrived hhop hr
  refine ⟨j', leg', r, s, leg'.hop.isHead, hreach, (judged?_eq_some_iff.mp hjudged).1, hattach, ?_⟩
  have hle := le_budget_of_reaches hn hreach
  have hleft := budget_of_reaches hreach
  refine (Leg.verdict_final_iff.mp hverdict).imp_right fun ⟨hredirect, hsome, hnone⟩ => ?_
  exact ⟨hredirect, hnone, by omega⟩

/-- **The budget, exactly.**  Whatever the servers answer, and however long their answers go on, a journey
    with a budget of `n` redirects ends, and ends as the budget says. -/
theorem run_budgeted (d : Dispatcher) (clocks : Clocks) (network : Network) (jar : Option Jar) (hop : Hop)
    (method : Text) (body : Body) (n : Nat) :
    ∃ i, Budgeted d clocks { network, jar } { hop, method, body, budget := n } n i
      (run d clocks { network, jar } { hop, method, body, budget := n }) := by
  rcases ends_or_reaches d clocks { network, jar } { hop, method, body, budget := n } n with
    ⟨i, hi, a, hends⟩ | ⟨j', leg', hreach⟩
  · rw [run_of_ends hends]
    refine ⟨i, hends, hi, length_streams_of_ends hends, ?_, exhausted_iff rfl hends,
      fun r' hr => final_of_ends rfl hends hr⟩
    intro k j' leg' hreach
    obtain ⟨j₁, leg₁, r, hreach₁, hanswer, hredirect, hlocation, hleft⟩ := answer_of_reaches hreach
    have hle := le_budget_of_reaches rfl hreach₁
    have hlt : k < n := by
      have : (n : Int) ≠ k := hleft
      omega
    exact ⟨j₁, leg₁, r, hreach₁, hanswer, hredirect, hlocation, hlt⟩
  · -- no hop comes after hop `n`
    have hle := le_budget_of_reaches rfl hreach
    omega

/-! ## A redirect too many that fails for its cookies

  The exception that the statement names, with the URL of a caller and not only in principle. -/

/-- An answer that is not judged ends the journey, and not for too many redirects. -/
theorem run_ne_of_not_judged (h : j.judged? d (clocks 0) leg = none) :
    (run d clocks j leg).result ≠ .error .tooManyRedirects := by
  cases hhop : j.hop d (clocks 0) leg with
  | onward j' leg' =>
    obtain ⟨s, r, next, hstep⟩ := onward_inv hhop
    exact absurd (h.symm.trans hstep.judged) (by simp)
  | arrived a =>
    rw [run_of_ends ⟨j, leg, .start, hhop⟩]
    intro hresult
    obtain ⟨r, hjudged, _⟩ := (tooManyRedirects_iff hhop).mp hresult
    rw [h] at hjudged
    exact absurd hjudged (by simp)

/-- A network whose one answer is a redirect that sets a cookie. -/
def cookieRedirect : Network :=
  { answers := [{ script := [.bytes
      ("HTTP/1.1 302 Found\r\nSet-Cookie: a=b\r\nLocation: /y\r\n\r\n".toList.map
        fun c => c.toNat.toUInt8)] }] }

/-- A leg with no budget to an address whose scope holds a bracket. -/
def scopedLeg : Leg :=
  { hop := { url := { scheme := "http".toList, rawHost := "::1%a]b".toList, path := "/x".toList }
             isChunked := false, isHead := false, hostname := "::1%a]b".toList, query := []
             headers := [], callerHeaders := [], timeouts := {} }
    method := "GET".toList, body := .empty, budget := 0 }

/-- The hop of that leg is the one that a caller gets for the text of the URL. -/
theorem build_scopedLeg :
    (do
      let url ← (Url.parse "http://[::1%a]b]/x".toList).toOption
      (Hop.build "GET".toList [] .absent {} (some {}) url .empty).toOption) = some scopedLeg.hop := by
  rfl

/-- A redirect one too many that does not fail for that: the text of such an address cannot be split again as
    the origin of a cookie, and the cookie comes first. -/
theorem run_of_unreadable_cookie :
    ¬ ((run scriptedHttp (.still 0) { network := cookieRedirect, jar := some {} } scopedLeg).result =
        .error .tooManyRedirects ↔
      ∃ j₁ leg₁ r,
        Reaches scriptedHttp (.still 0) { network := cookieRedirect, jar := some {} } scopedLeg 0 j₁ leg₁ ∧
        j₁.answer? scriptedHttp leg₁ = some r ∧ r.isRedirect = true) := by
  intro hiff
  have hanswer : (answer? scriptedHttp { network := cookieRedirect, jar := some {} } scopedLeg).any
      Response.isRedirect = true := by decide +kernel
  have hjudged : (judged? scriptedHttp (.still 0) { network := cookieRedirect, jar := some {} } scopedLeg).isNone =
      true := by decide +kernel
  rw [Option.any_eq_true_iff_get] at hanswer
  obtain ⟨hsome, hredirect⟩ := hanswer
  refine run_ne_of_not_judged (Option.isNone_iff_eq_none.mp hjudged) (hiff.mpr ?_)
  exact ⟨_, _, _, .start, (Option.some_get hsome).symm, hredirect⟩

end Journey

end Courier
