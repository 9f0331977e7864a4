/-
  The cookies of a journey.

  A hop takes in the cookies of its answer as soon as the head is read, before it looks at the budget, at the
  location or at the body.  So whatever becomes of the hop afterwards, the jar has changed by the head of its answer
  and by nothing else; a hop without a head leaves the jar alone.  `jar_hop` is this step lemma, and it holds of a
  hop that goes on as of one that ends the journey.

  Over the history the jar is the starting jar with one intake for each head that was read, in order
  (`Jar.afterHeads`), each with the clock of its own hop.  Which heads these are is a list that the history
  determines: `Heads` says of every place in it which answer stands there, so there is only one such list
  (`Heads.unique`), and a hop adds its head to it or nothing (`Heads.answered`, `Heads.unanswered`).
  `jar_of_reaches` is the induction, and `jar_of_ends` takes it over the last hop, which may fail with its cookies
  taken in.

  The next hop is built from the jar as it stands then, so its cookies are those that match its own host, path and
  scheme in a jar that knows all the heads before it.  In a head these stand behind the cookies that the caller
  gives as fields (`Hop.Asks.cookies`): of the four parts that a head is put together from, the host and the length
  are no cookies.

  `CookiesFlow` has both together, and says that the fields in question are those that are written.
-/
import Courier.Proofs.Journey.Requests

namespace Courier

/-- The name of the field that carries cookies. -/
def cookieName : Text := "cookie".toList

/-- The jar after the head of an answer was read on a hop. -/
def Jar.afterHead (clock : Clock) (jar : Jar) (x : Hop × Response) : Jar :=
  (jar.ingest clock x.1.hostname (some x.1.url.text) (Header.valuesOf x.2.headers setCookieName)).2.jar

/-- The jar after the heads of some answers were read, in order, with the clock of each hop. -/
def Jar.afterHeads (clocks : Journey.Clocks) (jar : Jar) : List (Hop × Response) → Jar
  | [] => jar
  | x :: rest => (jar.afterHead (clocks 0) x).afterHeads clocks.later rest

theorem Jar.afterHeads_append (clocks : Journey.Clocks) (jar : Jar) (heads : List (Hop × Response))
    (x : Hop × Response) :
    jar.afterHeads clocks (heads ++ [x]) = (jar.afterHeads clocks heads).afterHead (clocks heads.length) x := by
  induction heads generalizing jar clocks with
  | nil => rfl
  | cons first rest ih => exact ih clocks.later (jar.afterHead (clocks 0) first)

theorem jar_takeCookies (clock : Clock) (jar : Jar) (hop : Hop) (r : Response) :
    (takeCookies clock (some jar) hop r).2.1 = some (jar.afterHead clock (hop, r)) := by
  unfold takeCookies
  dsimp only
  split
  · rename_i hingest
    rw [Jar.afterHead, hingest]
  · rename_i hingest
    rw [Jar.afterHead, hingest]

namespace Hop

variable {method target : Text} {headers : List Header} {jar : Jar} {url : Url} {body : Body} {hop : Hop}

/-- The cookies in a head are the caller's own, and then those that match. -/
theorem Asks.cookies (h : Asks method headers target (some jar) url body hop) :
    (hop.headFields.filter fun f => f.hasName cookieName) =
      (headers.filter fun f => f.hasName cookieName) ++
        jar.fieldsFor hop.hostname url.requestPath url.isSecure := by
  -- a part whose fields all have one name other than that of cookies has no cookies
  have hother (own : Text) {fields : List Header} (hown : ∀ f ∈ fields, f.name = own)
      (hne : (lower own == lower cookieName) = false) : (fields.filter fun f => f.hasName cookieName) = [] := by
    rw [List.filter_eq_nil_iff]
    intro f hf hname
    rw [Header.hasName, hown f hf, hne] at hname
    exact Bool.noConfusion hname
  have hhost : ((if Header.contains headers "host".toList then []
      else [{ name := "Host".toList, value := url.hostAndPort }] : List Header).filter
        fun f => f.hasName cookieName) = [] := by
    split
    · rfl
    · exact hother "Host".toList (List.forall_mem_singleton.mpr rfl) (by decide)
  have hlength : ((ownLength headers body).filter fun f => f.hasName cookieName) = [] :=
    hother "Content-Length".toList (fun _ => name_of_mem_ownLength) (by decide)
  have hcookies : ((jar.fieldsFor hop.hostname url.requestPath url.isSecure).filter fun f =>
      f.hasName cookieName) = jar.fieldsFor hop.hostname url.requestPath url.isSecure := by
    rw [List.filter_eq_self]
    intro f hf
    rw [Header.hasName, Jar.name_of_mem_fieldsFor hf]
    decide
  rw [h.headFields, List.filter_append, List.filter_append, List.filter_append, hhost, hlength, List.nil_append,
    List.append_nil]
  exact congrArg _ hcookies

end Hop

namespace Journey

/-- The jar that a journey has after a hop. -/
def Progress.jar : Progress → Option Jar
  | .arrived a => a.journey.jar
  | .onward j _ => j.jar

variable {d : Dispatcher} {clock : Clock} {clocks : Clocks} {j j' : Journey} {leg leg' : Leg} {a : Arrival} {i k : Nat}
  {jar : Jar} {heads : List (Hop × Response)} {r : Response}

/-! ## One hop

  The jar is given to a leg, and what comes back with the leg is the jar of the journey from then on, on every way
  out. -/

/-- What follows from a leg leaves its jar alone. -/
theorem jar_follow (j : Journey) (leg : Leg) (x : LegResult) : (j.follow leg x).jar = x.jar := by
  rcases j.follow_cases leg x with ⟨e, _, hf⟩ | ⟨r, _, hf⟩ | ⟨next, e, _, _, hf⟩ | ⟨next, hop, _, _, hf⟩
  · rw [hf]
    rfl
  · rw [hf]
    rfl
  · rw [hf]
    rfl
  · rw [hf]
    rfl

/-- **A hop takes in the cookies of its answer, whatever becomes of the hop**, and without an answer it leaves the
    jar alone. -/
theorem jar_hop (d : Dispatcher) (clock : Clock) (j : Journey) (leg : Leg) :
    (j.hop d clock leg).jar = match j.answer? d leg with
      | none => j.jar
      | some r => (takeCookies clock j.jar leg.hop r).2.1 := by
  cases ho : d.opens j.network leg.hop with
  | none =>
    obtain ⟨e, _, hhop⟩ := hop_of_not_opens clock ho
    rw [hhop, answer?, ho]
    rfl
  | some s =>
    rw [hop_of_opens ho, jar_follow]
    rcases leg.run_cases clock j.jar s with
      ⟨e, s', ha, hrun⟩ | ⟨r, s', e, jar', log, ha, ht, hrun⟩ | ⟨r, s', jar', log, ha, ht, hrun⟩
    · rw [hrun, answer?, ho, Option.bind_some, ha]
      rfl
    · -- the cookies failed half way or were taken in: either way this is the jar that they left
      rw [hrun, answer?_of_opens ho ha]
      dsimp only
      rw [ht]
    · rw [hrun, answer?_of_opens ho ha]
      dsimp only
      rw [ht]

/-! ## The heads of a history

  The heads of a history are defined by its hops, without the jar, so that the jar can be said to have taken in
  these and no others. -/

/-- These are the answers whose heads were read before hop `k`, in order, each with its hop. -/
def Heads (d : Dispatcher) (clocks : Clocks) (j : Journey) (leg : Leg) (k : Nat) (heads : List (Hop × Response)) : Prop :=
  ∀ i x, heads[i]? = some x ↔
    i < k ∧ ∃ j' leg', Reaches d clocks j leg i j' leg' ∧ x.1 = leg'.hop ∧ j'.answer? d leg' = some x.2

/-- Before the first hop no head has been read. -/
theorem heads_zero : Heads d clocks j leg 0 [] := by
  intro i x
  constructor
  · intro h
    exact absurd h (by simp)
  · rintro ⟨hi, _⟩
    exact absurd hi (Nat.not_lt_zero i)

/-- There is one list of heads only. -/
theorem Heads.unique {heads' : List (Hop × Response)} (h : Heads d clocks j leg k heads)
    (h' : Heads d clocks j leg k heads') : heads = heads' := by
  refine List.ext_getElem? fun i => ?_
  refine Option.ext fun x => ?_
  exact (h i x).trans (h' i x).symm

/-- A hop whose head is read adds it. -/
theorem Heads.answered (h : Heads d clocks j leg k heads) (hlength : heads.length = k)
    (hreach : Reaches d clocks j leg k j' leg') (hr : j'.answer? d leg' = some r) :
    Heads d clocks j leg (k + 1) (heads ++ [(leg'.hop, r)]) := by
  intro i x
  rcases Nat.lt_trichotomy i k with hlt | heq | hgt
  · rw [List.getElem?_append_left (by omega), h i x]
    exact and_congr_left fun _ => ⟨fun _ => by omega, fun _ => hlt⟩
  · subst heq
    rw [List.getElem?_append_right (by omega), hlength, Nat.sub_self, List.getElem?_cons_zero, Option.some.injEq]
    constructor
    · rintro rfl
      exact ⟨Nat.lt_succ_self i, j', leg', hreach, rfl, hr⟩
    · rintro ⟨_, j₁, leg₁, hreach₁, hhop, hanswer⟩
      obtain ⟨rfl, rfl⟩ := hreach.unique hreach₁
      rw [hr, Option.some.injEq] at hanswer
      exact Prod.ext hhop.symm hanswer
  · rw [List.getElem?_eq_none (by rw [List.length_append, hlength]; exact hgt)]
    constructor
    · intro hx
      exact absurd hx (by simp)
    · rintro ⟨hi, _⟩
      omega

/-- A hop whose head is not read adds none. -/
theorem Heads.unanswered (h : Heads d clocks j leg k heads) (hreach : Reaches d clocks j leg k j' leg')
    (hr : j'.answer? d leg' = none) : Heads d clocks j leg (k + 1) heads := by
  intro i x
  rw [h i x]
  constructor
  · rintro ⟨hi, hrest⟩
    exact ⟨Nat.lt_succ_of_lt hi, hrest⟩
  · rintro ⟨hi, j₁, leg₁, hreach₁, hhop, hanswer⟩
    rcases hreach.lt_or_same hreach₁ hi with hlt | ⟨rfl, rfl, rfl⟩
    · exact ⟨hlt, j₁, leg₁, hreach₁, hhop, hanswer⟩
    · -- this hop has no head
      rw [hr] at hanswer
      exact absurd hanswer (by simp)

/-- **When a hop begins, the jar has taken in every head before it, and nothing else.** -/
theorem jar_of_reaches (hj : j.jar = some jar) (h : Reaches d clocks j leg k j' leg') :
    ∃ heads, Heads d clocks j leg k heads ∧ heads.length = k ∧ j'.jar = some (jar.afterHeads clocks heads) := by
  induction h with
  | start => exact ⟨[], heads_zero, rfl, hj⟩
  | onward before step ih =>
    rename_i k j₁ j₂ leg₁ leg₂
    obtain ⟨heads, hheads, hlength, hjar⟩ := ih
    obtain ⟨s, r, next, hstep⟩ := onward_inv step
    have hanswer := (judged?_eq_some_iff.mp hstep.judged).1
    refine ⟨heads ++ [(leg₁.hop, r)], hheads.answered hlength before hanswer, ?_, ?_⟩
    · rw [List.length_append, hlength]
      rfl
    · have hafter := jar_hop d (clocks k) j₁ leg₁
      rw [step, hanswer, hjar] at hafter
      dsimp only at hafter
      rw [jar_takeCookies] at hafter
      rw [Jar.afterHeads_append, hlength]
      exact hafter

/-- When a journey ends, the jar has taken in every head that was read. -/
theorem jar_of_ends (hj : j.jar = some jar) (h : Ends d clocks j leg i a) :
    ∃ heads, Heads d clocks j leg (i + 1) heads ∧ a.journey.jar = some (jar.afterHeads clocks heads) := by
  obtain ⟨j', leg', hreach, hhop⟩ := h
  obtain ⟨heads, hheads, hlength, hjar⟩ := jar_of_reaches hj hreach
  have hafter := jar_hop d (clocks i) j' leg'
  rw [hhop, hjar] at hafter
  cases hr : j'.answer? d leg' with
  | none =>
    rw [hr] at hafter
    exact ⟨heads, hheads.unanswered hreach hr, hafter⟩
  | some r =>
    rw [hr] at hafter
    dsimp only at hafter
    rw [jar_takeCookies] at hafter
    refine ⟨heads ++ [(leg'.hop, r)], hheads.answered hlength hreach hr, ?_⟩
    rw [Jar.afterHeads_append, hlength]
    exact hafter

/-! ## The whole journey

  What holds when a hop begins and when the journey ends, for an agent with a jar. -/

/-- How cookies flow through a journey with an agent's jar. -/
structure CookiesFlow (d : Dispatcher) (clocks : Clocks) (network : Network) (jar : Jar) (leg : Leg) : Prop where
  /-- when hop `k` begins, the jar has taken in the heads of the hops before it -/
  reached : ∀ k j' leg', Reaches d clocks { network, jar := some jar } leg k j' leg' →
    ∃ heads, Heads d clocks { network, jar := some jar } leg k heads ∧ heads.length = k ∧
      j'.jar = some (jar.afterHeads clocks heads)
  /-- hop `k + 1` sends the caller's own cookies, and then those of that jar that match its own host, path and
      scheme -/
  sent : ∀ k j' leg' heads, Reaches d clocks { network, jar := some jar } leg (k + 1) j' leg' →
    Heads d clocks { network, jar := some jar } leg (k + 1) heads →
    Hop.hostnameOf leg'.hop.url = .ok leg'.hop.hostname ∧
      (leg'.hop.headFields.filter fun f => f.hasName cookieName) =
        (leg'.hop.callerHeaders.filter fun f => f.hasName cookieName) ++
          (jar.afterHeads clocks heads).fieldsFor leg'.hop.hostname leg'.hop.url.requestPath leg'.hop.url.isSecure
  /-- these are the fields that are written; nothing is written only when no stream was opened for the hop, when its
      head cannot be written or when the stream refuses it -/
  written : ∀ k j' leg' s', Reaches d clocks { network, jar := some jar } leg k j' leg' →
    (j'.hop d (clocks k) leg').streams = j'.streams ++ [s'] → HeadFirst d j' leg' s'.written
  /-- and a hop that has an answer, whose cookies are taken in, has written them -/
  answered : ∀ k j' leg' s' r, Reaches d clocks { network, jar := some jar } leg k j' leg' →
    j'.answer? d leg' = some r → (j'.hop d (clocks k) leg').streams = j'.streams ++ [s'] →
    octets (block (leg'.hop.startLine leg'.method :: leg'.hop.headFields.map Header.text)) <+: s'.written
  /-- when the journey ends, with a response or with a failure, the jar has taken in all heads that were read -/
  ended : ∀ i a, Ends d clocks { network, jar := some jar } leg i a →
    run d clocks { network, jar := some jar } leg = a ∧
      ∃ heads, Heads d clocks { network, jar := some jar } leg (i + 1) heads ∧
        a.journey.jar = some (jar.afterHeads clocks heads)
  ends : 0 ≤ leg.budget →
    ∃ i, Ends d clocks { network, jar := some jar } leg i (run d clocks { network, jar := some jar } leg)

/-- **Cookies flow exactly through the heads that were read.**  Whatever the servers answer, and wherever the
    journey ends. -/
theorem run_cookies_flow (d : Dispatcher) (clocks : Clocks) (network : Network) (jar : Jar) (leg : Leg) :
    CookiesFlow d clocks network jar leg := by
  refine ⟨fun k j' leg' => jar_of_reaches rfl, ?sent, ?written, ?answered, ?ended, ends_of_budget d clocks _ leg⟩
  case sent =>
    intro k j' leg' heads hreach hheads
    obtain ⟨heads', hheads', _, hjar⟩ := jar_of_reaches rfl hreach
    obtain ⟨_, _, _, _, _, _, _, _, hasks⟩ := asks_of_reaches hreach
    rw [hheads'.unique hheads] at hjar
    rw [hjar] at hasks
    exact ⟨hasks.hostname, hasks.cookies⟩
  case written =>
    intro k j' leg' s' _ hstreams
    exact headFirst_of_hop hstreams
  case answered =>
    intro k j' leg' s' r _ hr hstreams
    exact (headFirst_of_hop hstreams).of_answer hr
  case ended =>
    intro i a hends
    exact ⟨run_of_ends hends, jar_of_ends rfl hends⟩

end Journey

end Courier
