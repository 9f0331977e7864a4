/-
  How many connections a request opens.

  A hop opens one connection at most, and a journey whose budget is not below zero ends within it.  So a request
  opens at most one connection more than its budget.  The question is which budget it gets: what a request asks for
  itself is brought to zero when it is negative, and so is what the environment says, but the settings of an agent
  are taken as they are.

  1. **Within the budget** (`Agent.bounded`): a journey with a budget of `b` ends after `b` redirects at most, its
     streams are one for each of its hops, and reading the answer opens none.  The statement is for requests that
     ask for a number themselves, and for agents whose settings are not negative.

  2. **Below zero** there is no bound.  The loop asks whether the budget is zero, and a number that starts below
     zero and goes down never is.  The witness is a server that sends every request on to the path it asked for.
     One turn of it (`Journey.hop_round`) leads from a leg to the same leg with one less, unless the budget is zero.
     The invariant of the run is that the network is still that server, the jar is still empty, and the budget is
     still below zero, so by induction every hop is reached (`Journey.reaches_round`), for any settings of the agent
     and any times.

  3. **The environment** is on the safe side: it gives no negative number (`Settings.maxRedirects_ofEnvironment`).

  The turn is taken apart like any other hop: what is connected to (`Journey.connect_round`), what is asked and
  answered (`Journey.ask_round`), what the answer means (`Journey.verdict_round`), and where the leg goes
  (`Journey.run_round`).
-/
import Courier.Proofs.Agent.Closing
import Courier.Proofs.Journey.Budget
import Courier.Proofs.Response.Rendering
import Courier.Proofs.Settings

namespace Courier

/-- The connections of a request whose answer was returned: those of the hops, and that of the answer. -/
def Done.connections (done : Done Response) : List Stream :=
  done.streams ++ match done.result with
    | .ok r => r.stream.toList
    | .error _ => []

/-! ## Within the budget

  For any servers, by the bound on journeys. -/

namespace Agent

variable {a : Agent} {clocks : Journey.Clocks} {r : Request} {hop : Hop} {arrival : Arrival} {i : Nat}

/-- The number of redirects that is asked for: by the request, or else by the settings. -/
def askedFor (a : Agent) (r : Request) : Int := r.maxRedirects.getD a.settings.maxRedirects

/-- A request that asks for a number itself gets none below zero. -/
theorem budgetFor_eq (h : r.maxRedirects = none → 0 ≤ a.settings.maxRedirects) :
    a.budgetFor r = max 0 (a.askedFor r) := by
  rw [budgetFor, askedFor]
  cases hr : r.maxRedirects with
  | some n => rfl
  | none => exact (Int.max_eq_right (h hr)).symm

/-- The connections of a request are those of its journey and of the answer. -/
theorem connections_of_ends (h : a.prepare r = .ok hop)
    (hends : Journey.Ends a.dispatcher clocks a.journey (a.leg r hop) i arrival) :
    (a.send clocks r).connections = arrival.streams := by
  obtain ⟨hresult, hstreams⟩ := send_of_ends h hends
  rw [Done.connections, hresult, hstreams]
  show arrival.journey.streams ++ _ = arrival.journey.streams ++ _
  cases arrival.result <;> rfl

/-- What it means that a request is bounded, when it asks for `b` redirects. -/
structure Bounded (a : Agent) (clocks : Journey.Clocks) (r : Request) (b : Int) : Prop where
  /-- a request whose first hop cannot be made opens nothing -/
  unprepared : ∀ e, a.prepare r = .error e → (a.send clocks r).connections = []
  /-- otherwise its journey ends, within `b` redirects, and is what the agent returns -/
  prepared : ∀ hop, a.prepare r = .ok hop → ∃ i arrival,
    Journey.Ends a.dispatcher clocks a.journey (a.leg r hop) i arrival ∧ (i : Int) ≤ max 0 b ∧
      (a.send clocks r).result = arrival.result ∧ (a.send clocks r).connections = arrival.streams
  /-- one connection, and one for every redirect -/
  sent : ((a.send clocks r).connections.length : Int) ≤ 1 + max 0 b
  /-- reading the answer opens none -/
  requested : ((a.request clocks r).streams.length : Int) ≤ 1 + max 0 b

/-- **A request that does not ask for a negative budget is bounded**, whatever the servers answer. -/
theorem bounded (h : r.maxRedirects = none → 0 ≤ a.settings.maxRedirects) : a.Bounded clocks r (a.askedFor r) := by
  have hbudget := budgetFor_eq h
  have hprepared : ∀ hop, a.prepare r = .ok hop → ∃ i arrival,
      Journey.Ends a.dispatcher clocks a.journey (a.leg r hop) i arrival ∧ (i : Int) ≤ max 0 (a.askedFor r) ∧
        (a.send clocks r).result = arrival.result ∧ (a.send clocks r).connections = arrival.streams := by
    intro hop hprepare
    have hleg : (a.leg r hop).budget = ((max 0 (a.askedFor r)).toNat : Int) := by
      rw [Int.toNat_of_nonneg (Int.le_max_left ..)]
      exact hbudget
    obtain ⟨i, hends⟩ :=
      Journey.ends_of_budget a.dispatcher clocks a.journey (a.leg r hop) (hleg ▸ Int.natCast_nonneg _)
    obtain ⟨j', leg', hreach, _⟩ := id hends
    have hle := Journey.le_budget_of_reaches hleg hreach
    exact ⟨i, _, hends, by omega, (send_of_ends hprepare hends).1, connections_of_ends hprepare hends⟩
  refine ⟨?unprepared, hprepared, ?sent, ?requested⟩
  case unprepared =>
    intro e he
    rw [send_of_prepare_error he]
    rfl
  -- one for each hop, and there is one hop more than redirects
  case sent =>
    cases hprepare : a.prepare r with
    | error e =>
      rw [send_of_prepare_error hprepare]
      show (0 : Int) ≤ _
      omega
    | ok hop =>
      obtain ⟨i, arrival, hends, hle, _, hconnections⟩ := hprepared hop hprepare
      have hlength := Journey.length_streams_of_ends hends
      change arrival.streams.length ≤ 0 + (i + 1) at hlength
      rw [hconnections]
      omega
  -- reading changes what the streams are, but not how many
  case requested =>
    have hcloses := a.closes clocks r
    cases hprepare : a.prepare r with
    | error e =>
      rw [hcloses.unprepared e hprepare]
      show (0 : Int) ≤ _
      omega
    | ok hop =>
      obtain ⟨i, arrival, hends, hle, _, _⟩ := hprepared hop hprepare
      have hlength := Journey.length_streams_of_ends hends
      have hsame := (hcloses.prepared hop i arrival hprepare hends).1.length_eq
      change arrival.streams.length ≤ 0 + (i + 1) at hlength
      omega

end Agent

/-! ## Below zero

  One server and one request that go on for ever, whatever the settings are besides the number. -/

namespace Journey

/-- The head of a server that sends every request on to the path it asked for. -/
def roundHead : Head :=
  { version := "1.1".toList, status := 302, reason := "Found".toList,
    fields := [{ name := "Location".toList, value := "/".toList }] }

/-- The answer of that server. -/
def roundAnswer : Answer := { script := [.bytes roundHead.render] }

/-- A network where nobody else answers, and it never ends. -/
def roundNetwork : Network := { answers := [], endless := some fun _ => roundAnswer }

/-- The URL that the requests go round. -/
def roundUrl : Url := { scheme := "http".toList, rawHost := "h".toList, path := "/".toList }

/-- The hop of a request to that server. -/
def roundHop (timeouts : Timeouts) : Hop :=
  { url := roundUrl
    isChunked := false, isHead := false, hostname := "h".toList, query := []
    headers := [{ name := "User-Agent".toList, value := "x".toList }]
    callerHeaders := [{ name := "User-Agent".toList, value := "x".toList }], timeouts }

/-- The leg of that hop. -/
def roundLeg (timeouts : Timeouts) (budget : Int) : Leg :=
  { hop := roundHop timeouts, method := "GET".toList, body := .empty, budget }

variable {d : Dispatcher} {clocks : Clocks} {j : Journey} {timeouts : Timeouts} {budget : Int}

/-- The stream of a connection to that server. -/
def roundStream (timeouts : Timeouts) : Stream :=
  { host := "h".toList, timeouts, incoming := roundAnswer.script,
    calls := [.connect "h".toList 80 timeouts.connect] }

theorem connect_round (timeouts : Timeouts) (hd : d.routes = Dispatcher.standardRoutes)
    (hn : j.network = roundNetwork) :
    (d.connect j.network (roundHop timeouts)).network = roundNetwork ∧
      d.opens j.network (roundHop timeouts) = some (roundStream timeouts) := by
  have hroute : d.routes.lookup (roundHop timeouts).url.scheme = some .plain := by
    rw [hd]
    rfl
  rw [Dispatcher.opens, Dispatcher.connect, hroute, hn]
  exact ⟨rfl, rfl⟩

/-- What that server answers, as the leg reads it. -/
theorem ask_round (timeouts : Timeouts) (budget : Int) :
    ∃ r s, (roundLeg timeouts budget).ask (roundStream timeouts) = (.ok r, s) ∧ r.status = 302 ∧
      r.headers = roundHead.fields := by
  obtain ⟨head, hprelude, hne⟩ : ∃ head, (roundLeg timeouts budget).hop.prelude "GET".toList = .ok head ∧
      head.isEmpty = false := ⟨_, rfl, rfl⟩
  have hordinary : roundHead.Ordinary := by decide +kernel
  have hsize : ∀ h ∈ [] ++ [roundHead], h.render.length ≤ maxWaiting := by decide +kernel
  have hpieces : ∀ b ∈ [roundHead.render], b ≠ [] := by decide +kernel
  have hurl : roundUrl.rawHost.all isAscii = true := by decide
  obtain ⟨r, s, hbegin, hshown, _⟩ := Response.exists_beginRead
    (s := (roundStream timeouts).note (.write head timeouts.write)) (List.forall_mem_nil _) hordinary (by decide)
    rfl hpieces rfl hsize (List.all_eq_true.mp hurl) (show Header.isToken "GET".toList = true by decide)
  obtain ⟨_, hstatus, _, hheaders⟩ := Head.mk.inj hshown
  refine ⟨r, s, ?_, hstatus, hheaders⟩
  -- writing leaves what the server sends as it is
  have hwrite : (roundStream timeouts).write head =
      (.ok (), (roundStream timeouts).note (.write head timeouts.write)) := by
    rw [Stream.write, hne]
    rfl
  rw [Leg.ask, show (roundLeg timeouts budget).method = "GET".toList from rfl, hprelude]
  dsimp only
  rw [hwrite]
  exact hbegin

theorem join_round : Url.join roundUrl "/".toList = .ok roundUrl := by decide +kernel

/-- Unless the budget is zero, the answer is a redirect to the same URL, with GET. -/
theorem verdict_round {r : Response} (hstatus : r.status = 302) (hheaders : r.headers = roundHead.fields)
    (hb : budget ≠ 0) : (roundLeg timeouts budget).verdict r = .rewrite roundUrl := by
  have hredirect : r.isRedirect = true := by
    rw [Response.isRedirect, hstatus]
    rfl
  have hlocation : r.location? = some "/".toList := by
    rw [Response.location?, hheaders]
    rfl
  have hzero : ((roundLeg timeouts budget).budget == 0) = false := beq_eq_false_iff_ne.mpr hb
  rw [Leg.verdict, hredirect, hzero, hlocation, hstatus]
  dsimp only
  rw [show (roundLeg timeouts budget).hop.url = roundUrl from rfl, join_round]
  rfl

theorem run_round (clock : Clock) (timeouts : Timeouts) (hb : budget ≠ 0) :
    ((roundLeg timeouts budget).run clock (some {}) (roundStream timeouts)).outcome =
        .ok (.redirect ⟨roundUrl, "GET".toList, .empty, true⟩) ∧
      ((roundLeg timeouts budget).run clock (some {}) (roundStream timeouts)).jar = some {} := by
  obtain ⟨r, s, hask, hstatus, hheaders⟩ := ask_round timeouts budget
  have hsettle : (roundLeg timeouts budget).settle r s =
      (.ok (.redirect ⟨roundUrl, "GET".toList, .empty, true⟩), s.close, .empty) := by
    rw [Leg.settle, verdict_round hstatus hheaders hb]
    rfl
  -- no cookies in the answer, so none in the jar
  have hplain : Header.valuesOf r.headers setCookieName = [] := by
    rw [hheaders]
    decide
  have htake : takeCookies clock (some {}) (roundLeg timeouts budget).hop r = (.ok (), some {}, []) := by
    rw [takeCookies, Jar.ingest, hplain]
    rfl
  rw [Leg.run, hask]
  dsimp only
  rw [htake, hsettle]
  exact ⟨rfl, rfl⟩

/-- **One turn.**  Unless the budget is zero, the journey goes on with the same leg and one less. -/
theorem hop_round (clock : Clock) (timeouts : Timeouts) (hd : d.routes = Dispatcher.standardRoutes)
    (hn : j.network = roundNetwork) (hj : j.jar = some {}) (hb : budget ≠ 0) :
    ∃ j', j.hop d clock (roundLeg timeouts budget) = .onward j' (roundLeg timeouts (budget - 1)) ∧
      j'.network = roundNetwork ∧ j'.jar = some {} := by
  obtain ⟨hnetwork, hopens⟩ := connect_round timeouts hd hn
  have hbuilt : (roundHop timeouts).forRedirect (some {}) roundUrl "GET".toList .empty true =
      .ok (roundHop timeouts) := rfl
  obtain ⟨houtcome, hjar⟩ := run_round clock timeouts hb
  rw [← hj] at houtcome hjar
  refine ⟨(j.opened (d.connect j.network (roundHop timeouts))).turn (roundLeg timeouts budget)
    ((roundLeg timeouts budget).run clock j.jar (roundStream timeouts)) ⟨roundUrl, "GET".toList, .empty, true⟩,
    ?_, hnetwork, hjar.trans hj⟩
  have hhop : j.hop d clock (roundLeg timeouts budget) =
      (j.opened (d.connect j.network (roundHop timeouts))).follow (roundLeg timeouts budget)
        ((roundLeg timeouts budget).run clock j.jar (roundStream timeouts)) := hop_of_opens hopens
  rw [hhop, follow, houtcome]
  dsimp only
  rw [hjar, hj, show (roundLeg timeouts budget).hop = roundHop timeouts from rfl, hbuilt]
  rfl

/-- **A budget that starts below zero is never used up**: every hop is reached. -/
theorem reaches_round (clocks : Clocks) (timeouts : Timeouts) (hd : d.routes = Dispatcher.standardRoutes)
    (hn : j.network = roundNetwork) (hj : j.jar = some {}) (hb : budget < 0) (k : Nat) :
    ∃ j', Reaches d clocks j (roundLeg timeouts budget) k j' (roundLeg timeouts (budget - k)) ∧
      j'.network = roundNetwork ∧ j'.jar = some {} := by
  induction k with
  | zero => exact ⟨j, (Int.sub_zero budget).symm ▸ .start, hn, hj⟩
  | succ k ih =>
    obtain ⟨j₁, hreach, hn₁, hj₁⟩ := ih
    -- below zero is not zero, and one less is below zero as well
    have hleft : budget - k ≠ 0 := by omega
    obtain ⟨j₂, hhop, hn₂, hj₂⟩ := hop_round (clocks k) timeouts hd hn₁ hj₁ hleft
    have hone : budget - k - 1 = budget - (k + 1 : Nat) := by omega
    exact ⟨j₂, hone ▸ hreach.onward hhop, hn₂, hj₂⟩

end Journey

namespace Agent

/-- A request to that server, which asks for no number of redirects. -/
def roundRequest : Request :=
  { url := "http://h/".toList, headers := [(.text "User-Agent".toList, .text "x".toList)] }

/-- The first hop of that request, whatever the settings are: it brings its own name of an agent. -/
theorem prepare_round (settings : Settings) :
    (ofSettings settings Journey.roundNetwork).prepare roundRequest = .ok (Journey.roundHop settings.timeouts) := by
  have hurl : Url.parse roundRequest.url = .ok Journey.roundUrl := rfl
  have hown : Header.contains [{ name := "User-Agent".toList, value := "x".toList }] userAgentName = true := rfl
  have hheaders : (ofSettings settings Journey.roundNetwork).headersFor roundRequest =
      .ok [{ name := "User-Agent".toList, value := "x".toList }] := by
    rw [headersFor]
    show (if settings.userAgent.isEmpty || Header.contains [{ name := "User-Agent".toList, value := "x".toList }]
      userAgentName then Except.ok _ else _) = _
    rw [hown, Bool.or_true, if_pos rfl]
    rfl
  rw [prepare, hurl]
  dsimp only
  rw [hheaders]
  rfl

end Agent

/-- **How many connections the requests of an agent open.**  With `b` redirects asked for, by the request or else by
    the settings, it is at most one and `b`, none below zero counted, whatever the servers answer, if the number is the
    request's own or is not negative; and from the environment it never is.  With negative settings and a request
    that asks for nothing there is no bound: a server that sends every request on is asked without an end. -/
theorem connections_bounded (a : Agent) :
    (∀ clocks r, (r.maxRedirects = none → 0 ≤ a.settings.maxRedirects) → a.Bounded clocks r (a.askedFor r)) ∧
    (∀ env, a.settings = .ofEnvironment env → 0 ≤ a.settings.maxRedirects) ∧
    (a.settings.maxRedirects < 0 →
      ∃ network r hop, r.maxRedirects = none ∧ (Agent.ofSettings a.settings network).prepare r = .ok hop ∧
        ∀ clocks k, ∃ j leg,
          Journey.Reaches (Agent.ofSettings a.settings network).dispatcher clocks
            (Agent.ofSettings a.settings network).journey ((Agent.ofSettings a.settings network).leg r hop) k j leg ∧
          j.streams.length = k) := by
  refine ⟨fun clocks r => Agent.bounded, ?environment, ?negative⟩
  case environment =>
    intro env hsettings
    rw [hsettings]
    exact Settings.maxRedirects_ofEnvironment env
  -- the same settings before the server that sends every request on
  case negative =>
    intro hnegative
    refine ⟨Journey.roundNetwork, Agent.roundRequest, _, rfl, Agent.prepare_round a.settings, ?_⟩
    intro clocks k
    obtain ⟨j, hreach, _⟩ := Journey.reaches_round (d := .ofSettings a.settings)
      (j := (Agent.ofSettings a.settings Journey.roundNetwork).journey) clocks a.settings.timeouts rfl rfl rfl
      hnegative k
    refine ⟨j, _, hreach, ?_⟩
    rw [Journey.length_streams_of_reaches hreach]
    exact Nat.zero_add k

/-- A server that sends a request on twice, and then answers it. -/
def Network.twoRedirects : Network :=
  { answers := ["HTTP/1.1 302 Found\r\nLocation: /\r\n\r\n", "HTTP/1.1 302 Found\r\nLocation: /\r\n\r\n",
      "HTTP/1.1 200 OK\r\n\r\n"].map fun s => { script := [.bytes (s.toList.map fun c => c.toNat.toUInt8)] } }

/-- An agent whose settings ask for less than no redirect, before that server. -/
def Agent.unclamped : Agent := .ofSettings { maxRedirects := -1 } .twoRedirects

/-- A request that asks for nothing. -/
def plainRequest : Request := { url := "http://h/".toList }

/-- The unclamped agent follows both redirects, with three connections where one is allowed. -/
theorem connections_of_unclamped :
    ¬ (((Agent.unclamped.send (.still 1700000000) plainRequest).connections.length : Int) ≤
        1 + max 0 (Agent.unclamped.askedFor plainRequest)) := by
  have hrun : ((Agent.unclamped.prepare plainRequest).toOption.any fun hop =>
      (Agent.unclamped.journey.hop Agent.unclamped.dispatcher (.still 1700000000)
          (Agent.unclamped.leg plainRequest hop)).onward?.any fun x =>
        (x.1.hop Agent.unclamped.dispatcher (.still 1700000000) x.2).onward?.any fun y =>
          (y.1.hop Agent.unclamped.dispatcher (.still 1700000000) y.2).onward?.isNone &&
            decide ((y.1.hop Agent.unclamped.dispatcher (.still 1700000000) y.2).streams.length = 3)) = true := by
    decide +kernel
  have hasked : Agent.unclamped.askedFor plainRequest = -1 := rfl
  rw [Option.any_eq_true] at hrun
  obtain ⟨hop, hprepare, hrun⟩ := hrun
  rw [Option.any_eq_true] at hrun
  obtain ⟨⟨j₁, leg₁⟩, hfirst, hrun⟩ := hrun
  rw [Option.any_eq_true] at hrun
  obtain ⟨⟨j₂, leg₂⟩, hsecond, hrun⟩ := hrun
  rw [Journey.Progress.onward?_eq_some_iff] at hfirst hsecond
  rw [Bool.and_eq_true, decide_eq_true_iff] at hrun
  cases hthird : j₂.hop Agent.unclamped.dispatcher (.still 1700000000) leg₂ with
  | onward j leg =>
    rw [hthird] at hrun
    exact Bool.noConfusion hrun.1
  | arrived arrival =>
    rw [hthird] at hrun
    have hends : Journey.Ends Agent.unclamped.dispatcher (.still 1700000000) Agent.unclamped.journey
        (Agent.unclamped.leg plainRequest hop) 2 arrival :=
      ⟨j₂, leg₂, (Journey.Reaches.start.onward hfirst).onward hsecond, hthird⟩
    have hlength : arrival.streams.length = 3 := hrun.2
    rw [Agent.connections_of_ends (toOption_eq_some_iff.mp hprepare) hends, hlength, hasked]
    decide

end Courier
