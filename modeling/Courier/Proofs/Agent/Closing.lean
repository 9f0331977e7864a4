/-
  No connection of a request is left open.

  The streams of a request are those of its journey, and what is true of a journey is known already
  (`Journey.closes_of_ends`): one that fails has closed them all, and one that returns a response hands over the
  last of them open.  What is added here is the reading of the answer.

  1. **Sending** (`Agent.send_of_ends`): a request sets out on the journey of its first hop, and ends as that
     journey ends.  A request whose first hop cannot be made opens nothing.

  2. **Reading** (`Agent.request_streams_of_ok`): the request reads from the last stream and then closes it, however
     the reading ended.  `Response.later_readUpTo` says that this is the stream that the journey opened, with more
     in its record, also when the response closed it on its own.

  3. **Together** (`Agent.Closes`, `Agent.closes`): the streams of a request are those of its journey, one for one,
     and none is left open.  The streams before the last one do not change any more.

  A journey that goes on for ever has no end to speak of, so the statements are about journeys that end
  (`Journey.Ends`), and with a budget that is not below zero every journey does.  What a caller sees is built on top
  of this: the failure of a request is an answer as well, and its streams are those of the request
  (`Agent.perform_answers`).
-/
import Courier.Agent
import Courier.Proofs.Journey.Closing
import Mathlib.Data.List.Forall2

namespace Courier

namespace Agent

variable {a : Agent} {clocks : Journey.Clocks} {r : Request} {hop : Hop} {arrival : Arrival} {i : Nat}

/-- The journey that the requests of an agent set out on. -/
def journey (a : Agent) : Journey := { network := a.network, jar := some a.jar }

/-- The first leg of a request. -/
def leg (a : Agent) (r : Request) (hop : Hop) : Leg :=
  { hop, method := r.method, body := .ofPayload r.body, budget := a.budgetFor r }

/-- Without a first hop a request fails for that reason, and nothing else happens. -/
theorem send_of_prepare_error {e : Failure} (h : a.prepare r = .error e) : a.send clocks r = ⟨.error e, a, [], []⟩ := by
  rw [send, h]

/-- **A request ends as its journey does.** -/
theorem send_of_ends (h : a.prepare r = .ok hop)
    (hends : Journey.Ends a.dispatcher clocks a.journey (a.leg r hop) i arrival) :
    (a.send clocks r).result = arrival.result ∧ (a.send clocks r).streams = arrival.journey.streams := by
  have hrun := Journey.run_of_ends hends
  rw [journey, leg] at hrun
  rw [send, h]
  dsimp only
  rw [hrun]
  exact ⟨rfl, rfl⟩

theorem request_streams_of_error {e : Failure} (h : (a.send clocks r).result = .error e) :
    (a.request clocks r).streams = (a.send clocks r).streams := by
  rw [request, h]
  exact List.append_nil _

/-- Reading the answer ends with its stream closed, and it is the same stream. -/
theorem request_streams_of_ok {response : Response} {s : Stream} (h : (a.send clocks r).result = .ok response)
    (hs : response.stream = some s) :
    ∃ s', (a.request clocks r).streams = (a.send clocks r).streams ++ [s'] ∧ s.Later s' ∧ s'.closed = true := by
  obtain ⟨s₁, hs₁, hread⟩ := Response.later_readUpTo hs (a.send clocks r).agent.limit
  obtain ⟨s₂, hs₂, hclose, hclosed⟩ := Response.later_close hs₁
  -- read first and closed then, in this order and on every way out
  refine ⟨s₂, ?_, hread.trans hclose, hclosed⟩
  rw [request, h]
  show (a.send clocks r).streams ++ ((a.send clocks r).agent.readReply response).2.toList = _
  rw [readReply]
  dsimp only
  rw [hs₂]
  rfl

/-- What becomes of the streams of a request. -/
structure Closes (a : Agent) (clocks : Journey.Clocks) (r : Request) : Prop where
  /-- a request whose first hop cannot be made opens no stream -/
  unprepared : ∀ e, a.prepare r = .error e → (a.request clocks r).streams = []
  /-- otherwise its streams are those of its journey, one for one, and none of them is left open -/
  prepared : ∀ hop i arrival, a.prepare r = .ok hop →
    Journey.Ends a.dispatcher clocks a.journey (a.leg r hop) i arrival →
    List.Forall₂ Stream.Later arrival.streams (a.request clocks r).streams ∧
      ∀ s ∈ (a.request clocks r).streams, s.Released

/-- Streams that nothing happens to. -/
theorem later_refl_all (streams : List Stream) : List.Forall₂ Stream.Later streams streams :=
  List.forall₂_same.mpr fun s _ => .refl s

/-- **No request leaves a stream open.** -/
theorem closes (a : Agent) (clocks : Journey.Clocks) (r : Request) : a.Closes clocks r := by
  constructor
  · intro e he
    have hsend : a.send clocks r = ⟨.error e, a, [], []⟩ := send_of_prepare_error he
    rw [request_streams_of_error (congrArg Done.result hsend), hsend]
  · intro hop i arrival hprepare hends
    obtain ⟨hresult, hstreams⟩ := send_of_ends hprepare hends
    have hjourney := Journey.closes_of_ends (j := a.journey) (List.forall_mem_nil _) hends
    cases hr : arrival.result with
    -- the journey failed, and closed its streams itself
    | error e =>
      have harrival : arrival.streams = arrival.journey.streams := by
        rw [Arrival.streams, hr]
        exact List.append_nil _
      rw [request_streams_of_error (hresult.trans hr), hstreams, ← harrival]
      exact ⟨later_refl_all _, hjourney.raised e hr⟩
    -- all but the last are closed, and the last is read and closed
    | ok response =>
      obtain ⟨before, s, harrival, hs, _, _, _, hbefore⟩ := hjourney.returned response hr
      have hprefix : arrival.journey.streams = before := by
        rw [Arrival.streams, hr] at harrival
        dsimp only at harrival
        rw [hs] at harrival
        exact (List.append_inj_left' harrival rfl)
      obtain ⟨s', hrequest, hlater, hclosed⟩ := request_streams_of_ok (hresult.trans hr) hs
      rw [hrequest, hstreams, harrival, hprefix]
      constructor
      · exact List.rel_append (later_refl_all before) (.cons hlater .nil)
      · rw [List.forall_mem_append]
        refine ⟨fun s hs => Stream.released_of_closed (hbefore s hs), ?_⟩
        exact List.forall_mem_singleton.mpr (Stream.released_of_closed hclosed)

/-! ## What a caller sees

  A caller is given a report instead of a failure, so that it need not catch anything but the end of the program. -/

/-- Only a stop of the program goes through to a caller.  Every other failure of a request is an answer. -/
theorem perform_error_iff {e : Failure} :
    (a.perform clocks r).result = .error e ↔ (a.request clocks r).result = .error e ∧ e.isAbort = true := by
  rw [perform]
  dsimp only
  cases (a.request clocks r).result with
  | ok reply => exact ⟨nofun, fun h => nomatch h.1⟩
  | error e' =>
    dsimp only
    cases habort : e'.isAbort with
    | true =>
      rw [if_pos rfl]
      constructor
      · intro h
        obtain rfl := Except.error.inj h
        exact ⟨rfl, habort⟩
      · rintro ⟨h, _⟩
        rw [Except.error.inj h]
    | false =>
      rw [if_neg Bool.false_ne_true]
      refine ⟨nofun, ?_⟩
      rintro ⟨h, hstop⟩
      rw [← Except.error.inj h, habort] at hstop
      exact Bool.noConfusion hstop

/-- **A caller gets an answer, and no connection is left open**, unless the program is stopped on the way: then the stop
    goes through, and no connection is left open either. -/
theorem perform_answers (hbudget : 0 ≤ a.budgetFor r) :
    (∀ s ∈ (a.perform clocks r).streams, s.Released) ∧
      ((∃ report, (a.perform clocks r).result = .ok report) ∨
        ∃ e, (a.request clocks r).result = .error e ∧ e.isAbort = true) := by
  constructor
  · intro s hs
    have hs : s ∈ (a.request clocks r).streams := hs
    cases hprepare : a.prepare r with
    | error e =>
      rw [(a.closes clocks r).unprepared e hprepare] at hs
      exact absurd hs List.not_mem_nil
    | ok hop =>
      obtain ⟨i, hends⟩ := Journey.ends_of_budget a.dispatcher clocks a.journey (a.leg r hop) hbudget
      exact ((a.closes clocks r).prepared hop i _ hprepare hends).2 s hs
  · cases hperform : (a.perform clocks r).result with
    | ok report => exact Or.inl ⟨report, rfl⟩
    | error e => exact Or.inr ⟨e, perform_error_iff.mp hperform⟩

end Agent

/-- **No connection is leaked.**  Whatever the servers answer and wherever a hop fails: when a hop of a journey
    begins, the streams before it are closed; a journey that ends has closed every stream, except that of the
    response it returns; and a request that ends has closed that one too.  With a budget that is not below zero
    both do end. -/
theorem every_stream_closed :
    (∀ (d : Dispatcher) (clocks : Journey.Clocks) (network : Network) (jar : Option Jar) (leg : Leg),
      (∀ k j' leg', Journey.Reaches d clocks { network, jar } leg k j' leg' → ∀ s ∈ j'.streams, s.closed = true) ∧
      (∀ i a, Journey.Ends d clocks { network, jar } leg i a →
        Journey.run d clocks { network, jar } leg = a ∧ Journey.Closes d clocks { network, jar } leg i a) ∧
      (0 ≤ leg.budget →
        ∃ i, Journey.Ends d clocks { network, jar } leg i (Journey.run d clocks { network, jar } leg))) ∧
    (∀ (a : Agent) (clocks : Journey.Clocks) (r : Request), a.Closes clocks r ∧
      (0 ≤ a.budgetFor r → ∀ hop, a.prepare r = .ok hop →
        ∃ i arrival, Journey.Ends a.dispatcher clocks a.journey (a.leg r hop) i arrival)) := by
  constructor
  · -- journeys, whoever sets out on them
    intro d clocks network jar leg
    have hnone : ∀ s ∈ ({ network, jar } : Journey).streams, s.closed = true := List.forall_mem_nil _
    refine ⟨?_, ?_, Journey.ends_of_budget d clocks _ leg⟩
    · intro k j' leg' hreach
      exact Journey.closed_of_reaches hreach hnone
    · intro i a hends
      exact ⟨Journey.run_of_ends hends, Journey.closes_of_ends hnone hends⟩
  · -- and the requests of agents
    intro a clocks r
    refine ⟨a.closes clocks r, ?_⟩
    intro hbudget hop _
    obtain ⟨i, hends⟩ := Journey.ends_of_budget a.dispatcher clocks a.journey (a.leg r hop) hbudget
    exact ⟨i, _, hends⟩

end Courier
