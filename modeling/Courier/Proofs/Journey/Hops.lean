/-
  What one hop of a journey does.

  A hop has four stages.

  1. It connects (`Dispatcher.connect`).  The transport may answer on a fresh stream, or fail with a stream in
     hand, or fail with none; `Transport.openStream_cases` says so, and `Dispatcher.opens` keeps what matters for
     the rest of the hop, the stream of a connection that came about.

  2. It writes its head and reads the head of the answer (`Leg.ask`).

  3. It takes in the cookies of the answer (`takeCookies`).  This comes before anybody looks at the budget or at
     the location, so an answer whose cookies cannot be taken in is never judged.

  4. It settles what the answer means (`Leg.verdict`, `Leg.settle`): too many redirects, a location that cannot be
     resolved, a redirect that goes on with GET or as it was, or the final answer.

  A failure at one stage ends the journey there.  What a stage can come to is said once for each, in the lemmas
  whose names end in `_cases`: `openStream_cases` for the first, `Leg.run_cases` for the second to the fourth,
  `follow_cases` for what the journey makes of a leg.  Proofs about journeys cite these and open none of the
  functions of the model.

  The judgement is a chain of tests, and two kinds of facts about it are needed: when a given verdict is reached
  (`verdict_exhausted_iff`, `verdict_final_iff`, `verdict_rewrite_iff`), and what is known when the journey goes on
  (`Leg.next?`, `of_next?`).  The first are equivalences, because what is said of budgets and of bodies uses them
  in both directions.

  A good part of the module is about one failure.  Of all failures of a journey, being redirected too often is the
  one that the budget decides, so it has to be told apart from the others wherever they come from: no other stage
  fails with it (the facts named `_ne`), and the settlement fails with it just when the verdict says so
  (`Leg.settle_tooManyRedirects`).

  The last part puts the stages together to a hop: `Journey.answer?` is the answer whose head was read,
  `Journey.judged?` the same when its cookies were taken in as well.  A history of hops, in the module on traces,
  speaks of these two and of nothing that goes on inside a hop.
-/
import Courier.Proofs.Basic
import Courier.Request.Journey

namespace Courier

/-! ## Opening a stream

  A network answers on a fresh stream, or fails.  What is fresh is said once, so that a hop can be looked at without
  its transport. -/

/-- A stream as a transport makes it: open, and with nothing written. -/
structure Stream.Fresh (s : Stream) : Prop where
  written : s.written = []
  closed : s.closed = false
  connected : s.connected = true
  writeFault : s.writeFault = none

/-- **What opening comes to.**  The network answers on a fresh stream; or the connection does not come about; or
    the handshake on it fails, and it is closed again. -/
theorem Transport.openStream_cases (t : Transport) (verify : Bool) (net : Network) (host : Text)
    (port : Option Int) (timeouts : Timeouts) :
    ∃ s : Stream, s.Fresh ∧
      (t.openStream verify net host port timeouts = answered net s ∨
        ∃ always once f rest, net.strike? always once = some (f, rest) ∧
          (t.openStream verify net host port timeouts =
              (.error (.fault f), some { s with connected := false }, rest) ∨
            t.openStream verify net host port timeouts = (.error (.fault f), some s.close, rest))) := by
  unfold openStream
  cases t with
  | scripted => exact ⟨_, ⟨rfl, rfl, rfl, rfl⟩, Or.inl rfl⟩
  -- without a handshake, the connection is all that can fail
  | plain =>
    dsimp only
    split
    · rename_i hs
      exact ⟨_, ⟨rfl, rfl, rfl, rfl⟩, Or.inr ⟨_, _, _, _, hs, Or.inl rfl⟩⟩
    · exact ⟨_, ⟨rfl, rfl, rfl, rfl⟩, Or.inl rfl⟩
  -- the connection fails as in the plain case, and after it the handshake, which closes the stream
  | secured =>
    dsimp only
    split
    · rename_i hs
      exact ⟨_, ⟨rfl, rfl, rfl, rfl⟩, Or.inr ⟨_, _, _, _, hs, Or.inl rfl⟩⟩
    · rw [if_neg (by decide)]
      split
      · rename_i hs
        exact ⟨_, ⟨rfl, rfl, rfl, rfl⟩, Or.inr ⟨_, _, _, _, hs, Or.inr rfl⟩⟩
      · exact ⟨_, ⟨rfl, rfl, rfl, rfl⟩, Or.inl rfl⟩

/-- An answer is a fresh stream with a script on it, or there is none. -/
theorem Transport.answered_cases (net : Network) (s : Stream) :
    answered net s = (.error (.noAnswer s.host), none, net) ∨
      ∃ a rest, net.next? = some (a, rest) ∧
        answered net s = (.ok (), some { s with incoming := a.script, writeFault := a.writeFault }, rest) := by
  rw [answered]
  split
  · exact Or.inl rfl
  · rename_i hnext
    exact Or.inr ⟨_, _, hnext, rfl⟩

/-! ## Failures that are no matter of the budget

  One lemma for each function that a hop calls: whatever it fails with, it is not too many redirects.  So a failure
  with that reason comes from the judgement. -/

/-- The failure of a result is the one that it was made with. -/
theorem Failure.ne_of_error {α : Type} {f e : Failure} (h : (Except.error f : Except Failure α) = .error e)
    (hf : f ≠ .tooManyRedirects) : e ≠ .tooManyRedirects := by
  rw [← Except.error.inj h]
  exact hf

/-- A script that has run out is another failure than too many redirects. -/
theorem Transport.answered_ne {net : Network} {s : Stream} {e : Failure}
    (h : (answered net s).1 = .error e) : e ≠ .tooManyRedirects := by
  rw [answered] at h
  split at h
  · exact Failure.ne_of_error h Failure.noConfusion
  · exact absurd h (by simp)

theorem Transport.openStream_ne {t : Transport} {verify : Bool} {net : Network} {host : Text}
    {port : Option Int} {timeouts : Timeouts} {e : Failure}
    (h : (t.openStream verify net host port timeouts).1 = .error e) : e ≠ .tooManyRedirects := by
  obtain ⟨s, _, hopen | ⟨always, once, f, rest, _, hopen | hopen⟩⟩ := t.openStream_cases verify net host port timeouts
  · rw [hopen] at h
    exact answered_ne h
  · rw [hopen] at h
    exact Failure.ne_of_error h Failure.noConfusion
  · rw [hopen] at h
    exact Failure.ne_of_error h Failure.noConfusion

/-- A connection fails for want of a route, or as the transport says. -/
theorem Dispatcher.connect_ne {d : Dispatcher} {net : Network} {hop : Hop} {e : Failure}
    (h : (d.connect net hop).result = .error e) : e ≠ .tooManyRedirects := by
  rw [connect] at h
  split at h
  · exact Failure.ne_of_error h Failure.noConfusion
  · exact Transport.openStream_ne h

/-- What a reader fails with, as a failure of the request. -/
theorem Response.failureOf_ne (e : ReadFailure) : failureOf e ≠ .tooManyRedirects := by
  cases e with
  | violation v => exact Failure.noConfusion
  | fault f =>
    rw [failureOf]
    split <;> exact Failure.noConfusion

theorem Response.checkRequest_ne {url : Url} {method : Text} {e : Failure}
    (h : checkRequest url method = .error e) : e ≠ .tooManyRedirects := by
  rw [checkRequest] at h
  split at h
  · exact Failure.ne_of_error h Failure.noConfusion
  · dsimp only at h
    split at h
    · exact Failure.ne_of_error h Failure.noConfusion
    · split at h
      · exact absurd h (by simp)
      · exact Failure.ne_of_error h Failure.noConfusion

theorem Response.checkHeaders_ne {fields : List Header} {e : Failure}
    (h : checkHeaders fields = .error e) : e ≠ .tooManyRedirects := by
  obtain ⟨f, _, hf⟩ := exists_of_mapM_eq_error h
  split at hf
  · exact absurd hf (by simp)
  · exact Failure.ne_of_error hf Failure.noConfusion

theorem Response.ofHead_ne {url : Url} {method : Text} {head : Head} {inbox : Inbox} {e : Failure}
    (h : ofHead url method head inbox = .error e) : e ≠ .tooManyRedirects := by
  rw [ofHead] at h
  rcases of_bind_eq_error h with hf | ⟨headers, _, h⟩
  · exact checkHeaders_ne hf
  · exact absurd h (by simp)

/-- Reading the head of an answer fails for the request line, for the bytes or for a field. -/
theorem Response.beginRead_ne {s : Stream} {url : Url} {method : Text} {e : Failure}
    (h : (beginRead s url method).1 = .error e) : e ≠ .tooManyRedirects := by
  rw [beginRead] at h
  split at h
  · rename_i hc
    -- the request is looked at first: nothing has been read yet
    exact Failure.ne_of_error h (checkRequest_ne hc)
  · split at h
    · exact Failure.ne_of_error h (failureOf_ne _)
    · exact ofHead_ne h

/-- Writing a head fails for its host, or for a character that is not in Latin-1. -/
theorem Hop.prelude_ne {hop : Hop} {method : Text} {e : Failure}
    (h : hop.prelude method = .error e) : e ≠ .tooManyRedirects := by
  rw [prelude] at h
  rcases of_bind_eq_error h with ht | ⟨text, _, h⟩
  · rw [preludeText] at ht
    rcases of_bind_eq_error ht with hhost | ⟨host, _, ht⟩
    · rw [hostLine] at hhost
      split at hhost
      · exact absurd hhost (by simp)
      · split at hhost
        · exact absurd hhost (by simp)
        · exact Failure.ne_of_error hhost Failure.noConfusion
    · exact absurd ht (by simp)
  · split at h
    · exact absurd h (by simp)
    · exact Failure.ne_of_error h Failure.noConfusion

/-- Asking fails for the head that is to be written, for the write, or for the head that is read. -/
theorem Leg.ask_ne {leg : Leg} {s : Stream} {e : Failure} (h : (leg.ask s).1 = .error e) :
    e ≠ .tooManyRedirects := by
  rw [ask] at h
  split at h
  · rename_i hp
    exact Failure.ne_of_error h (Hop.prelude_ne hp)
  · split at h
    · exact Failure.ne_of_error h Failure.noConfusion
    · exact Response.beginRead_ne h

/-- Cookies fail for the URL that they come from. -/
theorem takeCookies_ne {clock : Clock} {jar : Option Jar} {hop : Hop} {r : Response} {e : Failure}
    (h : (takeCookies clock jar hop r).1 = .error e) : e ≠ .tooManyRedirects := by
  unfold takeCookies at h
  split at h
  · exact absurd h (by simp)
  · split at h
    · exact absurd h (by simp)
    · exact Failure.ne_of_error h Failure.noConfusion

/-- A hop cannot be built for want of a host. -/
theorem Hop.build_ne {method : Text} {headers : List Header} {query : Query} {timeouts : Timeouts}
    {jar : Option Jar} {url : Url} {body : Body} {e : Failure}
    (h : build method headers query timeouts jar url body = .error e) : e ≠ .tooManyRedirects := by
  rw [build] at h
  rcases of_bind_eq_error h with hname | ⟨hostname, _, h⟩
  · rw [hostnameOf] at hname
    split at hname
    · exact absurd hname (by simp)
    · exact absurd hname (by simp)
    · exact Failure.ne_of_error hname Failure.noConfusion
  · exact absurd h (by simp)

/-! ## The judgement

  An answer is final when its status is no redirect.  Otherwise the budget is looked at first, then the location,
  whether it can be resolved, and last which status it is.  Each outcome is said in these terms, without the order
  of the tests. -/

/-- The statuses after which a journey goes on with GET. -/
theorem becomesGet_iff {status : Nat} : becomesGet status = true ↔ status = 301 ∨ status = 302 ∨ status = 303 := by
  rw [becomesGet, Bool.or_eq_true, Bool.or_eq_true, beq_iff_eq, beq_iff_eq, beq_iff_eq, or_assoc]

namespace Leg

variable {leg : Leg} {r : Response} {s : Stream}

/-- The next redirect, when the judgement is to go on. -/
def next? (leg : Leg) (r : Response) : Option Redirect :=
  match leg.verdict r with
  | .rewrite url => some ⟨url, "GET".toList, .empty, true⟩
  | .replay url => some ⟨url, leg.method, leg.body, false⟩
  | _ => none

/-- The budget is looked at before the location: a redirect with nothing left is one too many, whatever it says. -/
theorem verdict_exhausted_iff :
    leg.verdict r = .exhausted ↔ r.isRedirect = true ∧ leg.budget = 0 := by
  rw [verdict]
  cases r.isRedirect with
  | false => simp
  | true =>
    by_cases hb : leg.budget = 0
    · simp [hb]
    · -- with budget left, whichever verdict the location leads to is another one
      simp only [Bool.not_true, Bool.false_eq_true, if_false, beq_iff_eq, hb, and_false, iff_false]
      intro h
      split at h
      · exact Verdict.noConfusion h
      · split at h
        · exact Verdict.noConfusion h
        · split at h <;> exact Verdict.noConfusion h

/-- An answer is final when it is no redirect, or a redirect to nowhere while there is budget left. -/
theorem verdict_final_iff :
    leg.verdict r = .final ↔
      r.isRedirect = false ∨ (r.isRedirect = true ∧ leg.budget ≠ 0 ∧ r.location? = none) := by
  rw [verdict]
  cases r.isRedirect with
  | false => simp
  | true =>
    by_cases hb : leg.budget = 0
    · simp [hb]
    · cases hl : r.location? with
      | none => simp [hb]
      | some location =>
        simp only [Bool.not_true, Bool.false_eq_true, if_false, beq_iff_eq, hb, reduceCtorEq, and_false,
          or_self, iff_false]
        intro h
        split at h
        · exact Verdict.noConfusion h
        · split at h <;> exact Verdict.noConfusion h

/-- A status after which the journey goes on with GET is that of a redirect. -/
theorem isRedirect_of_becomesGet (h : becomesGet r.status = true) : r.isRedirect = true := by
  rw [becomesGet_iff] at h
  rw [Response.isRedirect, Bool.and_eq_true, decide_eq_true_iff, decide_eq_true_iff]
  omega

/-- A journey goes on with GET from three statuses only, with budget left and to a location that can be resolved. -/
theorem verdict_rewrite_iff {url : Url} :
    leg.verdict r = .rewrite url ↔
      leg.budget ≠ 0 ∧ becomesGet r.status = true ∧
        ∃ location, r.location? = some location ∧ Url.join leg.hop.url location = .ok url := by
  rw [verdict]
  cases hr : r.isRedirect with
  | false =>
    -- no status of this kind goes on with GET
    have hget : becomesGet r.status = false :=
      Bool.eq_false_iff.mpr fun h => Bool.false_ne_true (hr.symm.trans (isRedirect_of_becomesGet h))
    simp [hget]
  | true =>
    by_cases hb : leg.budget = 0
    · simp [hb]
    · cases hl : r.location? with
      | none => simp [hb]
      | some location =>
        cases hj : Url.join leg.hop.url location with
        | error e => simp [hb, hj]
        | ok url' => cases hg : becomesGet r.status <;> simp [hb, hj]

/-- A journey goes on only from a redirect with a location that it can resolve, and with budget left. -/
theorem of_next? {next : Redirect} (h : leg.next? r = some next) :
    r.isRedirect = true ∧ leg.budget ≠ 0 ∧
      ∃ location, r.location? = some location ∧ Url.join leg.hop.url location = .ok next.url := by
  rw [next?, verdict] at h
  cases hr : r.isRedirect with
  | false =>
    rw [hr] at h
    exact absurd h (by simp)
  | true =>
    rw [hr] at h
    by_cases hb : leg.budget = 0
    · simp [hb] at h
    · refine ⟨rfl, hb, ?_⟩
      -- with budget left there must be a location, and then it must be resolved
      cases hl : r.location? with
      | none => simp [hb, hl] at h
      | some location =>
        refine ⟨location, rfl, ?_⟩
        cases hj : Url.join leg.hop.url location with
        | error e => simp [hb, hl, hj] at h
        | ok url =>
          simp only [Bool.not_true, Bool.false_eq_true, if_false, beq_iff_eq, hb, hl, hj] at h
          cases hg : becomesGet r.status with
          | true =>
            rw [hg] at h
            rw [← Option.some.inj h]
          | false =>
            rw [hg] at h
            rw [← Option.some.inj h]

/-- The end of the budget is the one judgement that says so. -/
theorem settle_tooManyRedirects :
    (leg.settle r s).1 = .error .tooManyRedirects ↔ leg.verdict r = .exhausted := by
  rw [settle]
  split
  · rename_i hv
    simp [hv]
  · rename_i hv
    simp [hv]
  · rename_i hv
    rw [hv]
    split <;> simp
  · rename_i hv
    simp [hv]
  · rename_i hv
    rw [hv]
    split <;> simp

/-- The redirect that a leg comes to is the one that its judgement gives. -/
theorem settle_redirect {next : Redirect} (h : (leg.settle r s).1 = .ok (.redirect next)) :
    leg.next? r = some next := by
  rw [settle] at h
  rw [next?]
  split at h
  · exact absurd h (by simp)
  · exact absurd h (by simp)
  · rename_i hv
    rw [hv]
    split at h
    · exact absurd h (by simp)
    · rw [Except.ok.injEq, Outcome.redirect.injEq] at h
      rw [← h]
  · rename_i hv
    rw [hv]
    rw [Except.ok.injEq, Outcome.redirect.injEq] at h
    rw [← h]
  · split at h <;> exact absurd h (by simp)

/-- A final answer is the one that was judged, with the stream of the leg attached to it. -/
theorem settle_final {r' : Response} (h : (leg.settle r s).1 = .ok (.final r')) :
    leg.verdict r = .final ∧ r' = r.attach (leg.settle r s).2.1 leg.hop.isHead := by
  rw [settle] at h ⊢
  split at h
  · exact absurd h (by simp)
  · exact absurd h (by simp)
  · split at h <;> exact absurd h (by simp)
  · exact absurd h (by simp)
  · rename_i hv
    split at h
    · exact absurd h (by simp)
    · rw [Except.ok.injEq, Outcome.final.injEq] at h
      rw [hv]
      exact ⟨rfl, h.symm⟩

/-! ## A leg on its stream

  What a leg comes to, in three cases, each with the stream and the jar that it leaves. -/

/-- **What a leg comes to.**  The head of the answer is not read; or its cookies fail; or they are taken in,
    and the leg settles what the answer means. -/
theorem run_cases (leg : Leg) (clock : Clock) (jar : Option Jar) (s : Stream) :
    (∃ e s', leg.ask s = (.error e, s') ∧
      leg.run clock jar s = { outcome := .error e, stream := s', jar, body := leg.body }) ∨
    (∃ r s' e jar' log, leg.ask s = (.ok r, s') ∧ takeCookies clock jar leg.hop r = (.error e, jar', log) ∧
      leg.run clock jar s =
        { outcome := .error e, stream := s', jar := jar', body := leg.body, log := leg.answered r :: log }) ∨
    (∃ r s' jar' log, leg.ask s = (.ok r, s') ∧ takeCookies clock jar leg.hop r = (.ok (), jar', log) ∧
      leg.run clock jar s =
        { outcome := (leg.settle r s').1, stream := (leg.settle r s').2.1, jar := jar',
          body := (leg.settle r s').2.2, log := leg.answered r :: log }) := by
  rw [run]
  rcases ha : leg.ask s with ⟨e | r, s'⟩
  · -- the head is not read, and the cookies and the body stay as they are
    exact Or.inl ⟨e, s', rfl, rfl⟩
  · rcases ht : takeCookies clock jar leg.hop r with ⟨e | ⟨⟩, jar', log⟩
    · -- the cookies failed: the jar is as they left it, and the body as it was
      refine Or.inr (Or.inl ⟨r, s', e, jar', log, rfl, ht, ?_⟩)
      dsimp only
      rw [ht]
    · refine Or.inr (Or.inr ⟨r, s', jar', log, rfl, ht, ?_⟩)
      dsimp only
      rw [ht]

end Leg

/-! ## A hop of a journey

  A hop is a connection and a leg.  What follows from the leg decides whether the journey goes on. -/

/-- The stream that connecting gives, when it does. -/
def Dispatcher.opens (d : Dispatcher) (net : Network) (hop : Hop) : Option Stream :=
  match (d.connect net hop).result with
  | .error _ => none
  | .ok () => (d.connect net hop).stream

theorem Dispatcher.connect_of_opens {d : Dispatcher} {net : Network} {hop : Hop} {s : Stream}
    (h : d.opens net hop = some s) : (d.connect net hop).stream = some s := by
  rw [opens] at h
  split at h
  · exact absurd h (by simp)
  · exact h

/-- Closing a stream writes nothing. -/
theorem Stream.written_close (s : Stream) : s.close.written = s.written := by
  rw [close]
  split
  · rfl
  · rw [written_note]
    exact List.append_nil _

/-- Opening a stream writes nothing. -/
theorem Transport.written_of_openStream {t : Transport} {verify : Bool} {net : Network} {host : Text}
    {port : Option Int} {timeouts : Timeouts} {s : Stream}
    (h : (t.openStream verify net host port timeouts).2.1 = some s) : s.written = [] := by
  obtain ⟨s₀, hfresh, hopen | ⟨always, once, f, rest, _, hopen | hopen⟩⟩ :=
    t.openStream_cases verify net host port timeouts
  · -- opened, and whatever answers on it
    rw [hopen] at h
    rcases answered_cases net s₀ with hnone | ⟨a, rest, _, hanswer⟩
    · rw [hnone] at h
      exact absurd h (by simp)
    · rw [hanswer] at h
      exact Option.some.inj h ▸ hfresh.written
  · rw [hopen] at h
    exact Option.some.inj h ▸ hfresh.written
  · rw [hopen] at h
    exact Option.some.inj h ▸ (s₀.written_close.trans hfresh.written)

theorem Dispatcher.written_of_connect {d : Dispatcher} {net : Network} {hop : Hop} {s : Stream}
    (h : (d.connect net hop).stream = some s) : s.written = [] := by
  rw [connect] at h
  split at h
  · exact absurd h (by simp)
  · exact Transport.written_of_openStream h

namespace Journey

variable {d : Dispatcher} {clock : Clock} {j j' : Journey} {leg leg' : Leg} {r : Response}

/-- The answer to a hop, when its head was read. -/
def answer? (d : Dispatcher) (j : Journey) (leg : Leg) : Option Response :=
  (d.opens j.network leg.hop).bind fun s => (leg.ask s).1.toOption

/-- The answer to a hop, when its cookies were taken in as well. -/
def judged? (d : Dispatcher) (clock : Clock) (j : Journey) (leg : Leg) : Option Response :=
  (j.answer? d leg).filter fun r => (takeCookies clock j.jar leg.hop r).1.isOk

theorem judged?_eq_some_iff :
    j.judged? d clock leg = some r ↔
      j.answer? d leg = some r ∧ (takeCookies clock j.jar leg.hop r).1.isOk = true := by
  rw [judged?, Option.filter_eq_some_iff]

/-- The answer to a hop is what asking on its stream gives. -/
theorem answer?_of_opens {s s' : Stream} (ho : d.opens j.network leg.hop = some s)
    (ha : leg.ask s = (.ok r, s')) : j.answer? d leg = some r := by
  rw [answer?, ho, Option.bind_some, ha]
  rfl

/-- A hop with a stream is what follows from its leg. -/
theorem hop_of_opens {s : Stream} (ho : d.opens j.network leg.hop = some s) :
    j.hop d clock leg =
      (j.opened (d.connect j.network leg.hop)).follow leg (leg.run clock j.jar s) := by
  rw [Dispatcher.opens] at ho
  split at ho
  · exact absurd ho (by simp)
  · rename_i hresult
    rw [hop]
    rw [hresult, ho]

/-- A hop that opens no stream ends the journey, with the record of its connection if there is one. -/
theorem hop_of_not_opens (clock : Clock) (ho : d.opens j.network leg.hop = none) :
    ∃ e, e ≠ .tooManyRedirects ∧
      j.hop d clock leg = .arrived
        ⟨.error e, { j.opened (d.connect j.network leg.hop) with
          streams := j.streams ++ (d.connect j.network leg.hop).stream.toList }, leg.body⟩ := by
  rw [Dispatcher.opens] at ho
  rw [hop]
  split at ho
  · rename_i e hresult
    refine ⟨e, Dispatcher.connect_ne hresult, ?_⟩
    rw [hresult]
    cases (d.connect j.network leg.hop).stream with
    | none =>
      rw [Option.toList_none, List.append_nil]
      rfl
    | some s => rfl
  · rename_i hresult
    refine ⟨.noAnswer leg.hop.hostname, Failure.noConfusion, ?_⟩
    rw [hresult, ho, Option.toList_none, List.append_nil]
    rfl

/-- **What follows from a leg.**  Its failure ends the journey; a final answer ends it with the stream in the
    response; a redirect ends it when the next hop cannot be made, and goes on otherwise. -/
theorem follow_cases (j : Journey) (leg : Leg) (x : LegResult) :
    (∃ e, x.outcome = .error e ∧
      j.follow leg x = .arrived ⟨.error e, (j.after x).leave x.stream.close, x.body⟩) ∨
    (∃ r, x.outcome = .ok (.final r) ∧ j.follow leg x = .arrived ⟨.ok r, j.after x, x.body⟩) ∨
    (∃ next e, x.outcome = .ok (.redirect next) ∧
      leg.hop.forRedirect x.jar next.url next.method next.body next.bodyDropped = .error e ∧
      j.follow leg x = .arrived ⟨.error e, j.turn leg x next, x.body⟩) ∨
    (∃ next hop, x.outcome = .ok (.redirect next) ∧
      leg.hop.forRedirect x.jar next.url next.method next.body next.bodyDropped = .ok hop ∧
      j.follow leg x =
        .onward (j.turn leg x next)
          { hop, method := next.method, body := next.body, budget := leg.budget - 1 }) := by
  rw [follow]
  rcases ho : x.outcome with e | (r | next)
  · exact Or.inl ⟨e, rfl, rfl⟩
  · exact Or.inr (Or.inl ⟨r, rfl, rfl⟩)
  · dsimp only
    rcases hn : leg.hop.forRedirect x.jar next.url next.method next.body next.bodyDropped with e | hop
    · exact Or.inr (Or.inr (Or.inl ⟨next, e, rfl, hn, rfl⟩))
    · exact Or.inr (Or.inr (Or.inr ⟨next, hop, rfl, hn, rfl⟩))

end Journey

end Courier
