/-
  The body of a request goes out at most once.

  A body may come from a source that can be gone through only once, so a journey must not send it on one hop and
  want it again on another.  What keeps it from that is the moment of sending: a hop writes its head, reads the head
  of the answer, and sends its body only if the answer leaves no later hop that would need it.  So a hop sends when
  it judges the answer to be final, or to be a redirect that goes on with GET (`Leg.sends`); in every other case it
  writes its head only and takes nothing from the source.  After which answers that is so is a matter of their
  status and location and of the budget that is left (`Leg.SendsAfter`, `Leg.sends_iff`).

  After a redirect that goes on with GET, the journey goes on without a body, and without the caller's framing: a
  chunked body that is empty would still have an end to be written.

  So the history of a journey has two parts, and `Carries` is the invariant.  Up to the first hop that sends, every
  leg carries the whole body and the framing that the caller asked for; after it, every leg carries the empty body
  and no framing.

  * One leg: what is on its stream after it asked (`ask_written`), and what settling the answer adds
    (`settle_of_sends`, `settle_of_keeps`).

  * One hop: the head and the body, with the source spent, or the head alone with the source untouched
    (`run_of_sends`, `run_of_not_sends`).

  * One step of the history: `next?_cases` gives what the next leg carries, and `carries_of_reaches` is the
    induction.

  `SendsOnce` says what is on every stream of a journey, and `run_sends_once` puts it together: the first hop that
  sends writes the body whole, and a later one that sends writes the empty body in no framing, which is nothing.

  The assumptions are that streams take writes (`Network.Writable`) and that the source of the body gives bytes
  whenever it is asked (`Body.Faultless`).  They are about what the network and the caller do.  A write that fails,
  or a source that does, ends the journey with a part of the body written, and nothing of this is said of it here.
-/
import Courier.Proofs.Journey.Trace
import Courier.Proofs.Request.Prelude
import Courier.Proofs.Request.Sending
import Courier.Proofs.Stream.Use

namespace Courier

/-! ## Networks whose streams take writes

  The statement is about networks on which no write fails.  That is a property of each of their answers, so it is
  kept by taking one of them off. -/

/-- No connection of this network refuses a write. -/
structure Network.Writable (net : Network) : Prop where
  listed : ∀ a ∈ net.answers, a.writeFault = none
  endless : ∀ f, net.endless = some f → ∀ i, (f i).writeFault = none

/-- The next connection takes writes, and so does the network that is left. -/
theorem Network.Writable.next {net rest : Network} {a : Answer} (h : net.Writable)
    (hn : net.next? = some (a, rest)) : a.writeFault = none ∧ rest.Writable := by
  rw [next?] at hn
  split at hn
  · -- an answer of the list
    rename_i hanswers
    rw [Option.some.injEq, Prod.mk.injEq] at hn
    obtain ⟨rfl, rfl⟩ := hn
    rename_i answers _
    refine ⟨h.listed _ (hanswers ▸ List.mem_cons_self ..), fun b hb => ?_, h.endless⟩
    exact h.listed b (hanswers ▸ List.mem_cons_of_mem _ hb)
  · -- the list is used up, and the answers go on without end
    rename_i f hanswers hendless
    rw [Option.some.injEq, Prod.mk.injEq] at hn
    obtain ⟨rfl, rfl⟩ := hn
    refine ⟨h.endless f hendless 0, h.listed, fun g hg i => ?_⟩
    rw [← Option.some.inj hg]
    exact h.endless f hendless (i + 1)
  · exact absurd hn (by simp)

/-- A fault that strikes in connecting leaves a network that takes writes. -/
theorem Network.Writable.strike {net rest : Network} {always : Option Fault} {once : Answer → Option Fault}
    {f : Fault} (h : net.Writable) (hs : net.strike? always once = some (f, rest)) : rest.Writable := by
  unfold strike? at hs
  split at hs
  · rw [Option.some.injEq, Prod.mk.injEq] at hs
    exact hs.2 ▸ h
  · rw [Option.bind_eq_some_iff] at hs
    obtain ⟨⟨a, rest'⟩, hnext, hmap⟩ := hs
    obtain ⟨g, _, heq⟩ := Option.map_eq_some_iff.mp hmap
    rw [Prod.mk.injEq] at heq
    exact heq.2 ▸ (h.next hnext).2

/-- A network and the stream that it may have given take writes. -/
def Transport.Takes (x : Except Failure Unit × Option Stream × Network) : Prop :=
  x.2.2.Writable ∧ ∀ s, x.2.1 = some s → s.writeFault = none

/-- Opening a stream on such a network gives one that takes writes. -/
theorem Transport.takes_openStream {t : Transport} {verify : Bool} {net : Network} {host : Text}
    {port : Option Int} {timeouts : Timeouts} (h : net.Writable) :
    Takes (t.openStream verify net host port timeouts) := by
  obtain ⟨s, hfresh, hopen | ⟨always, once, f, rest, hs, hopen | hopen⟩⟩ :=
    t.openStream_cases verify net host port timeouts
  · rw [hopen]
    rcases answered_cases net s with hnone | ⟨a, rest, hnext, hanswer⟩
    · rw [hnone]
      exact ⟨h, fun s' hs' => absurd hs' (by simp)⟩
    · rw [hanswer]
      obtain ⟨ha, hrest⟩ := h.next hnext
      exact ⟨hrest, fun s' hs' => Option.some.inj hs' ▸ ha⟩
  · rw [hopen]
    exact ⟨h.strike hs, fun s' hs' => Option.some.inj hs' ▸ hfresh.writeFault⟩
  · rw [hopen]
    refine ⟨h.strike hs, fun s' hs' => ?_⟩
    rw [← Option.some.inj hs', Stream.close]
    split <;> exact hfresh.writeFault

theorem Dispatcher.takes_connect (d : Dispatcher) {net : Network} (h : net.Writable) (hop : Hop) :
    (d.connect net hop).network.Writable ∧
      ∀ s, (d.connect net hop).stream = some s → s.writeFault = none := by
  rw [connect]
  split
  · exact ⟨h, fun s hs => absurd hs (by simp)⟩
  · exact Transport.takes_openStream h

/-! ## What a leg writes

  Whether a leg sends its body is known when it has its answer, and it is a matter of status, location and budget. -/

namespace Leg

variable {leg : Leg} {r : Response} {s : Stream}

/-- The head that a leg writes, nothing when it cannot be written. -/
def head (leg : Leg) : Bytes := (leg.hop.prelude leg.method).toOption.getD []

/-- Whether a leg sends its body when it gets this answer. -/
def sends (leg : Leg) (r : Response) : Bool :=
  match leg.verdict r with
  | .final | .rewrite _ => true
  | _ => false

/-- The answers after which a leg sends its body, by their status and location and by the budget that is left. -/
inductive SendsAfter (leg : Leg) (r : Response) : Prop
  /-- no redirect: the answer is final -/
  | final (status : r.status < 300 ∨ 399 < r.status)
  /-- a redirect that the budget allows and that says of no place: the answer is final as well -/
  | nowhere (budget : leg.budget ≠ 0) (none : r.location? = none)
  /-- a redirect that the budget allows and that goes on with GET, to a place that is resolved -/
  | rewritten (budget : leg.budget ≠ 0) (status : r.status = 301 ∨ r.status = 302 ∨ r.status = 303) (location : Text)
      (url : Url) (some : r.location? = some location) (join : Url.join leg.hop.url location = .ok url)

/-- **When a body is sent.**  In every other case it is not: the budget is used up, the location cannot be resolved, or
    the redirect, such as a 307, goes on with the same method and body. -/
theorem sends_iff : leg.sends r = true ↔ leg.SendsAfter r := by
  have hverdict : leg.sends r = true ↔ leg.verdict r = .final ∨ ∃ url, leg.verdict r = .rewrite url := by
    rw [sends]
    cases leg.verdict r <;> simp
  have hredirect : r.isRedirect = false ↔ r.status < 300 ∨ 399 < r.status := by
    rw [Response.isRedirect, Bool.and_eq_false_iff, decide_eq_false_iff_not, decide_eq_false_iff_not, Nat.not_le,
      Nat.not_le]
  rw [hverdict, verdict_final_iff]
  constructor
  · -- each way of sending is one kind of answer
    rintro ((hr | ⟨_, hbudget, hnone⟩) | ⟨url, hrewrite⟩)
    · exact .final (hredirect.mp hr)
    · exact .nowhere hbudget hnone
    · obtain ⟨hbudget, hstatus, location, hsome, hjoin⟩ := verdict_rewrite_iff.mp hrewrite
      exact .rewritten hbudget (becomesGet_iff.mp hstatus) location url hsome hjoin
  · intro h
    cases h with
    | final status => exact Or.inl (Or.inl (hredirect.mpr status))
    -- the location says nothing when the answer is no redirect, but then it is final all the same
    | nowhere budget none =>
      cases hr : r.isRedirect with
      | false => exact Or.inl (Or.inl rfl)
      | true => exact Or.inl (Or.inr ⟨rfl, budget, none⟩)
    | rewritten budget status location url some join =>
      exact Or.inr ⟨url, verdict_rewrite_iff.mpr ⟨budget, becomesGet_iff.mpr status, location, some, join⟩⟩

/-- **What a redirect carries on.**  Nothing when the hop sends, and otherwise what the leg carries. -/
theorem next?_cases {next : Redirect} (h : leg.next? r = some next) :
    (leg.sends r = true ∧ next.body = .empty ∧ next.bodyDropped = true) ∨
    (leg.sends r = false ∧ next.body = leg.body ∧ next.bodyDropped = false) := by
  rw [next?] at h
  rw [sends]
  split at h
  · rename_i hv
    rw [hv, ← Option.some.inj h]
    exact Or.inl ⟨rfl, rfl, rfl⟩
  · rename_i hv
    rw [hv, ← Option.some.inj h]
    exact Or.inr ⟨rfl, rfl, rfl⟩
  · exact absurd h (by simp)

theorem ask_written (leg : Leg) (hs : s.writeFault = none) :
    (leg.ask s).2.written = s.written ++ leg.head ∧ (leg.ask s).2.writeFault = none := by
  rw [ask, head]
  split
  · rename_i hp
    rw [hp]
    exact ⟨(List.append_nil _).symm, hs⟩
  · rename_i head hp
    obtain ⟨s', hwrite, hwritten, hs'⟩ := s.write_written hs head
    rw [hwrite, hp]
    have hframes := (Response.reads_beginRead s' leg.hop.url leg.method).frames
    exact ⟨hframes.written.trans hwritten, hframes.writeFault.trans hs'⟩

/-- A hop that sends writes the whole body, and its source is spent. -/
theorem settle_of_sends (hsends : leg.sends r = true) (hbody : leg.body.Faultless)
    (hs : s.writeFault = none) :
    (leg.settle r s).2.1.written = s.written ++ leg.body.wire leg.hop.isChunked ∧
      (leg.settle r s).2.2 = leg.body.spent := by
  obtain ⟨s', hsend, hwritten⟩ := Body.send_written hbody hs leg.hop.isChunked
  rw [sends] at hsends
  rw [settle]
  split at hsends
  · rename_i hv
    rw [hv]
    dsimp only
    rw [hsend]
    exact ⟨hwritten, rfl⟩
  · rename_i hv
    rw [hv]
    dsimp only
    rw [hsend]
    exact ⟨s'.written_close.trans hwritten, rfl⟩
  · exact absurd hsends Bool.false_ne_true

/-- A hop that does not send writes nothing more, and the source is not touched. -/
theorem settle_of_keeps (hsends : leg.sends r = false) :
    (leg.settle r s).2.1.written = s.written ∧ (leg.settle r s).2.2 = leg.body := by
  rw [sends] at hsends
  rw [settle]
  split
  · exact ⟨rfl, rfl⟩
  · exact ⟨rfl, rfl⟩
  · rename_i hv
    rw [hv] at hsends
    exact absurd hsends.symm Bool.false_ne_true
  · exact ⟨s.written_close, rfl⟩
  · rename_i hv
    rw [hv] at hsends
    exact absurd hsends.symm Bool.false_ne_true

end Leg

/-! ## What a hop writes

  A hop that sends writes a head and the body, and one that does not writes a head alone. -/

namespace Journey

variable {d : Dispatcher} {clock : Clock} {clocks : Clocks} {j j' : Journey} {leg leg' : Leg} {a : Arrival} {i k : Nat}
  {headers : List Header} {body : Body}

/-- A hop sends its body: its answer is read, its cookies are taken in, and the answer is final or a redirect
    that goes on with GET. -/
def Sends (d : Dispatcher) (clock : Clock) (j : Journey) (leg : Leg) : Prop :=
  ∃ r, j.judged? d clock leg = some r ∧ leg.SendsAfter r

/-- The stream of a hop that sends has its head and then its body. -/
theorem run_of_sends {s : Stream} (ho : d.opens j.network leg.hop = some s) (hsends : Sends d clock j leg)
    (hbody : leg.body.Faultless) (hs : s.writeFault = none) :
    (leg.run clock j.jar s).stream.written = leg.head ++ leg.body.wire leg.hop.isChunked ∧
      (leg.run clock j.jar s).body = leg.body.spent := by
  have hfresh := Dispatcher.written_of_connect (Dispatcher.connect_of_opens ho)
  obtain ⟨hwritten, hs'⟩ := leg.ask_written hs
  obtain ⟨r, hjudged, hr⟩ := hsends
  rcases leg.run_cases clock j.jar s with
    ⟨e, s', ha, _⟩ | ⟨r', s', e, jar', log, ha, ht, _⟩ | ⟨r', s', jar', log, ha, ht, hrun⟩
  · rw [judged?_of_ask_error ho ha] at hjudged
    exact absurd hjudged (by simp)
  · rw [judged?_of_cookie_error ho ha ht] at hjudged
    exact absurd hjudged (by simp)
  · -- the answer was judged, so it is the one after which the hop sends
    rw [judged?_of_taken ho ha ht, Option.some.injEq] at hjudged
    rw [ha] at hwritten hs'
    obtain ⟨hsettled, hspent⟩ := Leg.settle_of_sends (hjudged ▸ Leg.sends_iff.mpr hr) hbody hs'
    rw [hrun]
    dsimp only
    rw [hsettled, hwritten, hfresh]
    exact ⟨rfl, hspent⟩

/-- The stream of a hop that does not send has its head alone. -/
theorem run_of_not_sends {s : Stream} (ho : d.opens j.network leg.hop = some s)
    (hsends : ¬ Sends d clock j leg) (hs : s.writeFault = none) :
    (leg.run clock j.jar s).stream.written = leg.head ∧ (leg.run clock j.jar s).body = leg.body := by
  have hfresh := Dispatcher.written_of_connect (Dispatcher.connect_of_opens ho)
  obtain ⟨hwritten, hs'⟩ := leg.ask_written hs
  rw [hfresh, List.nil_append] at hwritten
  rcases leg.run_cases clock j.jar s with
    ⟨e, s', ha, hrun⟩ | ⟨r', s', e, jar', log, ha, ht, hrun⟩ | ⟨r', s', jar', log, ha, ht, hrun⟩
  · rw [ha] at hwritten
    rw [hrun]
    exact ⟨hwritten, rfl⟩
  · rw [ha] at hwritten
    rw [hrun]
    exact ⟨hwritten, rfl⟩
  · -- an answer was judged, and it is none after which the hop sends
    have hkeeps : leg.sends r' = false := by
      rw [← Bool.not_eq_true]
      exact fun hr => hsends ⟨r', judged?_of_taken ho ha ht, Leg.sends_iff.mp hr⟩
    obtain ⟨hsettled, hbody⟩ := @Leg.settle_of_keeps leg r' s' hkeeps
    rw [ha] at hwritten
    rw [hrun]
    exact ⟨hsettled.trans hwritten, hbody⟩

/-! ## The history

  A history has two parts, before the first hop that sends and after it, and `Carries` is the invariant for both:
  the whole body as the caller framed it, and then nothing. -/

/-- Hop `k` comes before or with the first hop that sends. -/
def Unsent (d : Dispatcher) (clocks : Clocks) (j : Journey) (leg : Leg) (k : Nat) : Prop :=
  ∀ i < k, ∀ j' leg', Reaches d clocks j leg i j' leg' → ¬ Sends d (clocks i) j' leg'

/-- What a leg carries: the whole body as the caller framed it as long as nothing was sent, and then no body and
    no framing. -/
structure Carries (headers : List Header) (body : Body) (unsent : Prop) (leg : Leg) : Prop where
  before : unsent → leg.body = body ∧ leg.hop.callerHeaders = headers ∧
    leg.hop.isChunked = Hop.asksChunked headers
  after : ¬ unsent → leg.body = .empty ∧ Hop.asksChunked leg.hop.callerHeaders = false ∧
    leg.hop.isChunked = false

/-- Nothing was sent before hop `k + 1` when nothing was sent before hop `k` and hop `k` does not send. -/
theorem unsent_succ (h : Reaches d clocks j leg k j' leg') :
    Unsent d clocks j leg (k + 1) ↔ Unsent d clocks j leg k ∧ ¬ Sends d (clocks k) j' leg' := by
  constructor
  · intro hu
    exact ⟨fun i hi => hu i (Nat.lt_succ_of_lt hi), hu k (Nat.lt_succ_self k) j' leg' h⟩
  · rintro ⟨hu, hlast⟩ i hi j₁ leg₁ hreach
    rcases h.lt_or_same hreach hi with hlt | ⟨rfl, rfl, rfl⟩
    · exact hu i hlt j₁ leg₁ hreach
    · exact hlast

/-- **The two parts of a history.**  One hop keeps what a leg carries, unless it sends; then the next leg
    carries nothing. -/
theorem carries_of_reaches (hstart : leg.body = body ∧ leg.hop.callerHeaders = headers ∧
      leg.hop.isChunked = Hop.asksChunked headers) (h : Reaches d clocks j leg k j' leg') :
    Carries headers body (Unsent d clocks j leg k) leg' := by
  induction h with
  | start => exact ⟨fun _ => hstart, fun hu => absurd (fun i hi => absurd hi (Nat.not_lt_zero i)) hu⟩
  | onward before step ih =>
    rename_i k j₁ j₂ leg₁ leg₂
    obtain ⟨s, r, next, hstep⟩ := onward_inv step
    have hbuilt := Hop.built_of_build hstep.built
    have hcaller := hbuilt.callerHeaders
    have hchunked := hbuilt.isChunked
    have hbody := hstep.body
    rw [unsent_succ before]
    rcases Leg.next?_cases hstep.follows with ⟨hsends, hempty, hdropped⟩ | ⟨hkeeps, hsame, hkept⟩
    · -- the hop sent: the framing fields of the caller are gone
      rw [hdropped, if_pos rfl] at hcaller hchunked
      rw [Hop.asksChunked_unframed] at hchunked
      have hsent : Sends d (clocks k) j₁ leg₁ := ⟨r, hstep.judged, Leg.sends_iff.mp hsends⟩
      refine ⟨fun hu => absurd hsent hu.2, fun _ => ⟨hbody.trans hempty, ?_, hchunked⟩⟩
      rw [hcaller]
      exact Hop.asksChunked_unframed _
    · -- the hop kept the body: nothing has changed
      have hnot : ¬ Sends d (clocks k) j₁ leg₁ := by
        rintro ⟨r', hjudged', hsends⟩
        rw [hstep.judged, Option.some.injEq] at hjudged'
        rw [← hjudged', ← Leg.sends_iff, hkeeps] at hsends
        exact Bool.false_ne_true hsends
      rw [hkept, if_neg Bool.false_ne_true] at hcaller hchunked
      rw [hsame] at hbody
      constructor
      · rintro ⟨hu, _⟩
        obtain ⟨hbody₁, hcaller₁, hchunked₁⟩ := ih.before hu
        exact ⟨hbody.trans hbody₁, hcaller.trans hcaller₁, hchunked.trans (by rw [hcaller₁])⟩
      · intro hu
        obtain ⟨hbody₁, hcaller₁, _⟩ := ih.after fun hu' => hu ⟨hu', hnot⟩
        rw [← hcaller] at hcaller₁ hchunked
        exact ⟨hbody.trans hbody₁, hcaller₁, hchunked.trans hcaller₁⟩

theorem writable_of_reaches (hw : j.network.Writable) (h : Reaches d clocks j leg k j' leg') :
    j'.network.Writable := by
  induction h with
  | start => exact hw
  | onward before step ih =>
    obtain ⟨s, r, next, hstep⟩ := onward_inv step
    rw [hstep.network]
    exact (d.takes_connect ih _).1

/-! ## The whole journey

  From the invariant follows what stands on every stream, that at most one hop sends, and where the source of the
  body stands in the end. -/

/-- What is written by a journey that starts with this leg. -/
structure SendsOnce (d : Dispatcher) (clocks : Clocks) (j : Journey) (leg : Leg) : Prop where
  /-- the first hop that sends writes its head, and then the whole body from where its source stood at the
      start, in the framing of the first leg -/
  whole : ∀ k j' leg', Reaches d clocks j leg k j' leg' → Unsent d clocks j leg k → Sends d (clocks k) j' leg' →
    ∃ s', (j'.hop d (clocks k) leg').streams = j'.streams ++ [s'] ∧
      s'.written = leg'.head ++ leg.body.wire leg.hop.isChunked
  /-- any other hop writes its head alone, and a connection that fails carries nothing -/
  bare : ∀ k j' leg', Reaches d clocks j leg k j' leg' →
    ¬ (Unsent d clocks j leg k ∧ Sends d (clocks k) j' leg') →
    (j'.hop d (clocks k) leg').streams = j'.streams ∨
      ∃ s', (j'.hop d (clocks k) leg').streams = j'.streams ++ [s'] ∧
        s'.written = if (d.opens j'.network leg'.hop).isSome then leg'.head else []
  /-- up to the first hop that sends the source is not touched, and after it there is no body -/
  body : ∀ k j' leg', Reaches d clocks j leg k j' leg' →
    (Unsent d clocks j leg k → leg'.body = leg.body) ∧ (¬ Unsent d clocks j leg k → leg'.body = .empty)
  /-- a hop that does not send consumes nothing, and one that does consumes all -/
  source : ∀ k j' leg' s, Reaches d clocks j leg k j' leg' → d.opens j'.network leg'.hop = some s →
    (¬ Sends d (clocks k) j' leg' → (leg'.run (clocks k) j'.jar s).body = leg'.body) ∧
    (Sends d (clocks k) j' leg' → (leg'.run (clocks k) j'.jar s).body = leg'.body.spent)
  /-- the streams of the journey at its end are those that its hops left, in order -/
  streams : ∀ i a k j' leg', Ends d clocks j leg i a → Reaches d clocks j leg k j' leg' →
    j'.streams.length = j.streams.length + k ∧ (j'.hop d (clocks k) leg').streams <+: a.streams
  /-- a journey that returns a response with nothing sent before its last hop has sent the body on that -/
  returned : ∀ i a r j' leg', Ends d clocks j leg i a → a.result = .ok r → Reaches d clocks j leg i j' leg' →
    Sends d (clocks i) j' leg'

theorem empty_faultless : Body.Faultless .empty := fun _ hp => absurd hp List.not_mem_nil

/-- The body of every leg gives bytes, be it the caller's or the empty one. -/
theorem faultless_of_carries {unsent : Prop} (h : Carries headers body unsent leg) (hbody : body.Faultless) :
    leg.body.Faultless := by
  by_cases hu : unsent
  · rw [(h.before hu).1]
    exact hbody
  · rw [(h.after hu).1]
    exact empty_faultless

theorem sends_of_returned {r : Response} (h : Ends d clocks j leg i a) (hr : a.result = .ok r)
    (hreach : Reaches d clocks j leg i j' leg') : Sends d (clocks i) j' leg' := by
  obtain ⟨j₁, leg₁, hreach₁, hhop⟩ := h
  obtain ⟨rfl, rfl⟩ := hreach.unique hreach₁
  obtain ⟨r', s, hjudged, hverdict, _⟩ := final_of_arrived hhop hr
  refine ⟨r', hjudged, Leg.sends_iff.mp ?_⟩
  rw [Leg.sends, hverdict]

/-- **The body goes out at most once.**  For a journey that starts with a hop made by `Hop.build`, on streams that
    take writes and with a body whose source gives bytes. -/
theorem run_sends_once {method : Text} {headers : List Header} {query : Query} {timeouts : Timeouts}
    {jar₀ jar : Option Jar} {url : Url} {body : Body} {hop : Hop} {network : Network}
    (hbuild : Hop.build method headers query timeouts jar₀ url body = .ok hop)
    (hnetwork : network.Writable) (hbody : body.Faultless) (d : Dispatcher) (clocks : Clocks) (budget : Int) :
    SendsOnce d clocks { network, jar } { hop, method, body, budget } := by
  have hbuilt := Hop.built_of_build hbuild
  have hcaller := hbuilt.callerHeaders
  have hchunked := hbuilt.isChunked
  have hcarries : ∀ k j' leg', Reaches d clocks { network, jar } { hop, method, body, budget } k j' leg' →
      Carries headers body (Unsent d clocks { network, jar } { hop, method, body, budget } k) leg' :=
    fun k j' leg' h => carries_of_reaches ⟨rfl, hcaller, hchunked⟩ h
  have htakes : ∀ k j' leg', Reaches d clocks { network, jar } { hop, method, body, budget } k j' leg' →
      ∀ s, d.opens j'.network leg'.hop = some s → s.writeFault = none :=
    fun k j' leg' h s ho => (d.takes_connect (writable_of_reaches hnetwork h) leg'.hop).2 s
      (Dispatcher.connect_of_opens ho)
  refine ⟨?whole, ?bare, ?body, ?source, ?streams, fun i a r j' leg' => sends_of_returned⟩
  case whole =>
    intro k j' leg' h hu hsends
    obtain ⟨r, hjudged, hr⟩ := hsends
    cases ho : d.opens j'.network leg'.hop with
    | none =>
      rw [judged?_of_not_opens ho] at hjudged
      exact absurd hjudged (by simp)
    | some s =>
      -- nothing was sent before, so the leg carries the caller's body in the caller's framing
      obtain ⟨hbody', _, hchunked'⟩ := (hcarries k j' leg' h).before hu
      have hrun := run_of_sends ho ⟨r, hjudged, hr⟩ (hbody'.symm ▸ hbody) (htakes k j' leg' h s ho)
      obtain ⟨s', hstreams, hwritten⟩ := streams_hop_of_opens (d := d) ho
      refine ⟨s', hstreams, ?_⟩
      rw [hwritten, hrun.1, hbody', hchunked', hchunked]
  case bare =>
    intro k j' leg' h hnot
    cases ho : d.opens j'.network leg'.hop with
    | none =>
      exact streams_hop_of_not_opens (clocks k) ho
    | some s =>
      obtain ⟨s', hstreams, hwritten⟩ := streams_hop_of_opens (d := d) ho
      refine Or.inr ⟨s', hstreams, ?_⟩
      have hs := htakes k j' leg' h s ho
      show s'.written = leg'.head
      by_cases hsends : Sends d (clocks k) j' leg'
      · -- this hop sends too, but only the empty body
        obtain ⟨hempty, _, hchunked'⟩ := (hcarries k j' leg' h).after fun hu => hnot ⟨hu, hsends⟩
        have hrun := run_of_sends ho hsends (hempty.symm ▸ empty_faultless) hs
        rw [hwritten, hrun.1, hempty, hchunked']
        exact List.append_nil _
      · rw [hwritten, (run_of_not_sends ho hsends hs).1]
  case body =>
    intro k j' leg' h
    exact ⟨fun hu => ((hcarries k j' leg' h).before hu).1, fun hu => ((hcarries k j' leg' h).after hu).1⟩
  case source =>
    intro k j' leg' s h ho
    have hs := htakes k j' leg' h s ho
    have hfaultless := faultless_of_carries (hcarries k j' leg' h) hbody
    exact ⟨fun hsends => (run_of_not_sends ho hsends hs).2, fun hsends => (run_of_sends ho hsends hfaultless hs).2⟩
  case streams =>
    intro i a k j' leg' hends h
    exact ⟨length_streams_of_reaches h, prefix_of_ends hends h⟩

/-- A server that asks for the request again at another place, and one that takes it. -/
def replayNetwork : Network :=
  { answers := ["HTTP/1.1 307 Again\r\nLocation: /b\r\n\r\n", "HTTP/1.1 200 OK\r\n\r\n"].map fun s =>
      { script := [.bytes (s.toList.map fun c => c.toNat.toUInt8)] } }

/-- Three pieces that can be gone through once. -/
def onceBody : Body := { source := .once [.bytes [97, 98], .bytes [], .bytes [99]] }

/-- A field that asks for chunks. -/
def chunkedField : Header := { name := "Transfer-Encoding".toList, value := "chunked".toList }

/-- The first leg of a request with that body in chunks. -/
def onceLeg (hop : Hop) : Leg := { hop, method := "POST".toList, body := onceBody, budget := 5 }

/-- What the server sees of it: one head and no more when it asks for the request again, and then the head for the other
    place with the whole body behind it. -/
def onceWritten : List Bytes :=
  ["POST /a HTTP/1.1\r\nHost: h\r\nTransfer-Encoding: chunked\r\n\r\n",
    "POST /b HTTP/1.1\r\nHost: h\r\nTransfer-Encoding: chunked\r\n\r\n2\r\nab\r\n1\r\nc\r\n0\r\n\r\n"].map
      fun s => s.toList.map fun c => c.toNat.toUInt8

/-- A body that can be gone through once, in chunks, past a server that asks for it again. -/
theorem run_sends_once_of_once :
    ∃ hop a,
      Hop.build "POST".toList [chunkedField] .absent {} (some {})
        { scheme := "http".toList, rawHost := "h".toList, path := "/a".toList } onceBody = .ok hop ∧
      hop.isChunked = true ∧
      onceBody.wire true = "2\r\nab\r\n1\r\nc\r\n0\r\n\r\n".toList.map (fun c => c.toNat.toUInt8) ∧
      SendsOnce scriptedHttp (.still 0) { network := replayNetwork, jar := some {} } (onceLeg hop) ∧
      Ends scriptedHttp (.still 0) { network := replayNetwork, jar := some {} } (onceLeg hop) 1 a ∧
      a.streams.map Stream.written = onceWritten := by
  have hrun : ((Hop.build "POST".toList [chunkedField] .absent {} (some {})
      { scheme := "http".toList, rawHost := "h".toList, path := "/a".toList } onceBody).toOption.any fun hop =>
        (Journey.hop scriptedHttp (.still 0) { network := replayNetwork, jar := some {} }
            (onceLeg hop)).onward?.any fun x =>
          match x.1.hop scriptedHttp (.still 0) x.2 with
          | .onward _ _ => false
          | .arrived a => decide (a.streams.map Stream.written = onceWritten)) = true := by
    decide +kernel
  rw [Option.any_eq_true] at hrun
  obtain ⟨hop, hbuild, hrun⟩ := hrun
  rw [toOption_eq_some_iff] at hbuild
  rw [Option.any_eq_true] at hrun
  obtain ⟨⟨j', leg'⟩, hfirst, hrun⟩ := hrun
  rw [Progress.onward?_eq_some_iff] at hfirst
  cases hlast : j'.hop scriptedHttp (.still 0) leg' with
  | onward j'' leg'' =>
    rw [hlast] at hrun
    exact absurd hrun Bool.false_ne_true
  | arrived a =>
    rw [hlast] at hrun
    have hends : Ends scriptedHttp (.still 0) { network := replayNetwork, jar := some {} } (onceLeg hop) 1 a :=
      ⟨j', leg', .onward .start hfirst, hlast⟩
    have hpieces : onceBody.Faultless := by
      intro p hp
      rcases List.mem_cons.mp hp with rfl | hp
      · exact ⟨_, rfl⟩
      · rcases List.mem_cons.mp hp with rfl | hp
        · exact ⟨_, rfl⟩
        · exact ⟨_, List.mem_singleton.mp hp⟩
    refine ⟨hop, a, hbuild, (Hop.built_of_build hbuild).isChunked.trans (by decide), by decide +kernel, ?_, hends,
      of_decide_eq_true hrun⟩
    exact run_sends_once hbuild ⟨by decide, fun f hf => absurd hf (by simp [replayNetwork])⟩ hpieces _ _ _

end Journey

end Courier
