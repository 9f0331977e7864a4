/-
  No connection of a journey is left open.

  A hop owns the stream that it opens, and gives it up in one of three ways: the hop fails and the stream is closed
  with it (`follow`), the hop is redirected and closes the stream itself before the next hop is made (`Leg.settle`),
  or the answer is final and the response has it.  `Leg.closed_of_redirect` and `Leg.closed_of_final` are the last
  two; that a stream is closed by nothing else is `Uses.closed`.

  What matters between hops is one invariant, `closed_of_reaches`: when a hop begins, every stream before it is
  closed.  It needs of a step only that the hop which goes on has closed its own stream (`closed_of_onward`).  A
  failure anywhere in a hop, or in making the next one, then has at most the hop's own stream to answer for
  (`released_of_error`), and a response is handed out with the only open one (`open_of_ok`).

  Connecting may fail with a stream in hand: one that never came about, or one that was closed again after a failed
  handshake.  `Stream.Released` covers both.  It is weaker than being closed, and only a journey that fails needs
  it, for its last stream.

  A statement about the streams that a journey keeps would be worth little if a hop could lose one.  So `Closes`
  says first that the stream which connecting gave hop `k` is stream `k` of the journey at its end, with all that
  was asked of it since (`kept_of_ends`); `Stream.Later` is the relation between the two.  Then it says that after
  a failure none of them is open, and that after a response one is, the last, which is that of the response.
-/
import Courier.Proofs.Journey.Budget
import Courier.Proofs.Stream.Use

namespace Courier

/-- Nothing of a stream is left open: if its connection came about, it was closed. -/
def Stream.Released (s : Stream) : Prop := s.connected = true → s.closed = true

theorem Stream.released_of_closed {s : Stream} (h : s.closed = true) : s.Released := fun _ => h

/-! ## Connecting

  A connection can fail before it comes about or in the handshake on it, and in the second case it is closed on the
  way out. -/

namespace Dispatcher

variable {d : Dispatcher} {net : Network} {hop : Hop} {s : Stream}

/-- A stream that a hop is given is open. -/
theorem open_of_opens (h : d.opens net hop = some s) : s.connected = true ∧ s.closed = false := by
  rw [opens] at h
  split at h
  · exact absurd h (by simp)
  · rename_i hresult
    rw [connect] at hresult h
    split at h
    · exact absurd h (by simp)
    · rename_i t ht
      rw [ht] at hresult
      dsimp only at hresult h
      obtain ⟨s₀, hfresh, hopen | ⟨always, once, f, rest, _, hopen | hopen⟩⟩ :=
        t.openStream_cases d.verify net hop.hostname hop.url.port hop.timeouts
      · rw [hopen] at h
        rcases Transport.answered_cases net s₀ with hnone | ⟨a, rest, _, hanswer⟩
        · rw [hnone] at h
          exact absurd h (by simp)
        · rw [hanswer] at h
          rw [← Option.some.inj h]
          exact ⟨hfresh.connected, hfresh.closed⟩
      · -- a failed connection is no success, and no more is a failed handshake
        rw [hopen] at hresult
        exact absurd hresult (by simp)
      · rw [hopen] at hresult
        exact absurd hresult (by simp)

/-- A failed attempt to connect leaves nothing open. -/
theorem released_of_not_opens (h : d.opens net hop = none) (hs : (d.connect net hop).stream = some s) :
    s.Released := by
  rw [connect] at hs
  split at hs
  · exact absurd hs (by simp)
  · rename_i t ht
    dsimp only at hs
    obtain ⟨s₀, hfresh, hopen | ⟨always, once, f, rest, _, hopen | hopen⟩⟩ :=
      t.openStream_cases d.verify net hop.hostname hop.url.port hop.timeouts
    · -- an answer is a success, and then the stream is opened after all
      rcases Transport.answered_cases net s₀ with hnone | ⟨a, rest, _, hanswer⟩
      · rw [hopen, hnone] at hs
        exact absurd hs (by simp)
      · rw [opens, connect, ht] at h
        dsimp only at h
        rw [hopen, hanswer] at h
        exact absurd h (by simp)
    · -- the connection never came about
      rw [hopen] at hs
      rw [← Option.some.inj hs]
      exact fun hconnected => Bool.noConfusion hconnected
    · rw [hopen] at hs
      rw [← Option.some.inj hs]
      exact Stream.released_of_closed s₀.closed_close

end Dispatcher

/-! ## A leg on its stream

  A leg closes its stream when it goes on and hands it over with a final answer.  When it fails it does neither, and
  the journey closes the stream. -/

namespace Leg

variable {leg : Leg} {clock : Clock} {clocks : Clocks} {jar : Option Jar} {s : Stream} {r r' : Response} {next : Redirect}

/-- Asking writes on the stream and reads from it, and does not close it. -/
theorem uses_ask (leg : Leg) (s : Stream) : s.Uses (leg.ask s).2 := by
  rw [ask]
  split
  · exact .refl s
  · rename_i head _
    have hwrite := s.uses_write head
    split
    · rename_i hw
      rw [hw] at hwrite
      exact hwrite
    · rename_i s' hw
      rw [hw] at hwrite
      exact hwrite.trans (Response.reads_beginRead s' leg.hop.url leg.method).uses

/-- Settling uses the stream, and closes it exactly when the journey goes on. -/
theorem settle_uses (leg : Leg) (r : Response) (s : Stream) :
    (s.Uses (leg.settle r s).2.1 ∧ ∀ next, (leg.settle r s).1 ≠ .ok (.redirect next)) ∨
      ∃ s' next, s.Uses s' ∧ (leg.settle r s).2.1 = s'.close ∧ (leg.settle r s).1 = .ok (.redirect next) := by
  have hsend := leg.body.uses_send leg.hop.isChunked s
  rw [settle]
  split
  · exact Or.inl ⟨.refl s, by simp⟩
  · exact Or.inl ⟨.refl s, by simp⟩
  · -- the body is sent before the journey goes on, and a failure there leaves the stream open
    split
    · rename_i hs
      rw [hs] at hsend
      exact Or.inl ⟨hsend, by simp⟩
    · rename_i hs
      rw [hs] at hsend
      exact Or.inr ⟨_, _, hsend, rfl, rfl⟩
  · exact Or.inr ⟨s, _, .refl s, rfl, rfl⟩
  · split
    · rename_i hs
      rw [hs] at hsend
      exact Or.inl ⟨hsend, by simp⟩
    · rename_i hs
      rw [hs] at hsend
      exact Or.inl ⟨hsend, by simp⟩

theorem later_settle (leg : Leg) (r : Response) (s : Stream) : s.Later (leg.settle r s).2.1 := by
  rcases leg.settle_uses r s with ⟨huses, _⟩ | ⟨s', next, huses, hclose, _⟩
  · exact huses.later
  · rw [hclose]
    exact huses.later.trans s'.later_close

/-- A leg leaves its stream a later one, however it ends. -/
theorem later_run (leg : Leg) (clock : Clock) (jar : Option Jar) (s : Stream) :
    s.Later (leg.run clock jar s).stream := by
  have hask := (leg.uses_ask s).later
  rcases leg.run_cases clock jar s with
    ⟨e, s', ha, hrun⟩ | ⟨r, s', e, jar', log, ha, _, hrun⟩ | ⟨r, s', jar', log, ha, _, hrun⟩
  · rw [ha] at hask
    rw [hrun]
    exact hask
  · rw [ha] at hask
    rw [hrun]
    exact hask
  · rw [ha] at hask
    rw [hrun]
    exact hask.trans (leg.later_settle r s')

/-- **A leg that is redirected has closed its stream.** -/
theorem closed_of_redirect (h : (leg.run clock jar s).outcome = .ok (.redirect next)) :
    (leg.run clock jar s).stream.closed = true := by
  rcases leg.run_cases clock jar s with
    ⟨e, s', _, hrun⟩ | ⟨r, s', e, jar', log, _, _, hrun⟩ | ⟨r, s', jar', log, _, _, hrun⟩
  · rw [hrun] at h
    exact absurd h (by simp)
  · rw [hrun] at h
    exact absurd h (by simp)
  · rw [hrun] at h ⊢
    rcases leg.settle_uses r s' with ⟨_, hne⟩ | ⟨s'', next', _, hclose, _⟩
    · exact absurd h (hne next)
    · show (leg.settle r s').2.1.closed = true
      rw [hclose]
      exact s''.closed_close

/-- **A final answer has the stream of its leg**, which nothing has closed. -/
theorem closed_of_final (h : (leg.run clock jar s).outcome = .ok (.final r')) :
    r'.stream = some (leg.run clock jar s).stream ∧ (leg.run clock jar s).stream.closed = s.closed := by
  have hask := (leg.uses_ask s).closed
  rcases leg.run_cases clock jar s with
    ⟨e, s', _, hrun⟩ | ⟨r, s', e, jar', log, _, _, hrun⟩ | ⟨r, s', jar', log, ha, _, hrun⟩
  · rw [hrun] at h
    exact absurd h (by simp)
  · rw [hrun] at h
    exact absurd h (by simp)
  · rw [hrun] at h ⊢
    rw [ha] at hask
    obtain ⟨_, hattach⟩ := settle_final h
    -- settling that gave a final answer did not close the stream
    rcases leg.settle_uses r s' with ⟨huses, _⟩ | ⟨s'', next', _, _, hredirect⟩
    · refine ⟨?_, huses.closed.trans hask⟩
      rw [hattach]
      rfl
    · rw [hredirect] at h
      exact absurd h (by simp)

end Leg

namespace Journey

variable {d : Dispatcher} {clock : Clock} {clocks : Clocks} {j j' : Journey} {leg leg' : Leg} {r : Response} {a : Arrival}
  {i k : Nat} {s : Stream}

/-! ## One hop

  The cases of a hop, each with the stream that it has opened. -/

/-- A hop records the stream that connecting gave it, whatever comes of the hop. -/
theorem streams_hop_of_connect (clock : Clock) (h : (d.connect j.network leg.hop).stream = some s) :
    ∃ s', (j.hop d clock leg).streams = j.streams ++ [s'] ∧ s.Later s' := by
  cases ho : d.opens j.network leg.hop with
  | none =>
    refine ⟨s, ?_, .refl s⟩
    rw [streams_of_not_opens clock ho, h]
    rfl
  | some s₀ =>
    -- the stream that the leg ran on is the one that connecting gave
    have hsame : s₀ = s := Option.some.inj ((Dispatcher.connect_of_opens ho).symm.trans h)
    subst hsame
    have hlater := leg.later_run clock j.jar s₀
    obtain ⟨s', hstreams, rfl | rfl⟩ := hop_adds_stream clock ho
    · exact ⟨_, hstreams, hlater⟩
    · exact ⟨_, hstreams, hlater.trans (Stream.later_close _)⟩

/-- **A hop that goes on has closed its stream.** -/
theorem closed_of_onward (h : j.hop d clock leg = .onward j' leg') :
    ∃ s', j'.streams = j.streams ++ [s'] ∧ s'.closed = true := by
  obtain ⟨s, r, next, hstep⟩ := onward_inv h
  refine ⟨_, hstep.streams, ?_⟩
  rw [hop_of_opens hstep.opens] at h
  rcases follow_cases (j.opened (d.connect j.network leg.hop)) leg (leg.run clock j.jar s) with
    ⟨e, _, hf⟩ | ⟨x, _, hf⟩ | ⟨next, e, _, _, hf⟩ | ⟨next, hop, hout, _, hf⟩
  · rw [hf] at h
    exact absurd h (by simp)
  · rw [hf] at h
    exact absurd h (by simp)
  · rw [hf] at h
    exact absurd h (by simp)
  · exact Leg.closed_of_redirect hout

/-- A hop that fails adds nothing that is still open. -/
theorem released_of_error {e : Failure} (h : j.hop d clock leg = .arrived a) (he : a.result = .error e) :
    ∃ own, a.streams = j.streams ++ own ∧ ∀ s ∈ own, s.Released := by
  have hstreams : a.streams = a.journey.streams := by
    rw [Arrival.streams, he]
    exact List.append_nil _
  rw [hstreams]
  cases arrives_of_hop h with
  | unopened e' ho _ _ hown =>
    refine ⟨_, hown, ?_⟩
    intro s hs
    exact Dispatcher.released_of_not_opens ho (Option.mem_toList.mp hs)
  | failed s e' _ _ _ hown =>
    exact ⟨_, hown, List.forall_mem_singleton.mpr (Stream.released_of_closed (Stream.closed_close _))⟩
  | returned s r _ _ hresult _ => exact absurd (he.symm.trans hresult) (by simp)
  | stranded s next e' _ hout _ _ hown =>
    -- the next hop could not be made, and this one has closed its stream
    exact ⟨_, hown, List.forall_mem_singleton.mpr (Stream.released_of_closed (Leg.closed_of_redirect hout))⟩

theorem open_of_ok (h : j.hop d clock leg = .arrived a) (hr : a.result = .ok r) :
    a.journey.streams = j.streams ∧ ∃ s', r.stream = some s' ∧ s'.connected = true ∧ s'.closed = false := by
  cases arrives_of_hop h with
  | unopened e _ _ hresult _ => exact absurd (hr.symm.trans hresult) (by simp)
  | failed s e _ _ hresult _ => exact absurd (hr.symm.trans hresult) (by simp)
  | returned s x ho hout hresult hsame =>
    obtain ⟨hconnected, hopen⟩ := Dispatcher.open_of_opens ho
    obtain ⟨hstream, hclosed⟩ := Leg.closed_of_final hout
    rw [Except.ok.inj (hr.symm.trans hresult)]
    exact ⟨hsame, _, hstream, (leg.later_run clock j.jar s).connected.trans hconnected, hclosed.trans hopen⟩
  | stranded s next e _ _ _ hresult _ => exact absurd (hr.symm.trans hresult) (by simp)

/-! ## All hops

  The invariant is that all streams are closed when a hop begins.  The last hop may leave one open, the one of the
  response. -/

/-- **When a hop begins, every stream before it is closed.** -/
theorem closed_of_reaches (h : Reaches d clocks j leg k j' leg') (hj : ∀ s ∈ j.streams, s.closed = true) :
    ∀ s ∈ j'.streams, s.closed = true := by
  induction h with
  | start => exact hj
  | onward before step ih =>
    obtain ⟨s', hstreams, hclosed⟩ := closed_of_onward step
    rw [hstreams, List.forall_mem_append]
    exact ⟨ih, List.forall_mem_singleton.mpr hclosed⟩

theorem kept_of_ends (h : Ends d clocks j leg i a) (hk : Reaches d clocks j leg k j' leg')
    (hs : (d.connect j'.network leg'.hop).stream = some s) :
    ∃ s', a.streams[j.streams.length + k]? = some s' ∧ s.Later s' := by
  obtain ⟨s', hstreams, hlater⟩ := streams_hop_of_connect (clocks k) hs
  refine ⟨s', ?_, hlater⟩
  obtain ⟨more, hmore⟩ := prefix_of_ends h hk
  rw [hstreams, List.append_assoc] at hmore
  rw [← hmore, ← length_streams_of_reaches hk, List.getElem?_append_right (Nat.le_refl _), Nat.sub_self]
  rfl

/-- What becomes of the streams of a journey that ends with hop `i`. -/
structure Closes (d : Dispatcher) (clocks : Clocks) (j : Journey) (leg : Leg) (i : Nat) (a : Arrival) : Prop where
  /-- the stream that connecting gave hop `k` is stream `k` of the journey, with all that was asked of it -/
  kept : ∀ k j' leg' s, Reaches d clocks j leg k j' leg' → (d.connect j'.network leg'.hop).stream = some s →
    ∃ s', a.streams[j.streams.length + k]? = some s' ∧ s.Later s'
  /-- a journey that fails has no stream open -/
  raised : ∀ e, a.result = .error e → ∀ s ∈ a.streams, s.Released
  /-- a journey that returns a response has one stream open, the last one, and it is that of the response -/
  returned : ∀ r, a.result = .ok r → ∃ before s, a.streams = before ++ [s] ∧ r.stream = some s ∧
    s.connected = true ∧ s.closed = false ∧ before.length = j.streams.length + i ∧
    ∀ s' ∈ before, s'.closed = true

/-- A journey that begins with no stream open keeps all its streams, and leaves none open but that of its
    response. -/
theorem closes_of_ends (hj : ∀ s ∈ j.streams, s.closed = true) (h : Ends d clocks j leg i a) :
    Closes d clocks j leg i a := by
  have hkept : ∀ k j' leg' s, Reaches d clocks j leg k j' leg' → (d.connect j'.network leg'.hop).stream = some s →
      ∃ s', a.streams[j.streams.length + k]? = some s' ∧ s.Later s' := by
    intro k j' leg' s hk hs
    exact kept_of_ends h hk hs
  obtain ⟨j', leg', hreach, hhop⟩ := h
  have hbefore := closed_of_reaches hreach hj
  refine ⟨hkept, ?_, ?_⟩
  · intro e he
    obtain ⟨own, hstreams, hown⟩ := released_of_error hhop he
    rw [hstreams, List.forall_mem_append]
    exact ⟨fun s hs => Stream.released_of_closed (hbefore s hs), hown⟩
  · intro r hr
    obtain ⟨hstreams, s, hs, hconnected, hopen⟩ := open_of_ok hhop hr
    refine ⟨j'.streams, s, ?_, hs, hconnected, hopen, length_streams_of_reaches hreach, hbefore⟩
    rw [Arrival.streams, hr, hstreams]
    dsimp only
    rw [hs]
    rfl

end Journey

end Courier
