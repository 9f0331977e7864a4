/-
  The history of a journey.

  `Journey.run` gives where a journey ends and forgets the hops before.  `Journey.Reaches` keeps them: it says with
  which state and which leg hop `i` begins, hop zero being the start.  `Journey.Ends` says with which hop the
  journey ends, and what it arrives at.  A journey that never ends has a history without a last hop.

  Most of what is said of journeys is about hops in the middle: which cookies hop `k` sends, what is left of its
  budget, whether the streams before it are closed.  All of it is proved in one way, from three things that this
  module has.

  1. A step of the history is inverted once (`onward_inv`).  `Step` holds all that is known of a hop after which
     the journey goes on: its stream, its answer, the redirect that it followed, and how the next state and leg come
     from these.  An invariant of histories is then an induction over `Reaches` whose step reads a few fields of
     `Step`.

  2. The end is inverted once as well (`arrives_of_hop`).  A last hop opens no stream, or fails, or returns a
     response, or is stranded with a redirect that leads to no hop.  From these four come the reasons for ending
     (`tooManyRedirects_iff`, `final_of_arrived`).

  3. A history is determined by its start (`Reaches.unique`), and reaches every hop before one that it reaches
     (`Reaches.before`).  So two statements about hop `k` speak of the same hop, and no hop comes after the last one
     (`Ends.le`).

  The history and the run meet in `run_of_ends`: a journey that comes to a last hop is what that hop arrives at.
  `run` is a least fixpoint, so this is one unfolding of it for every step.  Hop `i` takes the clock readings of its
  own number, which is why the rest of a journey runs on clocks that are moved on by `i` (`Clocks.after`).

  Streams are counted along the way.  Every hop adds one at most (`streams_hop`), and one that goes on adds exactly
  one, so hop `k` begins with `k` streams behind it (`length_streams_of_reaches`), and what a hop leaves on its
  stream stays there to the end (`prefix_of_ends`).
-/
import Courier.Proofs.Journey.Hops

namespace Courier

/-- The streams of an arrival: those of the hops, and that of the response. -/
def Arrival.streams (a : Arrival) : List Stream :=
  a.journey.streams ++ match a.result with
    | .ok r => r.stream.toList
    | .error _ => []

namespace Journey

/-- The streams that a journey has after a hop. -/
def Progress.streams : Progress → List Stream
  | .arrived a => a.streams
  | .onward j _ => j.streams

/-- The next hop, when there is one. -/
def Progress.onward? : Progress → Option (Journey × Leg)
  | .arrived _ => none
  | .onward j leg => some (j, leg)

/-- The next hop is there when the progress says so. -/
theorem Progress.onward?_eq_some_iff {p : Progress} {j : Journey} {leg : Leg} :
    p.onward? = some (j, leg) ↔ p = .onward j leg := by
  cases p with
  | arrived a => simp [onward?]
  | onward j' leg' => simp [onward?]

/-- Hop `i` of the journey begins with this state and this leg. -/
inductive Reaches (d : Dispatcher) (clocks : Clocks) (j : Journey) (leg : Leg) : Nat → Journey → Leg → Prop
  | start : Reaches d clocks j leg 0 j leg
  | onward {i : Nat} {j' j'' : Journey} {leg' leg'' : Leg} (before : Reaches d clocks j leg i j' leg')
      (step : j'.hop d (clocks i) leg' = .onward j'' leg'') : Reaches d clocks j leg (i + 1) j'' leg''

/-- The journey ends with hop `i`, and with this arrival. -/
def Ends (d : Dispatcher) (clocks : Clocks) (j : Journey) (leg : Leg) (i : Nat) (a : Arrival) : Prop :=
  ∃ j' leg', Reaches d clocks j leg i j' leg' ∧ j'.hop d (clocks i) leg' = .arrived a

variable {d : Dispatcher} {clock : Clock} {clocks : Clocks} {j j' j'' : Journey} {leg leg' leg'' : Leg} {r : Response}
  {a : Arrival} {i k : Nat}

/-! ## One hop

  A hop goes on or is the last.  Both are inverted here: from the fact that it goes on, or from the arrival, to
  everything that must have happened. -/

/-- A leg that comes to an outcome has judged an answer, and the outcome is what settling it gives. -/
theorem judged?_of_run_ok {s : Stream} {outcome : Outcome} (ho : d.opens j.network leg.hop = some s)
    (h : (leg.run clock j.jar s).outcome = .ok outcome) :
    ∃ r s', j.judged? d clock leg = some r ∧ leg.ask s = (.ok r, s') ∧
      (leg.run clock j.jar s).stream = (leg.settle r s').2.1 ∧ (leg.settle r s').1 = .ok outcome := by
  rcases leg.run_cases clock j.jar s with
    ⟨e, s', _, hrun⟩ | ⟨r, s', e, jar', log, _, _, hrun⟩ | ⟨r, s', jar', log, hask, htake, hrun⟩
  · rw [hrun] at h
    exact absurd h (by simp)
  · rw [hrun] at h
    exact absurd h (by simp)
  · -- the head was read and the cookies were taken in
    rw [hrun] at h ⊢
    refine ⟨r, s', judged?_eq_some_iff.mpr ⟨answer?_of_opens ho hask, ?_⟩, hask, rfl, h⟩
    rw [htake]
    rfl

/-- All that is known of a hop after which the journey goes on: the stream that it opened, the answer whose
    cookies it took in, and the redirect that it followed. -/
structure Step (d : Dispatcher) (clock : Clock) (j : Journey) (leg : Leg) (j' : Journey) (leg' : Leg)
    (s : Stream) (r : Response) (next : Redirect) : Prop where
  opens : d.opens j.network leg.hop = some s
  judged : j.judged? d clock leg = some r
  follows : leg.next? r = some next
  built : leg.hop.forRedirect j'.jar next.url next.method next.body next.bodyDropped = .ok leg'.hop
  method : leg'.method = next.method
  body : leg'.body = next.body
  budget : leg'.budget = leg.budget - 1
  network : j'.network = (d.connect j.network leg.hop).network
  jar : j'.jar = (leg.run clock j.jar s).jar
  streams : j'.streams = j.streams ++ [(leg.run clock j.jar s).stream]

/-- **A step of the history.**  A journey goes on only when the cookies of an answer were taken in and the
    answer is a redirect that can be followed. -/
theorem onward_inv (h : j.hop d clock leg = .onward j' leg') : ∃ s r next, Step d clock j leg j' leg' s r next := by
  cases ho : d.opens j.network leg.hop with
  | none =>
    obtain ⟨e, _, hhop⟩ := hop_of_not_opens clock ho
    rw [hhop] at h
    exact absurd h (by simp)
  | some s =>
    rw [hop_of_opens ho] at h
    rcases follow_cases (j.opened (d.connect j.network leg.hop)) leg (leg.run clock j.jar s) with
      ⟨e, _, hf⟩ | ⟨r, _, hf⟩ | ⟨next, e, _, _, hf⟩ | ⟨next, hop, hout, hbuilt, hf⟩
    · rw [hf] at h
      exact absurd h (by simp)
    · rw [hf] at h
      exact absurd h (by simp)
    · rw [hf] at h
      exact absurd h (by simp)
    · -- of the four things that follow from a leg, only a redirect with a hop to go to goes on
      rw [hf, Progress.onward.injEq] at h
      obtain ⟨rfl, rfl⟩ := h
      obtain ⟨r, s', hjudged, _, _, hsettle⟩ := judged?_of_run_ok ho hout
      exact ⟨s, r, next, ho, hjudged, Leg.settle_redirect hsettle, hbuilt, rfl, rfl, rfl, rfl, rfl, rfl⟩

/-- Without a stream there is no answer to judge. -/
theorem judged?_of_not_opens (ho : d.opens j.network leg.hop = none) : j.judged? d clock leg = none := by
  rw [judged?, answer?, ho]
  rfl

theorem judged?_of_ask_error {s s' : Stream} {e : Failure} (ho : d.opens j.network leg.hop = some s)
    (ha : leg.ask s = (.error e, s')) : j.judged? d clock leg = none := by
  rw [judged?, answer?, ho, Option.bind_some, ha]
  rfl

/-- An answer whose cookies fail is not judged. -/
theorem judged?_of_cookie_error {s s' : Stream} {e : Failure} {jar' : Option Jar} {log : List Log.Record}
    (ho : d.opens j.network leg.hop = some s) (ha : leg.ask s = (.ok r, s'))
    (ht : takeCookies clock j.jar leg.hop r = (.error e, jar', log)) : j.judged? d clock leg = none := by
  rw [judged?, answer?_of_opens ho ha, Option.filter_some, ht]
  rfl

theorem judged?_of_taken {s s' : Stream} {jar' : Option Jar} {log : List Log.Record}
    (ho : d.opens j.network leg.hop = some s) (ha : leg.ask s = (.ok r, s'))
    (ht : takeCookies clock j.jar leg.hop r = (.ok (), jar', log)) : j.judged? d clock leg = some r := by
  rw [judged?, answer?_of_opens ho ha, Option.filter_some, ht]
  rfl

/-- How a hop can be the last one, and what it leaves behind. -/
inductive Arrives (d : Dispatcher) (clock : Clock) (j : Journey) (leg : Leg) (a : Arrival) : Prop
  /-- no stream was opened -/
  | unopened (e : Failure) (opens : d.opens j.network leg.hop = none) (ne : e ≠ .tooManyRedirects)
      (result : a.result = .error e)
      (streams : a.journey.streams = j.streams ++ (d.connect j.network leg.hop).stream.toList)
  /-- the leg failed, and its stream was closed -/
  | failed (s : Stream) (e : Failure) (opens : d.opens j.network leg.hop = some s)
      (outcome : (leg.run clock j.jar s).outcome = .error e) (result : a.result = .error e)
      (streams : a.journey.streams = j.streams ++ [(leg.run clock j.jar s).stream.close])
  /-- the answer is final, and has the stream -/
  | returned (s : Stream) (r : Response) (opens : d.opens j.network leg.hop = some s)
      (outcome : (leg.run clock j.jar s).outcome = .ok (.final r)) (result : a.result = .ok r)
      (streams : a.journey.streams = j.streams)
  /-- the answer is a redirect, and the next hop cannot be made -/
  | stranded (s : Stream) (next : Redirect) (e : Failure) (opens : d.opens j.network leg.hop = some s)
      (outcome : (leg.run clock j.jar s).outcome = .ok (.redirect next)) (ne : e ≠ .tooManyRedirects)
      (result : a.result = .error e)
      (streams : a.journey.streams = j.streams ++ [(leg.run clock j.jar s).stream])

/-- **A last hop, inverted.** -/
theorem arrives_of_hop (h : j.hop d clock leg = .arrived a) : Arrives d clock j leg a := by
  cases ho : d.opens j.network leg.hop with
  | none =>
    obtain ⟨e, hne, hhop⟩ := hop_of_not_opens clock ho
    rw [hhop, Progress.arrived.injEq] at h
    subst h
    exact .unopened e ho hne rfl rfl
  | some s =>
    rw [hop_of_opens ho] at h
    rcases follow_cases (j.opened (d.connect j.network leg.hop)) leg (leg.run clock j.jar s) with
      ⟨e, hout, hf⟩ | ⟨r, hout, hf⟩ | ⟨next, e, hout, hnext, hf⟩ | ⟨next, hop, _, _, hf⟩
    · rw [hf, Progress.arrived.injEq] at h
      subst h
      exact .failed s e ho hout rfl rfl
    · rw [hf, Progress.arrived.injEq] at h
      subst h
      exact .returned s r ho hout rfl rfl
    · rw [hf, Progress.arrived.injEq] at h
      subst h
      exact .stranded s next e ho hout (Hop.build_ne hnext) rfl rfl
    · rw [hf] at h
      exact absurd h (by simp)

/-- A leg fails for too many redirects exactly when it judges an answer to be one too many. -/
theorem run_tooManyRedirects_iff {s : Stream} (ho : d.opens j.network leg.hop = some s) :
    (leg.run clock j.jar s).outcome = .error .tooManyRedirects ↔
      ∃ r, j.judged? d clock leg = some r ∧ leg.verdict r = .exhausted := by
  rcases leg.run_cases clock j.jar s with
    ⟨e, s', ha, hrun⟩ | ⟨r, s', e, jar', log, ha, ht, hrun⟩ | ⟨r, s', jar', log, ha, ht, hrun⟩
  · have hne := Leg.ask_ne (congrArg Prod.fst ha)
    rw [hrun, judged?_of_ask_error ho ha]
    simp [hne]
  · have hne := takeCookies_ne (congrArg Prod.fst ht)
    rw [hrun, judged?_of_cookie_error ho ha ht]
    simp [hne]
  · -- the answer is judged, and only its settlement can fail
    rw [hrun, judged?_of_taken ho ha ht]
    simp only [Option.some.injEq, exists_eq_left']
    exact Leg.settle_tooManyRedirects

/-- **Where the budget ends a journey.**  A last hop fails because of too many redirects exactly when it
    judges an answer to be one too many. -/
theorem tooManyRedirects_iff (h : j.hop d clock leg = .arrived a) :
    a.result = .error .tooManyRedirects ↔
      ∃ r, j.judged? d clock leg = some r ∧ leg.verdict r = .exhausted := by
  cases arrives_of_hop h with
  | unopened e ho hne hresult _ =>
    rw [hresult, judged?_of_not_opens ho]
    simp [hne]
  | failed s e ho hout hresult _ =>
    rw [← run_tooManyRedirects_iff ho, hresult, hout, Except.error.injEq, Except.error.injEq]
  -- a response is no failure, and a redirect that leads to no hop fails for another reason
  | returned s r ho hout hresult _ =>
    rw [← run_tooManyRedirects_iff ho, hresult, hout]
    simp
  | stranded s next e ho hout hne hresult _ =>
    rw [← run_tooManyRedirects_iff ho, hresult, hout]
    simp [hne]

/-- A response that a journey returns is the answer to its last hop, judged to be final. -/
theorem final_of_arrived {r' : Response} (h : j.hop d clock leg = .arrived a) (hr : a.result = .ok r') :
    ∃ r s, j.judged? d clock leg = some r ∧ leg.verdict r = .final ∧ r' = r.attach s leg.hop.isHead := by
  cases arrives_of_hop h with
  | unopened e _ _ hresult _ => exact absurd (hr.symm.trans hresult) (by simp)
  | failed s e _ _ hresult _ => exact absurd (hr.symm.trans hresult) (by simp)
  | returned s x ho hout hresult _ =>
    obtain ⟨r, s', hjudged, _, _, hsettle⟩ := judged?_of_run_ok ho hout
    obtain ⟨hv, hattach⟩ := Leg.settle_final hsettle
    exact ⟨r, _, hjudged, hv, Except.ok.inj (hr.symm.trans hresult) ▸ hattach⟩
  | stranded s next e _ _ _ hresult _ => exact absurd (hr.symm.trans hresult) (by simp)

/-- A hop that opens a stream adds it to those of the journey, as its leg leaves it or closed. -/
theorem hop_adds_stream (clock : Clock) {s : Stream} (ho : d.opens j.network leg.hop = some s) :
    ∃ s', (j.hop d clock leg).streams = j.streams ++ [s'] ∧
      (s' = (leg.run clock j.jar s).stream ∨ s' = (leg.run clock j.jar s).stream.close) := by
  rw [hop_of_opens ho]
  rcases follow_cases (j.opened (d.connect j.network leg.hop)) leg (leg.run clock j.jar s) with
    ⟨e, _, hf⟩ | ⟨x, hout, hf⟩ | ⟨next, e, _, _, hf⟩ | ⟨next, hop, _, _, hf⟩
  · refine ⟨_, ?_, Or.inr rfl⟩
    rw [hf]
    exact List.append_nil _
  · -- here the stream is that of the response, and the journey itself has kept none
    obtain ⟨r, s', _, _, hstream, hsettle⟩ := judged?_of_run_ok ho hout
    refine ⟨_, ?_, Or.inl rfl⟩
    rw [hf, (Leg.settle_final hsettle).2, hstream]
    rfl
  · refine ⟨_, ?_, Or.inl rfl⟩
    rw [hf]
    exact List.append_nil _
  · refine ⟨_, ?_, Or.inl rfl⟩
    rw [hf]
    rfl

theorem streams_hop_of_opens {s : Stream} (ho : d.opens j.network leg.hop = some s) :
    ∃ s', (j.hop d clock leg).streams = j.streams ++ [s'] ∧
      s'.written = (leg.run clock j.jar s).stream.written := by
  obtain ⟨s', hstreams, rfl | rfl⟩ := hop_adds_stream clock ho
  · exact ⟨_, hstreams, rfl⟩
  · exact ⟨_, hstreams, Stream.written_close _⟩

theorem streams_of_not_opens (clock : Clock) (ho : d.opens j.network leg.hop = none) :
    (j.hop d clock leg).streams = j.streams ++ (d.connect j.network leg.hop).stream.toList := by
  obtain ⟨e, _, hhop⟩ := hop_of_not_opens clock ho
  rw [hhop]
  exact List.append_nil _

/-- A hop that opens no stream adds at most one on which nothing was written. -/
theorem streams_hop_of_not_opens (clock : Clock) (ho : d.opens j.network leg.hop = none) :
    (j.hop d clock leg).streams = j.streams ∨
      ∃ s', (j.hop d clock leg).streams = j.streams ++ [s'] ∧ s'.written = [] := by
  rw [streams_of_not_opens clock ho]
  cases hs : (d.connect j.network leg.hop).stream with
  | none => exact Or.inl (List.append_nil _)
  | some s => exact Or.inr ⟨s, rfl, Dispatcher.written_of_connect hs⟩

/-- Every hop adds one stream at most. -/
theorem streams_hop (d : Dispatcher) (clock : Clock) (j : Journey) (leg : Leg) :
    (j.hop d clock leg).streams = j.streams ∨ ∃ s', (j.hop d clock leg).streams = j.streams ++ [s'] := by
  cases ho : d.opens j.network leg.hop with
  | none =>
    rcases streams_hop_of_not_opens clock ho with h | ⟨s', h, _⟩
    · exact Or.inl h
    · exact Or.inr ⟨s', h⟩
  | some s =>
    obtain ⟨s', h, _⟩ := streams_hop_of_opens (d := d) (j := j) ho
    exact Or.inr ⟨s', h⟩

/-! ## Histories

  Reaching a hop is an inductive relation with the number of the hop, so statements about histories are by induction
  on it.  It is a function of the start, and so is the end, if there is one. -/

/-- **A history is determined by its start.** -/
theorem Reaches.unique (h : Reaches d clocks j leg i j' leg') (h' : Reaches d clocks j leg i j'' leg'') :
    j' = j'' ∧ leg' = leg'' := by
  induction h generalizing j'' leg'' with
  | start =>
    cases h' with
    | start => exact ⟨rfl, rfl⟩
  | onward before step ih =>
    cases h' with
    | onward before' step' =>
      obtain ⟨rfl, rfl⟩ := ih before'
      rw [step, Progress.onward.injEq] at step'
      exact step'

/-- A hop that is reached no later than another comes before it, or is the same. -/
theorem Reaches.lt_or_same (h : Reaches d clocks j leg k j' leg') (h' : Reaches d clocks j leg i j'' leg'')
    (hle : i < k + 1) : i < k ∨ (i = k ∧ j'' = j' ∧ leg'' = leg') := by
  rcases Nat.lt_or_ge i k with hlt | hge
  · exact Or.inl hlt
  · -- the same number, hence the same hop
    have heq : i = k := by omega
    subst heq
    exact Or.inr ⟨rfl, h'.unique h⟩

/-- Every hop before one that is reached is reached too, and goes on. -/
theorem Reaches.before (h : Reaches d clocks j leg i j' leg') (hk : k < i) :
    ∃ j₁ leg₁ j₂ leg₂, Reaches d clocks j leg k j₁ leg₁ ∧ j₁.hop d (clocks k) leg₁ = .onward j₂ leg₂ := by
  induction h with
  | start => exact absurd hk (Nat.not_lt_zero k)
  | onward before step ih =>
    rename_i i j₁ j₂ leg₁ leg₂
    rcases Nat.lt_or_ge k i with hlt | hge
    · exact ih hlt
    · obtain rfl : k = i := by omega
      exact ⟨_, _, _, _, before, step⟩

/-- No hop comes after the last one. -/
theorem Ends.le (h : Ends d clocks j leg i a) (hk : Reaches d clocks j leg k j' leg') : k ≤ i := by
  obtain ⟨j₁, leg₁, hreach, hhop⟩ := h
  rcases Nat.lt_or_ge i k with hlt | hge
  · obtain ⟨j₂, leg₂, j₃, leg₃, hreach', hhop'⟩ := hk.before hlt
    obtain ⟨rfl, rfl⟩ := hreach.unique hreach'
    rw [hhop] at hhop'
    exact absurd hhop' (by simp)
  · exact hge

/-- The clocks of the hops from hop `i` on. -/
def Clocks.after (clocks : Clocks) (i : Nat) : Clocks := fun k => clocks (i + k)

theorem Clocks.after_zero (clocks : Clocks) : clocks.after 0 = clocks := by
  funext k
  rw [after, Nat.zero_add]

theorem Clocks.later_after (clocks : Clocks) (i : Nat) : (clocks.after i).later = clocks.after (i + 1) := by
  funext k
  rw [later, after, after, Nat.succ_add_eq_add_succ]

/-- From the hop that is reached on, a journey is the rest of the whole one. -/
theorem run_of_reaches (h : Reaches d clocks j leg i j' leg') :
    run d clocks j leg = run d (clocks.after i) j' leg' := by
  -- one unfolding of the fixpoint for every step of the history
  induction h with
  | start => rw [Clocks.after_zero]
  | onward before step ih =>
    rename_i i j₁ j₂ leg₁ leg₂
    have hstep : j₁.hop d (clocks.after i 0) leg₁ = .onward j₂ leg₂ := step
    rw [ih, run, hstep, ← Clocks.later_after]

/-- **What a journey comes to** is what its last hop arrives at. -/
theorem run_of_ends (h : Ends d clocks j leg i a) : run d clocks j leg = a := by
  obtain ⟨j', leg', hreach, hhop⟩ := h
  have hlast : j'.hop d (clocks.after i 0) leg' = .arrived a := hhop
  rw [run_of_reaches hreach, run, hlast]

/-- A journey ends within a number of hops, or goes on to the hop after them. -/
theorem ends_or_reaches (d : Dispatcher) (clocks : Clocks) (j : Journey) (leg : Leg) (m : Nat) :
    (∃ i ≤ m, ∃ a, Ends d clocks j leg i a) ∨ ∃ j' leg', Reaches d clocks j leg (m + 1) j' leg' := by
  induction m with
  | zero =>
    cases h : j.hop d (clocks 0) leg with
    | arrived a => exact Or.inl ⟨0, Nat.le_refl 0, a, j, leg, .start, h⟩
    | onward j' leg' => exact Or.inr ⟨j', leg', Reaches.start.onward h⟩
  | succ m ih =>
    rcases ih with ⟨i, hi, a, hends⟩ | ⟨j', leg', hreach⟩
    · -- it has ended already
      exact Or.inl ⟨i, Nat.le_succ_of_le hi, a, hends⟩
    · cases h : j'.hop d (clocks (m + 1)) leg' with
      | arrived a => exact Or.inl ⟨m + 1, Nat.le_refl _, a, j', leg', hreach, h⟩
      | onward j'' leg'' => exact Or.inr ⟨j'', leg'', hreach.onward h⟩

/-- Hop `i` begins with `i` streams more than the first. -/
theorem length_streams_of_reaches (h : Reaches d clocks j leg i j' leg') :
    j'.streams.length = j.streams.length + i := by
  induction h with
  | start => rfl
  | onward before step ih =>
    -- a hop that goes on has opened exactly one stream
    obtain ⟨s, r, next, hstep⟩ := onward_inv step
    rw [hstep.streams, List.length_append, ih]
    rfl

/-- What hop `k` leaves behind is in front of what every later hop leaves behind. -/
theorem prefix_of_reaches (h : Reaches d clocks j leg i j' leg') (hk : Reaches d clocks j leg k j'' leg'')
    (hle : k ≤ i) : (j''.hop d (clocks k) leg'').streams <+: (j'.hop d (clocks i) leg').streams := by
  induction h with
  | start =>
    cases hk with
    | start => exact List.prefix_rfl
    | onward => exact absurd hle (by omega)
  | onward before step ih =>
    rename_i i j₁ j₂ leg₁ leg₂
    rcases (before.onward step).lt_or_same hk (Nat.lt_succ_of_le hle) with hlt | ⟨rfl, rfl, rfl⟩
    · -- an earlier hop: this one adds a stream behind it or none
      refine (ih (Nat.le_of_lt_succ hlt)).trans ?_
      rw [step]
      rcases streams_hop d (clocks (i + 1)) j₂ leg₂ with hsame | ⟨s', hmore⟩
      · rw [hsame]
        exact List.prefix_rfl
      · rw [hmore]
        exact List.prefix_append _ _
    · exact List.prefix_rfl

/-- A journey that ends with hop `i` has opened one stream more than `i` at most. -/
theorem length_streams_of_ends (h : Ends d clocks j leg i a) : a.streams.length ≤ j.streams.length + (i + 1) := by
  obtain ⟨j', leg', hreach, hhop⟩ := h
  have hlast := congrArg Progress.streams hhop
  have hbefore := length_streams_of_reaches hreach
  change _ = a.streams at hlast
  -- the last hop adds one more at most
  rcases streams_hop d (clocks i) j' leg' with hsame | ⟨s, hmore⟩
  · rw [← hlast, hsame, hbefore]
    omega
  · rw [← hlast, hmore, List.length_append, hbefore]
    exact Nat.le_refl _

/-- What a hop leaves behind stays to the end of the journey. -/
theorem prefix_of_ends (h : Ends d clocks j leg i a) (hk : Reaches d clocks j leg k j' leg') :
    (j'.hop d (clocks k) leg').streams <+: a.streams := by
  have hle := h.le hk
  obtain ⟨j₁, leg₁, hreach, hhop⟩ := h
  have hlast := prefix_of_reaches hreach hk hle
  rw [hhop] at hlast
  exact hlast

/-- A program that has a script for `http` and no network. -/
def scriptedHttp : Dispatcher := { routes := [("http".toList, .scripted)] }

end Journey

end Courier
