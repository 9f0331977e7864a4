/-
  Reading from any server at all.

  A session is what a caller does with a response: it begins to read, and then attaches the stream, goes on with an
  iteration or starts a new one, reads and closes, in any order and as often as it likes.  The stream may hold
  anything: bytes that are no response, empty pieces, faults.

  The record of calls on a stream says what its reads brought (`Script.replay`), and leaves no doubt about it
  (`Stream.Hears.unique`), so nothing has to be watched while it happens.  `Inbox.Pulls` is what all reading keeps
  to: every read takes something off what is still to arrive, counted by `Inbox.pending`, and a read that brings
  nothing is noticed, after which nothing is pending.  Since no read can take anything off nothing, no read comes
  after it; and since every read takes something off, there is a bound on their number.  The relation composes, so
  it is enough to look at one fill of an inbox (`Inbox.pulls_fill`); reading a head, the next event, one use of a
  response and a whole session follow.

  What a call fails with is followed on the same way (`Failure.Owned`): it is a finding about the response, or the
  fault that the last read of that very call brought.

  The layers, each with one lemma, are these.

  1. A fill of the inbox: one read, or a refusal with no read at all.

  2. Reading a head and reading on to the next event, along their recursions.  A step reads nothing and must not
     forget that the end was seen; this is `Reader.Remembers`, with a lemma for each part of a step.

  3. What a caller can do with a response: begin, go on with an iteration, read all of it, close.  A response has
     its stream only once it is attached, so `Response.Pulls` takes the loose one for as long.

  4. One use, and by induction any uses (`Session.pulls_run`).

  That a call comes to its end needs no argument here, for every function of the model is total.  The induction
  behind that is in the measure: the weight of a script is what a read takes something off, an empty read takes the
  end, and `pending` counts it as one.

  The crux is the composition (`Inbox.Pulls.trans`).  If a first part has met the end then nothing is pending, so
  the bound of the second part says that it makes no read; that is the whole reason why nothing is read after the
  end by any order of uses.
-/
import Courier.Proofs.Response.Segmentation
import Courier.Proofs.Stream.Use

namespace Courier

/-! ## What the reads of a stream brought

  A stream keeps a record of what was asked of it.  Running through this record with the script that the stream had
  in the beginning gives what each read brought, and this is how a property of the reads is stated without looking
  into the reader. -/

/-- What the reads among some calls bring from a script, one after the other, and what they leave of it. -/
def Script.replay : Script → List Call → List (Except Fault Bytes) × Script
  | script, [] => ([], script)
  | script, .read limit _ :: calls =>
    ((Stream.takeScript limit script).1 :: (Script.replay (Stream.takeScript limit script).2 calls).1,
      (Script.replay (Stream.takeScript limit script).2 calls).2)
  | script, _ :: calls => Script.replay script calls

/-- Between a stream and what it has become lie calls whose reads brought this. -/
def Stream.Hears (s : Stream) (heard : List (Except Fault Bytes)) (s' : Stream) : Prop :=
  ∃ made, s'.calls = s.calls ++ made ∧ Script.replay s.incoming made = (heard, s'.incoming)

/-- Nothing is read after a read that brought nothing. -/
def StopsAtEnd (heard : List (Except Fault Bytes)) : Prop :=
  ∀ before after, heard = before ++ .ok [] :: after → after = []

variable {s s' s'' : Stream} {heard more : List (Except Fault Bytes)}

/-- Some calls, and then more. -/
theorem Script.replay_append (script : Script) (made later : List Call) :
    Script.replay script (made ++ later) =
      ((Script.replay script made).1 ++ (Script.replay (Script.replay script made).2 later).1,
        (Script.replay (Script.replay script made).2 later).2) := by
  induction made generalizing script with
  | nil => rfl
  | cons call rest ih =>
    cases call with
    | read limit timeout =>
      rw [List.cons_append, replay, replay, ih]
      rfl
    | connect _ _ _ => exact ih script
    | secure _ _ _ => exact ih script
    | write _ _ => exact ih script
    | close => exact ih script

/-- A fault that a read brings is in the script, and so is every fault that is left. -/
theorem Stream.fault_mem_of_takeScript {limit : Int} {script : Script} {f : Fault}
    (h : (takeScript limit script).1 = .error f ∨ Piece.fault f ∈ (takeScript limit script).2) :
    Piece.fault f ∈ script := by
  cases script with
  | nil => exact h.elim (fun h => absurd h (by simp [takeScript])) (fun h => absurd h List.not_mem_nil)
  | cons p rest =>
    cases p with
    | fault g =>
      rcases h with h | h
      · rw [Except.error.inj h]
        exact List.mem_cons_self ..
      · exact List.mem_cons_of_mem _ h
    | bytes b =>
      rcases h with h | h
      · exact absurd h (by simp [takeScript])
      · rw [takeScript] at h
        dsimp only at h
        -- a piece that is longer than a read is put back, and no fault with it
        split at h
        · exact List.mem_cons_of_mem _ h
        · exact List.mem_cons_of_mem _ ((List.mem_cons.mp h).resolve_left (by simp))

/-- Every fault that is heard was in the script. -/
theorem Script.fault_mem_of_replay {script : Script} {made : List Call} {f : Fault}
    (h : Except.error f ∈ (replay script made).1) : Piece.fault f ∈ script := by
  induction made generalizing script with
  | nil => exact absurd h List.not_mem_nil
  | cons call rest ih =>
    cases call with
    | read limit timeout =>
      rw [replay] at h
      rcases List.mem_cons.mp h with h | h
      · exact Stream.fault_mem_of_takeScript (Or.inl h.symm)
      · exact Stream.fault_mem_of_takeScript (Or.inr (ih h))
    | connect _ _ _ => exact ih h
    | secure _ _ _ => exact ih h
    | write _ _ => exact ih h
    | close => exact ih h

namespace Stream

theorem Hears.refl (s : Stream) : s.Hears [] s := ⟨[], (List.append_nil _).symm, rfl⟩

/-- What is heard of a stream, and then of what it has become. -/
theorem Hears.trans (h : s.Hears heard s') (h' : s'.Hears more s'') : s.Hears (heard ++ more) s'' := by
  obtain ⟨made, hcalls, hreplay⟩ := h
  obtain ⟨later, hcalls', hreplay'⟩ := h'
  refine ⟨made ++ later, ?_, ?_⟩
  · rw [hcalls', hcalls, List.append_assoc]
  · rw [Script.replay_append, hreplay, hreplay']

/-- One read is heard. -/
theorem hears_read (s : Stream) : s.Hears [s.read.1] s.read.2 :=
  ⟨[.read readSize s.timeouts.read], rfl, rfl⟩

theorem hears_close (s : Stream) : s.Hears [] s.close := by
  rw [close]
  split
  · exact .refl s
  · exact ⟨[.close], rfl, rfl⟩

/-- What is heard is not in doubt. -/
theorem Hears.unique (h : s.Hears heard s') (h' : s.Hears more s') : heard = more := by
  obtain ⟨made, hcalls, hreplay⟩ := h
  obtain ⟨made', hcalls', hreplay'⟩ := h'
  have hmade : made = made' := List.append_cancel_left (hcalls.symm.trans hcalls')
  rw [hmade, hreplay'] at hreplay
  exact (Prod.mk.inj hreplay).1.symm

/-- A fault that is heard was in the script from the beginning. -/
theorem Hears.fault_mem {f : Fault} (h : s.Hears heard s') (hf : .error f ∈ heard) :
    Piece.fault f ∈ s.incoming := by
  obtain ⟨made, _, hreplay⟩ := h
  have hreplayed : Except.error f ∈ (Script.replay s.incoming made).1 := by
    rw [hreplay]
    exact hf
  exact Script.fault_mem_of_replay hreplayed

end Stream

/-! ## What reading takes off

  One relation for everything that reads: the stream is the same one later on, each read took something off what is
  still to come, and a read that brought nothing was the last.  It is preserved by putting two readings one after
  the other, so each function needs one lemma, and the functions that call it use that lemma. -/

/-- **What all reading keeps to.**  Every read takes something off what is still to arrive, and a read that brings
    nothing is the last one and is noticed. -/
structure Inbox.Pulls (inbox : Inbox) (s : Stream) (heard : List (Except Fault Bytes)) (inbox' : Inbox)
    (s' : Stream) : Prop where
  hears : s.Hears heard s'
  bound : heard.length + inbox'.pending s' ≤ inbox.pending s
  noticed : ∀ before after, heard = before ++ .ok [] :: after → after = [] ∧ inbox'.ended = true

/-- A failed read is a violation, or the fault that the last read brought. -/
def ReadFailure.Owned (heard : List (Except Fault Bytes)) : ReadFailure → Prop
  | .violation _ => True
  | .fault f => heard.getLast? = some (.error f)

/-- The last read of the second part is the last of both. -/
theorem ReadFailure.Owned.append {e : ReadFailure} (h : e.Owned more) : e.Owned (heard ++ more) := by
  cases e with
  | violation v => trivial
  | fault f =>
    show (heard ++ more).getLast? = _
    rw [List.getLast?_append, show more.getLast? = some (.error f) from h]
    rfl

namespace Inbox

variable {inbox inbox' inbox'' : Inbox}

/-- Nothing is pending once the end was seen. -/
theorem pending_of_ended (h : inbox.ended = true) (s : Stream) : inbox.pending s = 0 := if_pos h

theorem pending_congr (h : inbox'.ended = inbox.ended) (s : Stream) : inbox'.pending s = inbox.pending s := by
  rw [pending, pending, h]

/-- Taking from the buffer is no read. -/
theorem Pulls.same (h : inbox'.ended = inbox.ended) (s : Stream) : inbox.Pulls s [] inbox' s := by
  refine ⟨.refl s, ?_, ?_⟩
  · rw [pending_congr h]
    exact Nat.le_of_eq (Nat.zero_add _)
  · intro before after hnil
    exact absurd hnil.symm (List.append_ne_nil_of_right_ne_nil _ (List.cons_ne_nil _ _))

/-- After the end was seen no read is made. -/
theorem Pulls.ended (h : inbox.Pulls s heard inbox' s') (he : inbox.ended = true) :
    heard = [] ∧ inbox'.ended = true := by
  have hbound := h.bound
  rw [pending_of_ended he] at hbound
  refine ⟨List.length_eq_zero_iff.mp (by omega), ?_⟩
  cases hended : inbox'.ended with
  | true => rfl
  | false =>
    -- what has not ended still has its end to come
    rw [pending, hended] at hbound
    exact absurd hbound (by simp)

/-- **The relation composes**: what one part of the reading does, and then another. -/
theorem Pulls.trans (h : inbox.Pulls s heard inbox' s') (h' : inbox'.Pulls s' more inbox'' s'') :
    inbox.Pulls s (heard ++ more) inbox'' s'' := by
  refine ⟨h.hears.trans h'.hears, ?_, ?_⟩
  · have hfirst := h.bound
    have hsecond := h'.bound
    rw [List.length_append]
    omega
  · intro before after hsplit
    -- the read that brought nothing is in the second part or in the first
    rcases List.append_eq_append_iff.mp hsplit with ⟨inner, rfl, hmore⟩ | ⟨inner, hheard, hmore⟩
    · exact h'.noticed inner after hmore
    · cases inner with
      | nil => exact h'.noticed [] after hmore.symm
      | cons x inner =>
        -- the read that brought nothing is in the first part, so the second is empty
        rw [List.cons_append, List.cons.injEq] at hmore
        obtain ⟨hx, hafter⟩ := hmore
        rw [← hx] at hheard
        obtain ⟨hinner, hended⟩ := h.noticed before inner hheard
        obtain ⟨hnone, hlast⟩ := h'.ended hended
        rw [hafter, hinner, hnone]
        exact ⟨rfl, hlast⟩

/-- A list of one has nothing before it and nothing behind. -/
theorem of_singleton_eq_append {x y : Except Fault Bytes} {before after : List (Except Fault Bytes)}
    (h : [x] = before ++ y :: after) : x = y ∧ after = [] := by
  cases before with
  | nil => exact ⟨(List.cons.inj h).1, (List.cons.inj h).2.symm⟩
  | cons z rest => exact absurd (List.cons.inj h).2.symm (List.append_ne_nil_of_right_ne_nil _ (List.cons_ne_nil _ _))

/-- A read that fails takes the fault off the script. -/
theorem weight_of_read_error {f : Fault} (h : s.read = (.error f, s')) :
    s'.incoming.weight + 1 = s.incoming.weight := by
  rw [Stream.read, Stream.readUpTo, Prod.mk.injEq] at h
  obtain ⟨hfault, hrest⟩ := h
  rw [← hrest]
  show (Stream.takeScript Stream.readSize s.incoming).2.weight + 1 = _
  cases hs : s.incoming with
  | nil =>
    rw [hs] at hfault
    exact absurd hfault (by simp [Stream.takeScript])
  | cons p rest =>
    cases p with
    | fault g => exact Nat.add_comm _ _
    | bytes b =>
      rw [hs] at hfault
      exact absurd hfault (by simp [Stream.takeScript])

/-- One fill is one read, or none. -/
theorem pulls_fill (inbox : Inbox) (s : Stream) :
    (∃ data inbox' s', inbox.fill s = (.ok inbox', s') ∧ inbox.Pulls s [.ok data] inbox' s') ∨
    (∃ v, inbox.fill s = (.error (.violation v), s)) ∨
    (∃ f s', inbox.fill s = (.error (.fault f), s') ∧ inbox.Pulls s [.error f] inbox s') := by
  have hears := s.hears_read
  by_cases hlong : maxWaiting < inbox.buffer.length
  · exact Or.inr (Or.inl ⟨.tooLong, by rw [fill, if_pos hlong]⟩)
  by_cases hended : inbox.ended = true
  · exact Or.inr (Or.inl ⟨.closedEarly, by rw [fill, if_neg hlong, if_pos hended]⟩)
  have hfill := fill.eq_def inbox s
  rw [if_neg hlong, if_neg hended] at hfill
  rcases hread : s.read with ⟨f | data, s'⟩
  · rw [hread] at hfill hears
    refine Or.inr (Or.inr ⟨f, s', hfill, hears, ?_, ?_⟩)
    · have hweight := weight_of_read_error hread
      rw [pending, pending, if_neg hended, if_neg hended, List.length_singleton]
      omega
    · intro before after hsplit
      exact absurd (of_singleton_eq_append hsplit).1 (by simp)
  · rw [hread] at hfill hears
    refine Or.inl ⟨data, inbox.receive data, s', hfill, hears, ?_, ?_⟩
    · have hless := pending_fill_lt hfill
      rw [List.length_singleton]
      omega
    · intro before after hsplit
      obtain ⟨hdata, hafter⟩ := of_singleton_eq_append hsplit
      rw [Except.ok.inj hdata]
      exact ⟨hafter, rfl⟩

/-- A fill that succeeds is one read. -/
theorem pulls_of_fill (h : inbox.fill s = (.ok inbox', s')) : ∃ data, inbox.Pulls s [.ok data] inbox' s' := by
  rcases inbox.pulls_fill s with ⟨data, filled, s₁, hfill, hpulls⟩ | ⟨v, hfill⟩ | ⟨f, s₁, hfill, _⟩
  · rw [h, Prod.mk.injEq, Except.ok.injEq] at hfill
    obtain ⟨rfl, rfl⟩ := hfill
    exact ⟨data, hpulls⟩
  · rw [h] at hfill
    exact absurd hfill (by simp)
  · rw [h] at hfill
    exact absurd hfill (by simp)

/-- A fill that fails has an owner for its failure. -/
theorem pulls_of_fill_error {e : ReadFailure} (h : inbox.fill s = (.error e, s')) :
    ∃ heard, inbox.Pulls s heard inbox s' ∧ e.Owned heard := by
  rcases inbox.pulls_fill s with ⟨data, filled, s₁, hfill, _⟩ | ⟨v, hfill⟩ | ⟨f, s₁, hfill, hpulls⟩
  · rw [h] at hfill
    exact absurd hfill (by simp)
  · rw [h, Prod.mk.injEq, Except.error.injEq] at hfill
    obtain ⟨rfl, rfl⟩ := hfill
    exact ⟨[], .same rfl _, trivial⟩
  · rw [h, Prod.mk.injEq, Except.error.injEq] at hfill
    obtain ⟨rfl, rfl⟩ := hfill
    exact ⟨_, hpulls, rfl⟩

end Inbox

/-- Reading a head, whether it succeeds or not. -/
theorem pulls_readHead (inbox : Inbox) (s : Stream) :
    ∃ heard inbox', inbox.Pulls s heard inbox' (readHead inbox s).2 ∧
      (∀ head found, (readHead inbox s).1 = .ok (head, found) → found.ended = inbox'.ended) ∧
      ∀ e, (readHead inbox s).1 = .error e → e.Owned heard := by
  -- along the recursion: heads are cut off the buffer without a read, and two of the cases read
  fun_induction readHead inbox s with
  | case1 inbox s lines rest hb v hv =>
    refine ⟨[], inbox, .same rfl s, by simp, ?_⟩
    rintro e ⟨⟩
    trivial
  | case2 inbox s lines rest hb head hh hi =>
    refine ⟨[], inbox, .same rfl s, ?_, by simp⟩
    rintro head found ⟨⟩
    rfl
  | case3 inbox s lines rest hb head hh hi hs =>
    refine ⟨[], inbox, .same rfl s, by simp, ?_⟩
    rintro e ⟨⟩
    trivial
  | case4 inbox s lines rest hb head hh hi hs hlt ih =>
    obtain ⟨heard, inbox', hpulls, hok, herror⟩ := ih
    have htaken : inbox.Pulls s [] { inbox with buffer := rest } s := .same (by rfl) s
    exact ⟨heard, inbox', htaken.trans hpulls, hok, herror⟩
  | case5 inbox s hb hc =>
    refine ⟨[], inbox, .same rfl s, by simp, ?_⟩
    rintro e ⟨⟩
    trivial
  | case6 inbox s hb hc he =>
    refine ⟨[], inbox, .same rfl s, by simp, ?_⟩
    rintro e ⟨⟩
    trivial
  | case7 inbox s hb hc he e s' hf =>
    obtain ⟨heard, hpulls, howned⟩ := inbox.pulls_of_fill_error hf
    refine ⟨heard, inbox, hpulls, by simp, ?_⟩
    rintro e' ⟨⟩
    exact howned
  | case8 inbox s hb hc he inbox' s' hf hlt ih =>
    obtain ⟨data, hpulls⟩ := inbox.pulls_of_fill hf
    obtain ⟨heard, last, hrest, hok, herror⟩ := ih
    exact ⟨_, last, hpulls.trans hrest, hok, fun e he => (herror e he).append⟩

/-! ## The next event

  A step of the reader reads nothing, and knows as much of the end of the stream as was known before.  That is why
  an event costs no more reads than there are fills. -/

namespace Reader

/-- Whether the end was seen is no matter of a step: the reader that comes out of it knows as much. -/
def Remembers (ended : Bool) : Step → Prop
  | .event _ r => r.inbox.ended = ended
  | .waiting r => r.inbox.ended = ended
  | .violation _ => True

theorem remembers_waitOr (r : Reader) (v : Violation) : Remembers r.inbox.ended (r.waitOr v) := by
  rw [waitOr]
  split
  · trivial
  · rfl

theorem remembers_takeChunk (r : Reader) (more : Nat) : Remembers r.inbox.ended (r.takeChunk more) := by
  rw [takeChunk]
  dsimp only
  split
  · exact remembers_waitOr (r.goTo _ _) _
  · rfl

theorem remembers_takeTrailer (r : Reader) : Remembers r.inbox.ended r.takeTrailer := by
  rw [takeTrailer]
  split
  · exact remembers_waitOr (r.goTo _ _) _
  · split
    · trivial
    · rfl

theorem remembers_takeSize (r : Reader) : Remembers r.inbox.ended r.takeSize := by
  rw [takeSize]
  split
  · exact remembers_waitOr (r.goTo _ _) _
  · split
    · trivial
    · exact remembers_takeTrailer (r.goTo _ _)
    · exact remembers_takeChunk (r.goTo _ _) _

theorem remembers_takeFooter (r : Reader) (expected : Bytes) : Remembers r.inbox.ended (r.takeFooter expected) := by
  rw [takeFooter]
  dsimp only
  split
  · trivial
  · split
    · exact remembers_takeSize (r.goTo _ _)
    · exact remembers_waitOr (r.goTo _ _) _

/-- **A step reads nothing**: it knows of the end what was known before. -/
theorem remembers_step (r : Reader) : Remembers r.inbox.ended r.step := by
  rw [step]
  dsimp only
  split
  case h_1 => rfl
  case h_2 =>
    split
    · exact remembers_waitOr r _
    · rfl
  case h_3 =>
    split
    · rfl
    · split
      · rfl
      · rfl
  case h_4 => exact remembers_takeSize r
  case h_5 => exact remembers_takeChunk r _
  case h_6 => exact remembers_takeFooter r _
  case h_7 => exact remembers_takeTrailer r
  case h_8 =>
    split
    · rfl
    · split
      · rfl
      · rfl
  case h_9 =>
    split
    · trivial
    · split
      · rfl
      · rfl
  case h_10 => rfl
  case h_11 => trivial

/-- Reading on to the next event, whether it comes or not. -/
theorem pulls_next (r : Reader) (s : Stream) :
    ∃ heard, r.inbox.Pulls s heard (r.next s).2.1.inbox (r.next s).2.2 ∧
      ∀ e, (r.next s).1 = .error e → e.Owned heard := by
  -- along the recursion: a step, and then a read if the step waits
  fun_induction next r s with
  | case1 r s e r' hstep =>
    have hends := r.remembers_step
    rw [hstep] at hends
    exact ⟨[], .same hends s, by simp⟩
  | case2 r s v hstep =>
    refine ⟨[], .same rfl s, ?_⟩
    rintro e ⟨⟩
    trivial
  | case3 r s waiting hstep v s' hf =>
    have hends := r.remembers_step
    rw [hstep] at hends
    obtain ⟨heard, hpulls, howned⟩ := waiting.inbox.pulls_of_fill_error hf
    refine ⟨heard, (Inbox.Pulls.same hends s).trans hpulls, ?_⟩
    rintro e ⟨⟩
    exact howned
  | case4 r s waiting hstep f s' hf =>
    have hends := r.remembers_step
    rw [hstep] at hends
    obtain ⟨heard, hpulls, howned⟩ := waiting.inbox.pulls_of_fill_error hf
    refine ⟨heard, (Inbox.Pulls.same hends s).trans hpulls, ?_⟩
    rintro e ⟨⟩
    exact howned
  | case5 r s waiting hstep inbox s' hf hlt ih =>
    have hends := r.remembers_step
    rw [hstep] at hends
    obtain ⟨data, hpulls⟩ := waiting.inbox.pulls_of_fill hf
    obtain ⟨heard, hrest, herror⟩ := ih
    refine ⟨_, ((Inbox.Pulls.same hends s).trans hpulls).trans hrest, ?_⟩
    intro e he
    exact (herror e he).append

end Reader

/-! ## The uses of a response

  Every function that a caller can use on a response, each with what it does to the stream and with who is to blame
  when it fails.  A fault is renamed on its way out of an iteration, and only there. -/

/-- What a call of a caller fails with: a finding about the response, or the fault that its last read brought.  A
    fault that is the end of another iteration is reported by name inside an iteration. -/
def Failure.Owned (heard : List (Except Fault Bytes)) (e : Failure) : Prop :=
  (∃ v, e = .response v) ∨
    ∃ f, heard.getLast? = some (.error f) ∧ (e = .fault f ∨ (f.kind = .iterationEnd ∧ e = .iterationEnded))

theorem Failure.Owned.append {e : Failure} (h : e.Owned more) : e.Owned (heard ++ more) := by
  rcases h with hv | ⟨f, hlast, he⟩
  · exact Or.inl hv
  · refine Or.inr ⟨f, ?_, he⟩
    rw [List.getLast?_append, hlast]
    rfl

namespace Response

/-- A failed read is told to a caller with its owner. -/
theorem owned_failureOf {e : ReadFailure} (h : e.Owned heard) : (failureOf e).Owned heard := by
  cases e with
  | violation v => exact Or.inl ⟨_, rfl⟩
  | fault f =>
    rw [failureOf]
    split
    · exact Or.inl ⟨_, rfl⟩
    · exact Or.inr ⟨f, h, Or.inl rfl⟩

/-- Inside an iteration the owner is the same, although one kind of fault changes its name. -/
theorem owned_iterationFailureOf {e : ReadFailure} (h : e.Owned heard) : (iterationFailureOf e).Owned heard := by
  cases e with
  | violation v => exact Or.inl ⟨_, rfl⟩
  | fault f =>
    rw [iterationFailureOf, failureOf]
    by_cases hremote : f.kind = .remoteProtocol
    · rw [if_pos hremote]
      exact Or.inl ⟨_, rfl⟩
    · rw [if_neg hremote]
      dsimp only
      split
      · rename_i hend
        exact Or.inr ⟨f, h, Or.inr ⟨hend, rfl⟩⟩
      · exact Or.inr ⟨f, h, Or.inl rfl⟩

/-- A head that cannot be shown is a finding about the response. -/
theorem ofHead_error {url : Url} {method : Text} {head : Head} {inbox : Inbox} {e : Failure}
    (h : ofHead url method head inbox = .error e) : ∃ v, e = .response v := by
  cases hp : Whole.isPresentable head with
  | true =>
    obtain ⟨r, hr, _⟩ := ofHead_of_presentable hp url method inbox
    rw [hr] at h
    exact absurd h (by simp)
  | false =>
    obtain ⟨v, hv⟩ := ofHead_of_unpresentable hp url method inbox
    rw [hv] at h
    exact ⟨_, (Except.error.inj h).symm⟩

theorem ofHead_inbox {url : Url} {method : Text} {head : Head} {inbox : Inbox} {r : Response}
    (h : ofHead url method head inbox = .ok r) : r.reader.inbox = inbox ∧ r.stream = none := by
  rw [ofHead] at h
  obtain ⟨headers, _, h⟩ := exists_of_bind_eq_ok h
  rw [← Except.ok.inj h]
  exact ⟨rfl, rfl⟩

/-- Beginning to read. -/
theorem pulls_beginRead {url : Url} {method : Text} (hurl : ∀ c ∈ url.rawHost, isAscii c = true)
    (hmethod : Header.isToken method = true) (s : Stream) :
    ∃ heard inbox', Inbox.Pulls {} s heard inbox' (beginRead s url method).2 ∧
      (∀ r, (beginRead s url method).1 = .ok r → r.reader.inbox.ended = inbox'.ended ∧ r.stream = none) ∧
      ∀ e, (beginRead s url method).1 = .error e → e.Owned heard := by
  obtain ⟨heard, inbox', hpulls, hok, herror⟩ := pulls_readHead {} s
  rw [beginRead, checkRequest_of_token hurl hmethod]
  dsimp only
  split
  · rename_i e s' hread
    rw [hread] at hpulls herror
    refine ⟨heard, inbox', hpulls, by simp, ?_⟩
    intro e' he
    rw [← Except.error.inj he]
    exact owned_failureOf (herror e rfl)
  · rename_i head found s' hread
    rw [hread] at hpulls hok
    refine ⟨heard, inbox', hpulls, ?_, ?_⟩
    · intro r hr
      obtain ⟨hinbox, hstream⟩ := ofHead_inbox hr
      rw [hinbox]
      exact ⟨hok head found rfl, hstream⟩
    · intro e he
      exact Or.inl (ofHead_error he)

/-- What a call on a response does to its stream, or to the one that is not attached yet. -/
def Pulls (r : Response) (loose : Stream) (heard : List (Except Fault Bytes)) (r' : Response) : Prop :=
  r.reader.inbox.Pulls (r.stream.getD loose) heard r'.reader.inbox (r'.stream.getD loose)

variable {r : Response}

/-- Closing a response reads nothing. -/
theorem pulls_close (r : Response) (loose : Stream) : r.Pulls loose [] r.close := by
  cases hs : r.stream with
  | none =>
    rw [Pulls, close, hs]
    exact .same rfl loose
  | some s =>
    rw [Pulls, close, hs]
    refine ⟨s.hears_close, ?_, ?_⟩
    · have hincoming : s.close.incoming = s.incoming := by
        rw [Stream.close]
        split <;> rfl
      show 0 + r.reader.inbox.pending s.close ≤ r.reader.inbox.pending s
      rw [Inbox.pending, Inbox.pending, hincoming]
      omega
    · intro before after hsplit
      exact absurd hsplit.symm (List.append_ne_nil_of_right_ne_nil _ (List.cons_ne_nil _ _))

/-- Asking the reader for one piece, with the close that may follow. -/
theorem pulls_resume (hs : r.stream = some s) (loose : Stream) :
    ∃ heard, r.Pulls loose heard (r.resume s).2 ∧ ∀ e, (r.resume s).1 = .error e → e.Owned heard := by
  obtain ⟨heard, hpulls, herror⟩ := r.reader.pulls_next s
  rw [resume]
  split
  · exact ⟨[], r.pulls_close loose, by simp⟩
  · split
    · rename_i hnext
      rw [hnext] at hpulls
      refine ⟨heard, ?_, by simp⟩
      rw [Pulls, hs]
      exact hpulls
    · rename_i reader s' hnext
      rw [hnext] at hpulls
      have hclose := pulls_close { r with reader, stream := some s' } loose
      refine ⟨heard, ?_, by simp⟩
      rw [Pulls, hs]
      exact (List.append_nil heard) ▸ hpulls.trans hclose
    · -- a failure; a response that is done is closed again
      rename_i e reader s' hnext
      rw [hnext] at hpulls herror
      have hclose := pulls_close { r with reader, stream := some s' } loose
      refine ⟨heard, ?_, ?_⟩
      · rw [Pulls, hs]
        dsimp only
        split
        · exact (List.append_nil heard) ▸ hpulls.trans hclose
        · exact hpulls
      · rintro e' ⟨⟩
        exact owned_iterationFailureOf (herror e rfl)

/-- Going on with an iteration. -/
theorem pulls_next (r : Response) (cursor : Cursor) (loose : Stream) :
    ∃ heard, r.Pulls loose heard (r.next cursor).2.2 ∧ ∀ e, (r.next cursor).1 = .error e → e.Owned heard := by
  rcases r.next_cases cursor with ⟨_, hnext⟩ | ⟨s, hs, hnext⟩
  · rw [hnext]
    exact ⟨[], .same rfl _, by simp⟩
  · rw [hnext]
    exact pulls_resume hs loose

/-- Collecting what an iteration has left to give. -/
theorem pulls_drainFrom (r : Response) (cursor : Cursor) (pieces : List Bytes) (loose : Stream) :
    ∃ heard, r.Pulls loose heard (r.drainFrom cursor pieces).2 ∧
      ∀ e, (r.drainFrom cursor pieces).1 = .error e → e.Owned heard := by
  fun_induction drainFrom r cursor pieces with
  | case1 r cursor pieces e c r' hnext =>
    obtain ⟨heard, hpulls, herror⟩ := r.pulls_next cursor loose
    rw [hnext] at hpulls herror
    exact ⟨heard, hpulls, fun e' he => herror e' (congrArg Except.error (Except.error.inj he))⟩
  | case2 r cursor pieces c r' hnext =>
    obtain ⟨heard, hpulls, _⟩ := r.pulls_next cursor loose
    rw [hnext] at hpulls
    exact ⟨heard, hpulls, by simp⟩
  | case3 r cursor pieces b c r' hnext hlt ih =>
    obtain ⟨heard, hpulls, _⟩ := r.pulls_next cursor loose
    rw [hnext] at hpulls
    obtain ⟨more, hrest, herror⟩ := ih
    exact ⟨heard ++ more, hpulls.trans hrest, fun e he => (herror e he).append⟩

/-- Reading all of a body. -/
theorem pulls_read (r : Response) (loose : Stream) :
    ∃ heard, r.Pulls loose heard r.read.2 ∧ ∀ e, r.read.1 = .error e → e.Owned heard := by
  obtain ⟨heard, hpulls, herror⟩ := r.pulls_drainFrom .fresh [] loose
  rw [read, chunks]
  split
  · rename_i hd
    rw [hd] at hpulls
    exact ⟨heard, hpulls, by simp⟩
  · rename_i hd
    rw [hd] at hpulls herror
    exact ⟨heard, hpulls, fun e' he => herror e' (congrArg Except.error (Except.error.inj he))⟩

/-! ## Sessions

  A caller may use a response in any order and as often as it likes, before its stream is attached and after that.
  A session is the list of these uses, and what holds of one use holds of all by induction. -/

/-- What a caller can do with a response. -/
inductive Use
  /-- hands over the stream, and says whether the request asked for the head alone -/
  | attach (isHead : Bool)
  /-- goes on with the iteration -/
  | next
  /-- starts a new iteration -/
  | restart
  /-- reads all that a new iteration gives -/
  | read
  | close
  deriving DecidableEq, Repr

end Response

/-- A response, the iteration over its body, and the stream that it was read from, which is the response's once it
    is attached. -/
structure Session where
  response : Response
  cursor : Response.Cursor := .fresh
  loose : Stream

namespace Session

/-- The stream as it stands. -/
def stream (x : Session) : Stream := x.response.stream.getD x.loose

/-- One use: what the caller gets, and the session after it. -/
def step (x : Session) : Response.Use → Except Failure (Option Bytes) × Session
  | .attach isHead => (.ok none, { x with response := x.response.attach x.stream isHead })
  | .next =>
    ((x.response.next x.cursor).1,
      { x with response := (x.response.next x.cursor).2.2, cursor := (x.response.next x.cursor).2.1 })
  | .restart => (.ok none, { x with cursor := .fresh })
  | .read => (x.response.read.1.map some, { x with response := x.response.read.2 })
  | .close => (.ok none, { x with response := x.response.close })

/-- The session after some uses. -/
def run (x : Session) (uses : List Response.Use) : Session := uses.foldl (fun x use => (x.step use).2) x

/-- What one session does to the stream of another before it. -/
def Pulls (x : Session) (heard : List (Except Fault Bytes)) (x' : Session) : Prop :=
  x.response.reader.inbox.Pulls x.stream heard x'.response.reader.inbox x'.stream

/-- **One use**, whatever it is, keeps to what all reading keeps to. -/
theorem pulls_step (x : Session) (use : Response.Use) :
    ∃ heard, x.Pulls heard (x.step use).2 ∧ ∀ e, (x.step use).1 = .error e → e.Owned heard := by
  cases use with
  | attach isHead => exact ⟨[], .same rfl _, by simp [step]⟩
  | next => exact x.response.pulls_next x.cursor x.loose
  | restart => exact ⟨[], .same rfl _, by simp [step]⟩
  | read =>
    obtain ⟨heard, hpulls, herror⟩ := x.response.pulls_read x.loose
    refine ⟨heard, hpulls, ?_⟩
    intro e he
    refine herror e ?_
    cases hread : x.response.read.1 with
    | error e' =>
      rw [step, hread] at he
      exact congrArg Except.error (Except.error.inj he)
    | ok b =>
      rw [step, hread] at he
      exact absurd he (by simp [Except.map])
  | close => exact ⟨[], x.response.pulls_close x.loose, by simp [step]⟩

/-- **A whole session** does so too. -/
theorem pulls_run (x : Session) (uses : List Response.Use) : ∃ heard, x.Pulls heard (x.run uses) := by
  induction uses generalizing x with
  | nil => exact ⟨[], .same rfl _⟩
  | cons use rest ih =>
    obtain ⟨heard, hstep, _⟩ := x.pulls_step use
    obtain ⟨more, hrest⟩ := ih (x.step use).2
    exact ⟨heard ++ more, hstep.trans hrest⟩

/-! ## The end of an iteration

  Going on with an iteration takes something off what is there every time, and so it comes to its end. -/

/-- An iteration hands something out, or is over. -/
theorem piece_or_spent (r : Response) (cursor : Response.Cursor) :
    (∃ b, (r.next cursor).1 = .ok (some b)) ∨ (r.next cursor).2.1 = .spent := by
  rcases r.next_cases cursor with ⟨_, hnext⟩ | ⟨s, _, hnext⟩
  · rw [hnext]
    exact Or.inr rfl
  · rw [hnext]
    rcases (r.resume s).1 with e | _ | b
    · exact Or.inr rfl
    · exact Or.inr rfl
    · exact Or.inl ⟨b, rfl⟩

/-- An iteration that is gone on with comes to its end: what it hands out is taken off what is there. -/
theorem exists_spent (x : Session) : ∃ n, (x.run (List.replicate n .next)).cursor = .spent := by
  -- on what is there to be handed out, of which every piece takes some
  induction hn : x.response.remaining using Nat.strongRecOn generalizing x with
  | ind n ih =>
    subst hn
    rcases piece_or_spent x.response x.cursor with ⟨b, hb⟩ | hspent
    · have hless : (x.step .next).2.response.remaining < x.response.remaining :=
        Response.remaining_next_lt (Prod.ext hb rfl)
      obtain ⟨n, hend⟩ := ih _ hless (x.step .next).2 rfl
      exact ⟨n + 1, hend⟩
    · exact ⟨1, hspent⟩

end Session

/-! ## The whole session

  Everything about one stream is read off the relation that a session keeps to. -/

/-- A failure that a caller is told to expect: a finding about the response, or the very fault that the last read of
    the call brought. -/
def Failure.Documented (heard : List (Except Fault Bytes)) (e : Failure) : Prop :=
  (∃ v, e = .response v) ∨ ∃ f, heard.getLast? = some (.error f) ∧ e = .fault f

/-- Where no fault is the end of an iteration, a failure with an owner is documented. -/
theorem Failure.documented_of_owned {e : Failure} (h : e.Owned heard)
    (hfaults : ∀ f, .error f ∈ heard → f.kind ≠ .iterationEnd) : e.Documented heard := by
  rcases h with hv | ⟨f, hlast, he | ⟨hend, _⟩⟩
  · exact Or.inl hv
  · exact Or.inr ⟨f, hlast, he⟩
  · exact absurd hend (hfaults f (List.mem_of_getLast? hlast))

/-- What is known of a session that was begun on a stream. -/
structure Session.Safe (s : Stream) (x : Session) : Prop where
  /-- no read came after one that brought nothing, and there is a bound on the reads -/
  reads : ∃ heard, s.Hears heard x.stream ∧ StopsAtEnd heard ∧ heard.length ≤ s.incoming.weight + 1
  /-- whatever use is made of it next fails as documented, if it fails -/
  fails : ∀ use, ∃ heard, x.stream.Hears heard (x.step use).2.stream ∧
    ∀ e, (x.step use).1 = .error e → e.Documented heard
  /-- an iteration that is gone on with comes to its end -/
  ends : ∃ n, (x.run (List.replicate n .next)).cursor = .spent

/-- **Reading is safe from any server.**  Whatever a stream brings, in bytes, empty pieces and faults other than the
    end of an iteration, and whatever was asked of it before: beginning to read, and after it any use of the response
    in any session, fails only with a finding about the response or with the very fault that its last read brought;
    no session reads the stream after a read that brought nothing; and all comes to an end. -/
theorem reading_safe {s : Stream} {url : Url} {method : Text} (hurl : ∀ c ∈ url.rawHost, isAscii c = true)
    (hmethod : Header.isToken method = true)
    (hfaults : ∀ f, Piece.fault f ∈ s.incoming → f.kind ≠ .iterationEnd) :
    (∃ heard, s.Hears heard (Response.beginRead s url method).2 ∧ StopsAtEnd heard ∧
      heard.length ≤ s.incoming.weight + 1 ∧
      ∀ e, (Response.beginRead s url method).1 = .error e → e.Documented heard) ∧
    ∀ r s' uses, Response.beginRead s url method = (.ok r, s') →
      Session.Safe s (Session.run { response := r, loose := s' } uses) := by
  obtain ⟨heard, inbox, hpulls, hok, herror⟩ := Response.pulls_beginRead hurl hmethod s
  have hpending : Inbox.pending {} s = s.incoming.weight + 1 := rfl
  constructor
  · refine ⟨heard, hpulls.hears, fun before after h => (hpulls.noticed before after h).1, ?_, ?_⟩
    · have hbound := hpulls.bound
      omega
    · intro e he
      exact Failure.documented_of_owned (herror e he) fun f hf => hfaults f (hpulls.hears.fault_mem hf)
  · intro r s' uses hbegin
    rw [hbegin] at hpulls hok
    obtain ⟨hended, hnone⟩ := hok r rfl
    have hstream : Session.stream { response := r, loose := s' } = s' := by
      rw [Session.stream, hnone]
      rfl
    obtain ⟨more, hrun⟩ := Session.pulls_run { response := r, loose := s' } uses
    have hlater := hpulls.trans (.same hended s')
    rw [Session.Pulls, hstream] at hrun
    have hall := hlater.trans hrun
    refine ⟨?reads, ?fails, Session.exists_spent _⟩
    case reads =>
      refine ⟨_, hall.hears, fun before after h => (hall.noticed before after h).1, ?_⟩
      have hbound := hall.bound
      omega
    case fails =>
      intro use
      obtain ⟨last, hstep, hfails⟩ := Session.pulls_step (Session.run { response := r, loose := s' } uses) use
      refine ⟨last, hstep.hears, fun e he => Failure.documented_of_owned (hfails e he) fun f hf => ?_⟩
      -- a fault that this use brings was in the script from the beginning
      exact hfaults f ((hall.trans hstep).hears.fault_mem (List.mem_append_right _ hf))

/-- A stream whose server breaks off inside a chunk, with a fault before that, and then sends more. -/
def hostileStream : Stream :=
  { incoming := [
      .bytes ("HTTP/1.1 200 OK\r\nTransfer-Encoding: chunked\r\n\r\n5\r\nab".toList.map fun c => c.toNat.toUInt8),
      .fault ⟨"ReadTimeout".toList, .timeout, "boom".toList, none⟩, .bytes [], .bytes [99]] }

/-- The URL that it is asked for. -/
def hostileUrl : Url := { scheme := "http".toList, rawHost := "h".toList }

/-- A session with it. -/
def hostileUses : List Response.Use := [.attach false, .next, .next, .restart, .next, .read, .close, .next]

/-- What comes after the end is never read. -/
theorem reading_safe_of_hostile :
    ∃ r s', Response.beginRead hostileStream hostileUrl "get".toList = (.ok r, s') ∧
      Session.Safe hostileStream (Session.run { response := r, loose := s' } hostileUses) ∧
      (Session.run { response := r, loose := s' } hostileUses).stream.incoming = [.bytes [99]] := by
  have hurl : hostileUrl.rawHost.all isAscii = true := by decide
  have hmethod : Header.isToken "get".toList = true := by decide
  have hfaults : ∀ f, Piece.fault f ∈ hostileStream.incoming → f.kind ≠ .iterationEnd := by
    intro f hf
    simp only [hostileStream, List.mem_cons, Piece.fault.injEq, reduceCtorEq, List.not_mem_nil, or_false,
      false_or] at hf
    rw [hf]
    decide
  have hrun : ((Response.beginRead hostileStream hostileUrl "get".toList).1.toOption.any fun r =>
      decide ((Session.run
        { response := r, loose := (Response.beginRead hostileStream hostileUrl "get".toList).2 }
        hostileUses).stream.incoming = [.bytes [99]])) = true := by decide +kernel
  rw [Option.any_eq_true] at hrun
  obtain ⟨r, hok, hrest⟩ := hrun
  have hbegin : Response.beginRead hostileStream hostileUrl "get".toList =
      (.ok r, (Response.beginRead hostileStream hostileUrl "get".toList).2) :=
    Prod.ext (toOption_eq_some_iff.mp hok) rfl
  have hsafe := (reading_safe (List.all_eq_true.mp hurl) hmethod hfaults).2 r _ hostileUses hbegin
  exact ⟨r, _, hbegin, hsafe, of_decide_eq_true hrest⟩

end Courier
