/-
  What a caller does with a response once its stream is attached.

  A turn goes on with an iteration, gives it up for a new one, collects all that a new one gives, or closes.  A
  response that has closed its stream is done, and a new iteration over a response that is done gives nothing; so
  everything that begins after the end is silent (`Session.Silent`).  What began before it is not stopped: an
  iteration that stands in the middle of the body is never told, and going on with it is silent only if the reader
  finds the end in what it has (`Session.silent_next_iff`).

  Two invariants carry this over any turns.  `Response.Minds` says that a response has its stream and is done when
  that is closed; it holds from the moment the stream is attached, and is kept by reading on and by closing,
  whatever they come to. The other is that a closed stream stays closed.  `keeps_after` is the induction for both:
  a property of responses that reading on and closing keep is kept by any turns, since the turns do nothing else to
  a response.

  From there on it is a matter of looking at what each turn asks.  A response that is done answers a new iteration
  itself, without its reader (`Response.next_of_done`); so a collection gives nothing, closing again changes
  nothing, and no text is read of no bytes, in any charset.  Only a running iteration gets through to the reader,
  and then the question is whether the reader finds the end without a read.  It does so when the very next step says
  so, and not otherwise, because a read leaves its trace in the calls of the stream (`Reader.next_finished_iff`).

  `Session.ended_of_closed` puts this together for a caller who has done anything at all before the stream was
  closed and does anything at all after it.  The example at the end is the iteration that is not told.
-/
import Courier.Proofs.Response.Session
import Courier.Proofs.Stream.Use

namespace Courier

namespace Response

/-! ## Turns

  What a caller can do with a response that has its stream, and what it gets for it.  There is one iteration that is
  gone on with, and it can be left: collecting all pieces goes through an iteration of its own, and closing the
  response does not touch the one that was begun. -/

/-- What a caller can do with a response that has its stream. -/
inductive Turn
  /-- goes on with the iteration -/
  | next
  /-- starts a new iteration -/
  | restart
  /-- collects the pieces of another new iteration -/
  | chunks
  | read
  | text
  | close
  deriving DecidableEq, Repr

/-- What a turn gives. -/
inductive Gift
  | nothing
  /-- the next bytes of the iteration -/
  | piece (b : Bytes)
  /-- the iteration has come to its end -/
  | over
  | pieces (ps : List Bytes)
  | data (b : Bytes)
  | text (t : Text)
  deriving DecidableEq, Repr

/-- Whether a gift holds no byte and no character. -/
def Gift.isEmpty : Gift → Bool
  | .nothing | .over => true
  | .piece b | .data b => b.isEmpty
  | .pieces ps => ps.flatten.isEmpty
  | .text t => t.isEmpty

/-- What going on with an iteration gives; one that is over already gives nothing more. -/
def Gift.ofNext (cursor : Cursor) (found : Option Bytes) : Gift :=
  match cursor, found with
  | .spent, _ => .nothing
  | _, some b => .piece b
  | _, none => .over

end Response

open Response (Turn Gift)

namespace Session

/-- One turn: what the caller gets, and the session after it. -/
def turn (x : Session) : Turn → Except Failure Gift × Session
  | .next =>
    ((x.response.next x.cursor).1.map (Gift.ofNext x.cursor),
      { x with response := (x.response.next x.cursor).2.2, cursor := (x.response.next x.cursor).2.1 })
  | .restart => (.ok .nothing, { x with cursor := .fresh })
  | .chunks => (x.response.chunks.1.map .pieces, { x with response := x.response.chunks.2 })
  | .read => (x.response.read.1.map .data, { x with response := x.response.read.2 })
  | .text => (x.response.text.1.map .text, { x with response := x.response.text.2 })
  | .close => (.ok .nothing, { x with response := x.response.close })

/-- The session after some turns. -/
def after (x : Session) (turns : List Turn) : Session := turns.foldl (fun x t => (x.turn t).2) x

/-- A session with a response that has just been given its stream. -/
def ofAttached (r : Response) (s : Stream) (isHead : Bool) : Session := { response := r.attach s isHead, loose := s }

/-- A turn that gives no byte, does not fail, and asks nothing of the stream. -/
def Silent (x : Session) (t : Turn) : Prop :=
  ∃ g, (x.turn t).1 = .ok g ∧ g.isEmpty = true ∧ (x.turn t).2.stream = x.stream

end Session

/-! ## What all turns keep

  Whatever is kept by reading on and by closing is kept by every turn.  This is stated for any property, so that the
  following sections need not go through the turns again. -/

namespace Response

variable {P : Response → Prop} {r : Response}

/-- Collecting keeps what reading on and closing keep. -/
theorem keeps_drainFrom (hresume : ∀ r s, r.stream = some s → P r → P (r.resume s).2) (h : P r) (cursor : Cursor)
    (pieces : List Bytes) : P (r.drainFrom cursor pieces).2 := by
  fun_induction drainFrom r cursor pieces with
  | case1 r cursor pieces e c r' hnext =>
    have hkept := keeps_next hresume h cursor
    rw [hnext] at hkept
    exact hkept
  | case2 r cursor pieces c r' hnext =>
    have hkept := keeps_next hresume h cursor
    rw [hnext] at hkept
    exact hkept
  | case3 r cursor pieces b c r' hnext hlt ih =>
    have hkept := keeps_next hresume h cursor
    rw [hnext] at hkept
    exact ih hkept

theorem read_eq (r : Response) : r.read = (r.chunks.1.map List.flatten, r.chunks.2) := by
  unfold read
  rcases r.chunks with ⟨e | ps, r'⟩
  · rfl
  · rfl

/-- Reading the text of a body does no more to a response than collecting its pieces. -/
theorem snd_text (r : Response) : r.text.2 = r.chunks.2 := by
  unfold text
  rw [read_eq]
  cases r.chunks.1 with
  | error e => rfl
  | ok ps => rfl

end Response

namespace Session

variable {P : Response → Prop} {x : Session}

/-- **One turn** keeps what reading on and closing keep. -/
theorem keeps_turn (hresume : ∀ r s, r.stream = some s → P r → P (r.resume s).2) (hclose : ∀ r, P r → P r.close)
    (h : P x.response) (t : Turn) : P (x.turn t).2.response := by
  have hchunks : P x.response.chunks.2 := Response.keeps_drainFrom hresume h .fresh []
  cases t with
  | next => exact Response.keeps_next hresume h x.cursor
  | restart => exact h
  | chunks => exact hchunks
  | read =>
    show P x.response.read.2
    rw [Response.read_eq]
    exact hchunks
  | text =>
    show P x.response.text.2
    rw [Response.snd_text]
    exact hchunks
  | close => exact hclose _ h

/-- **Any turns** do. -/
theorem keeps_after (hresume : ∀ r s, r.stream = some s → P r → P (r.resume s).2) (hclose : ∀ r, P r → P r.close)
    (h : P x.response) (turns : List Turn) : P (x.after turns).response := by
  induction turns generalizing x with
  | nil => exact h
  | cons t rest ih => exact ih (keeps_turn hresume hclose h t)

end Session

/-! ## A response that has closed its stream

  The property that is kept: once its stream is closed, a response is done.  Then all turns are silent but one,
  which is going on with an iteration that stands in the middle of the body. -/

namespace Response

/-- A response with a stream is done when the stream is closed. -/
structure Minds (r : Response) (s : Stream) : Prop where
  stream : r.stream = some s
  done : s.closed = true → r.done = true

variable {r : Response} {s : Stream}

theorem minds_close (h : r.stream = some s) : r.close.Minds s.close :=
  ⟨by rw [close, h]; rfl, fun _ => rfl⟩

/-- Reading on minds the stream, and opens nothing. -/
theorem Minds.resume (h : r.Minds s) : ∃ s', (r.resume s).2.Minds s' ∧ (s.closed = true → s'.closed = true) := by
  rw [Response.resume]
  split
  · exact ⟨_, minds_close h.stream, fun _ => s.closed_close⟩
  · -- reading closes nothing
    have hreads := (r.reader.reads_next s).uses.closed
    split
    · rename_i hnext
      rw [hnext] at hreads
      exact ⟨_, ⟨rfl, fun hclosed => h.done (hreads ▸ hclosed)⟩, fun hclosed => hreads.trans hclosed⟩
    · exact ⟨_, minds_close rfl, fun _ => Stream.closed_close _⟩
    · rename_i hnext
      rw [hnext] at hreads
      dsimp only
      split
      · exact ⟨_, minds_close rfl, fun _ => Stream.closed_close _⟩
      · exact ⟨_, ⟨rfl, fun hclosed => h.done (hreads ▸ hclosed)⟩, fun hclosed => hreads.trans hclosed⟩

theorem Minds.close_eq (h : r.Minds s) (hclosed : s.closed = true) : r.close = r := by
  have hs : s.close = s := by rw [Stream.close, if_pos hclosed]
  rw [close, h.stream, Option.map_some, hs, ← h.stream, ← h.done hclosed]

/-- Of a response that is done, an iteration that stands nowhere in the body has nothing more to give. -/
theorem next_of_done (hdone : r.done = true) {cursor : Cursor} (hcursor : cursor ≠ .running) :
    r.next cursor = (.ok none, .spent, r) := by
  unfold Response.next
  -- an iteration that was never begun asks whether the response is done, and only one that runs asks the reader
  split
  · rfl
  · rfl
  · rw [if_pos hdone]
  · exact absurd rfl hcursor

/-- Of a response that is done a collection gives nothing. -/
theorem chunks_of_done (hdone : r.done = true) : r.chunks = (.ok [], r) := by
  have hnext : r.next .fresh = (.ok none, .spent, r) := next_of_done hdone Cursor.noConfusion
  rw [chunks, drainFrom]
  split
  · rename_i hr
    rw [hnext] at hr
    exact absurd hr (by simp)
  · rename_i hr
    rw [hnext, Prod.mk.injEq, Prod.mk.injEq] at hr
    rw [hr.2.2]
    rfl
  · rename_i hr
    rw [hnext] at hr
    exact absurd hr (by simp)

end Response

theorem Charset.readLabelled_nil (label : Text) : readLabelled label [] = [] := by
  rw [readLabelled]
  generalize (ofLabel? label).getD .utf8 = charset
  rcases charset with _ | _ | (_ | _ | _) | (_ | _ | _) | _ | _ | _ | _ | _ <;> rfl

theorem Inbox.calls_fill_lt {inbox inbox' : Inbox} {s s' : Stream} (h : inbox.fill s = (.ok inbox', s')) :
    s.calls.length < s'.calls.length := by
  rw [fill] at h
  split at h
  · exact absurd h (by simp)
  · split at h
    · exact absurd h (by simp)
    · split at h
      · rename_i data t hread
        have ht : s.read.2 = s' := (congrArg Prod.snd hread).trans (Prod.mk.inj h).2
        rw [← ht]
        show s.calls.length < (s.calls ++ [_]).length
        rw [List.length_append]
        exact Nat.lt_succ_self _
      · exact absurd h (by simp)

/-- The end is found without a read when one step on the bytes that are there finds it. -/
theorem Reader.next_finished_iff {r : Reader} {s : Stream} :
    (∃ reader, r.next s = (.ok .finished, reader, s)) ↔ ∃ reader, r.step = .event .finished reader := by
  constructor
  · rintro ⟨reader, h⟩
    rw [next] at h
    split at h
    · rename_i e reader' hstep
      rw [Prod.mk.injEq, Except.ok.injEq] at h
      exact ⟨reader', h.1 ▸ hstep⟩
    · exact absurd h (by simp)
    · rename_i waiting hstep
      split at h
      · exact absurd h (by simp)
      · exact absurd h (by simp)
      · -- a read has been made, and calls are never taken back
        rename_i inbox s' hfill
        have hlater := (Reader.reads_next { waiting with inbox } s').uses.later.calls.length_le
        have hless := Inbox.calls_fill_lt hfill
        rw [h] at hlater
        exact absurd hlater (Nat.not_le_of_lt hless)
  · rintro ⟨reader, hstep⟩
    refine ⟨reader, ?_⟩
    rw [next]
    split
    · rename_i hs
      rw [hstep, Step.event.injEq] at hs
      rw [hs.1, hs.2]
    · rename_i hs
      rw [hstep] at hs
      exact absurd hs Step.noConfusion
    · rename_i hs
      rw [hstep] at hs
      exact absurd hs Step.noConfusion

namespace Session

variable {x : Session} {s : Stream}

/-- The stream of a response is minded after any turns, and stays closed once it is. -/
theorem minds_after (h : x.response.Minds s) (turns : List Turn) :
    ∃ s', (x.after turns).response.Minds s' ∧ (s.closed = true → s'.closed = true) := by
  refine keeps_after (P := fun r => ∃ s', r.Minds s' ∧ (s.closed = true → s'.closed = true)) ?resume ?close
    ⟨s, h, id⟩ turns
  case resume =>
    rintro r t ht ⟨s', hminds, hclosed⟩
    rw [hminds.stream, Option.some.injEq] at ht
    subst ht
    obtain ⟨s'', hminds', hclosed'⟩ := hminds.resume
    exact ⟨s'', hminds', fun hc => hclosed' (hclosed hc)⟩
  case close =>
    rintro r ⟨s', hminds, _⟩
    exact ⟨s'.close, Response.minds_close hminds.stream, fun _ => s'.closed_close⟩

theorem stream_of_minds (h : x.response.Minds s) : x.stream = s := by
  rw [stream, h.stream]
  rfl

/-- **After the end a turn is silent**, unless it goes on with an iteration in the middle of the body. -/
theorem silent_of_minds (h : x.response.Minds s) (hclosed : s.closed = true) {t : Turn}
    (ht : t = .next → x.cursor ≠ .running) : x.Silent t ∧ (x.turn t).2.response = x.response := by
  have hchunks := Response.chunks_of_done (h.done hclosed)
  have hread : x.response.read = (.ok [], x.response) := by
    rw [Response.read_eq, hchunks]
    rfl
  have htext : x.response.text = (.ok [], x.response) := by
    rw [Response.text, hread, ← Charset.readLabelled_nil x.response.charset]
  cases t with
  | next =>
    have hnext := Response.next_of_done (h.done hclosed) (ht rfl)
    rw [Silent, turn, hnext]
    refine ⟨⟨_, rfl, ?_, rfl⟩, rfl⟩
    cases x.cursor with
    | fresh => rfl
    | running => rfl
    | spent => rfl
  | restart => exact ⟨⟨_, rfl, rfl, rfl⟩, rfl⟩
  | chunks =>
    rw [Silent, turn, hchunks]
    exact ⟨⟨_, rfl, rfl, rfl⟩, rfl⟩
  | read =>
    rw [Silent, turn, hread]
    exact ⟨⟨_, rfl, rfl, rfl⟩, rfl⟩
  | text =>
    rw [Silent, turn, htext]
    exact ⟨⟨_, rfl, rfl, rfl⟩, rfl⟩
  | close =>
    rw [Silent, turn, h.close_eq hclosed]
    exact ⟨⟨_, rfl, rfl, rfl⟩, rfl⟩

/-- Only going on with it leaves an iteration in the middle of the body. -/
theorem cursor_turn_ne_running (h : x.response.Minds s) (hclosed : s.closed = true) (hcursor : x.cursor ≠ .running)
    (t : Turn) : (x.turn t).2.cursor ≠ .running := by
  cases t with
  | next =>
    rw [turn, Response.next_of_done (h.done hclosed) hcursor]
    exact Response.Cursor.noConfusion
  | restart => exact Response.Cursor.noConfusion
  | chunks => exact hcursor
  | read => exact hcursor
  | text => exact hcursor
  | close => exact hcursor

/-- All turns after the end are silent when no iteration stands in the middle of the body. -/
theorem after_of_minds (h : x.response.Minds s) (hclosed : s.closed = true) (hcursor : x.cursor ≠ .running)
    (turns : List Turn) : (x.after turns).response = x.response ∧ (x.after turns).cursor ≠ .running := by
  induction turns generalizing x with
  | nil => exact ⟨rfl, hcursor⟩
  | cons t rest ih =>
    have hsame := (silent_of_minds h hclosed (t := t) fun _ => hcursor).2
    obtain ⟨hresponse, hlast⟩ := ih (x := (x.turn t).2) (hsame ▸ h) (cursor_turn_ne_running h hclosed hcursor t)
    exact ⟨hresponse.trans hsame, hlast⟩

/-! ## An iteration in the middle of the body

  Such an iteration asks the reader and not the response.  Whether it is silent depends on what the reader has in
  its inbox. -/

/-- **Going on in the middle of the body** after the end is silent only for a request of the head, and where the
    reader finds the end in what it has. -/
theorem silent_next_iff (h : x.response.Minds s) (hclosed : s.closed = true) (hcursor : x.cursor = .running) :
    x.Silent .next ↔
      x.response.isHead = true ∨ ∃ reader, x.response.reader.step = .event .finished reader := by
  have hx : x.stream = s := stream_of_minds h
  have hsame {s' : Stream} (hs' : s'.closed = true) : s'.close = s' := by rw [Stream.close, if_pos hs']
  cases hhead : x.response.isHead with
  | true =>
    -- the answer to a request of the head has no body, so the reader is not asked
    have hnext : x.response.next .running = (.ok none, .spent, x.response) := by
      unfold Response.next
      rw [h.stream]
      dsimp only
      rw [Response.advance, Response.resume, if_pos hhead, h.close_eq hclosed]
    refine ⟨fun _ => Or.inl rfl, fun _ => ?_⟩
    rw [Silent, turn, hcursor, hnext]
    exact ⟨.over, rfl, rfl, rfl⟩
  | false =>
    have hrunning : x.response.Running x.cursor s := ⟨h.stream, hhead, Or.inl hcursor⟩
    rw [or_iff_right Bool.false_ne_true, ← Reader.next_finished_iff (s := s), Silent, turn, hcursor, hx]
    rw [hcursor] at hrunning
    rcases hn : x.response.reader.next s with ⟨e | d | _, reader, s'⟩
    · -- the iteration fails
      obtain ⟨r', hr⟩ := hrunning.next_error hn
      rw [hr]
      refine ⟨?_, ?_⟩
      · rintro ⟨g, hg, _⟩
        exact absurd hg (by simp [Except.map])
      · rintro ⟨reader', hfound⟩
        exact absurd hfound (by simp)
    · -- it hands out bytes of the body
      rw [hrunning.next_data hn]
      refine ⟨?_, ?_⟩
      · rintro ⟨g, hg, hempty, _⟩
        rw [← Except.ok.inj hg] at hempty
        exact absurd (List.isEmpty_iff.mp hempty) (Reader.remaining_next hn).1
      · rintro ⟨reader', hfound⟩
        exact absurd (Except.ok.inj (congrArg Prod.fst hfound)) Event.noConfusion
    · -- it finds the end, and the question is whether it read for that
      have hshut : s'.closed = true := by
        have hreads := (x.response.reader.reads_next s).uses.closed
        rw [hn] at hreads
        exact hreads.trans hclosed
      rw [hrunning.next_finished hn]
      refine ⟨?_, ?_⟩
      · rintro ⟨g, _, _, hstream⟩
        have hs' : s'.close = s := hstream
        rw [hsame hshut] at hs'
        exact ⟨reader, by rw [hs']⟩
      · rintro ⟨reader', hfound⟩
        have hs' : s' = s := congrArg (fun found => found.2.2) hfound
        refine ⟨.over, rfl, rfl, ?_⟩
        show s'.close = s
        rw [hs', hsame hclosed]

/-! ## A closed response

  The two cases together, for a response that was closed by its caller and for one that came to its end. -/

/-- What is left to a caller whose response has closed its stream. -/
structure Ended (x : Session) : Prop where
  /-- the stream is never opened again -/
  closed : ∀ turns, (x.after turns).stream.closed = true
  /-- every turn is silent, but for going on in the middle of the body where the end is not in sight -/
  silent_iff : ∀ turns t, (x.after turns).Silent t ↔
    (t = .next → (x.after turns).cursor = .running → (x.after turns).response.isHead = true ∨
      ∃ reader, (x.after turns).response.reader.step = .event .finished reader)
  /-- where no iteration stands in the middle of the body, there is nothing but silence -/
  quiet : x.cursor ≠ .running → ∀ turns, (x.after turns).stream = x.stream ∧ ∀ t, (x.after turns).Silent t

/-- All that is left to a caller, read off what every turn does. -/
theorem ended_of_minds (h : x.response.Minds s) (hclosed : s.closed = true) : x.Ended := by
  refine ⟨?closed, ?silent_iff, ?quiet⟩
  case closed =>
    intro turns
    obtain ⟨s', hminds, hlast⟩ := minds_after h turns
    rw [stream_of_minds hminds]
    exact hlast hclosed
  case silent_iff =>
    intro turns t
    obtain ⟨s', hminds, hlast⟩ := minds_after h turns
    by_cases ht : t = .next ∧ (x.after turns).cursor = .running
    · obtain ⟨rfl, hcursor⟩ := ht
      rw [silent_next_iff hminds (hlast hclosed) hcursor]
      exact ⟨fun hend _ _ => hend, fun hend => hend rfl hcursor⟩
    · have hne : t = .next → (x.after turns).cursor ≠ .running := fun htn hc => ht ⟨htn, hc⟩
      exact ⟨fun _ htn hc => absurd hc (hne htn), fun _ => (silent_of_minds hminds (hlast hclosed) hne).1⟩
  case quiet =>
    intro hcursor turns
    obtain ⟨hresponse, hlast⟩ := after_of_minds h hclosed hcursor turns
    have hminds : (x.after turns).response.Minds s := hresponse ▸ h
    refine ⟨?_, fun t => (silent_of_minds hminds hclosed fun _ => hlast).1⟩
    rw [stream_of_minds hminds, stream_of_minds h]

variable {r : Response} {isHead : Bool}

/-- **A response that has closed its stream is finished**, whatever its caller did before and does then, except for an
    iteration that was left in the middle of the body: it is not told, and goes on. -/
theorem ended_of_closed (hopen : s.closed = false) (before : List Turn)
    (hclosed : ((ofAttached r s isHead).after before).stream.closed = true) :
    ((ofAttached r s isHead).after before).Ended := by
  have hminds : (ofAttached r s isHead).response.Minds s :=
    ⟨rfl, fun h => absurd (hopen.symm.trans h) Bool.false_ne_true⟩
  obtain ⟨s', hlast, _⟩ := minds_after hminds before
  rw [stream_of_minds hlast] at hclosed
  exact ended_of_minds hlast hclosed

end Session

/-- A stream with a body that comes in two pieces. -/
def halvedStream : Stream :=
  { incoming := ["HTTP/1.1 200 OK\r\nContent-Length: 6\r\n\r\nabc", "def"].map fun piece =>
      .bytes (piece.toList.map fun c => c.toNat.toUInt8) }

/-- A response that is closed in the middle of the body, and a new iteration over it. -/
theorem Session.ended_of_restart :
    ∃ r s, Response.beginRead halvedStream hostileUrl "get".toList = (.ok r, s) ∧
      ((ofAttached r s false).after [.next, .close, .restart]).Ended := by
  have hrun : ((Response.beginRead halvedStream hostileUrl "get".toList).1.toOption.any fun r =>
      decide ((Response.beginRead halvedStream hostileUrl "get".toList).2.closed = false ∧
        ((ofAttached r (Response.beginRead halvedStream hostileUrl "get".toList).2 false).after
          [.next, .close, .restart]).stream.closed = true)) = true := by decide +kernel
  rw [Option.any_eq_true] at hrun
  obtain ⟨r, hok, hrest⟩ := hrun
  obtain ⟨hopen, hclosed⟩ := of_decide_eq_true hrest
  exact ⟨r, _, Prod.ext (toOption_eq_some_iff.mp hok) rfl, ended_of_closed hopen _ hclosed⟩

/-- The iteration that was in the middle of it goes on, and hands out what comes. -/
theorem Session.goes_on_after_close :
    ∃ r s, Response.beginRead halvedStream hostileUrl "get".toList = (.ok r, s) ∧
      ((ofAttached r s false).after [.next, .close]).stream.closed = true ∧
      (((ofAttached r s false).after [.next, .close]).turn .next).1 = .ok (.piece [100, 101, 102]) ∧
      ¬ ((ofAttached r s false).after [.next, .close]).Silent .next := by
  have hrun : ((Response.beginRead halvedStream hostileUrl "get".toList).1.toOption.any fun r =>
      ((ofAttached r (Response.beginRead halvedStream hostileUrl "get".toList).2 false).after
        [.next, .close]).stream.closed &&
      (((ofAttached r (Response.beginRead halvedStream hostileUrl "get".toList).2 false).after
        [.next, .close]).turn .next).1.toOption == some (.piece [100, 101, 102])) = true := by decide +kernel
  rw [Option.any_eq_true] at hrun
  obtain ⟨r, hok, hrest⟩ := hrun
  rw [Bool.and_eq_true, beq_iff_eq, toOption_eq_some_iff] at hrest
  refine ⟨r, _, Prod.ext (toOption_eq_some_iff.mp hok) rfl, hrest.1, hrest.2, ?_⟩
  rintro ⟨g, hg, hempty, _⟩
  rw [hrest.2] at hg
  rw [← Except.ok.inj hg] at hempty
  exact absurd hempty Bool.false_ne_true

end Courier
