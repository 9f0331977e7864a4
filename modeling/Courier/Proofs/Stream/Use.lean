/-
  What becomes of a stream between its opening and its end.

  Reading a response reads and does nothing else; sending a body writes and does nothing else.  `Stream.Reads` and
  `Stream.Uses` say so as relations between what a stream was and what it has become, and each function of the
  library that works on a stream has one lemma here that names the relation it keeps to.  What holds after any read
  and any write then holds after a head, after a body and after both: nothing was written by reading
  (`Reads.frames`), nothing was closed by either (`Uses.closed`), and no record of what was asked is lost
  (`Uses.later`).

  The relations are chains of single steps, so a fact about them is proved for one read and one write and then by
  induction.  A function is shown to keep to a relation once, along its own recursion: reading a head
  (`reads_readHead`), the first answer (`Response.reads_beginRead`), the items of a body (`Reader.reads_next`),
  writing the frames of one (`Body.uses_writeAll`).

  `Stream.Later` is what is left when a stream may have been closed too: it is the same connection, and its record
  has only grown.  A response may close its stream at the end of its body or at a fault, so this is what is known of
  a response whose body was read (`later_next`, `later_readUpTo`).  It is enough to say that the stream of a hop is
  still there at the end of a journey, with everything that was written on it.

  The last part is about responses.  Going on with an iteration finds it over or reads on (`next_cases`), and so
  what reading on keeps, any iteration keeps (`keeps_next`).
-/
import Courier.Response.Basic
import Courier.Request.Body
import Mathlib.Logic.Relation

namespace Courier

namespace Stream

/-! ## A stream and what it has become

  `Reads` is the strongest of three relations, `Uses` comes next, and `Later` holds as soon as the connection is the
  same one.  `Frames` is what reading means for the writer: nothing was written, and the next write fares as it
  would have. -/

/-- The same connection, with more asked of it. -/
structure Later (s s' : Stream) : Prop where
  host : s'.host = s.host
  port : s'.port = s.port
  timeouts : s'.timeouts = s.timeouts
  connected : s'.connected = s.connected
  calls : s.calls <+: s'.calls

/-- Nothing but reads in between. -/
def Reads : Stream → Stream → Prop := Relation.ReflTransGen fun s s' => s' = s.read.2

/-- Nothing but reads and writes in between. -/
def Uses : Stream → Stream → Prop :=
  Relation.ReflTransGen fun s s' => s' = s.read.2 ∨ ∃ data, s' = (s.write data).2

/-- Nothing was written in between, and writing fares as before. -/
structure Frames (s s' : Stream) : Prop where
  written : s'.written = s.written
  writeFault : s'.writeFault = s.writeFault

variable {s s' s'' : Stream}

/-- Nothing need have happened. -/
theorem Later.refl (s : Stream) : s.Later s := ⟨rfl, rfl, rfl, rfl, List.prefix_rfl⟩

/-- What comes later than a later stream comes later. -/
theorem Later.trans (h : s.Later s') (h' : s'.Later s'') : s.Later s'' :=
  ⟨h'.host.trans h.host, h'.port.trans h.port, h'.timeouts.trans h.timeouts, h'.connected.trans h.connected,
    h.calls.trans h'.calls⟩

/-- One call more in the record. -/
theorem later_note (s : Stream) (c : Call) : s.Later (s.note c) := ⟨rfl, rfl, rfl, rfl, List.prefix_append _ _⟩

/-- No call but the closing one closes a stream. -/
theorem closed_note (s : Stream) {c : Call} (h : c ≠ .close) : (s.note c).closed = s.closed := by
  have hc : (Call.close == c) = false := beq_eq_false_iff_ne.mpr (Ne.symm h)
  rw [closed, note, List.contains_append, List.contains_cons, hc]
  exact Bool.or_false _

/-- What was written earlier stays written. -/
theorem Later.written (h : s.Later s') : s.written <+: s'.written := by
  obtain ⟨more, hcalls⟩ := h.calls
  refine ⟨more.flatMap Call.payload, ?_⟩
  rw [Stream.written, Stream.written, ← hcalls, List.flatMap_append]

/-- Closing a stream leaves the same connection, closed. -/
theorem later_close (s : Stream) : s.Later s.close := by
  rw [close]
  split
  · exact .refl s
  · exact s.later_note _

/-! ## One read, one write

  The two steps that all relations are made of. -/

theorem later_read (s : Stream) : s.Later s.read.2 := ⟨rfl, rfl, rfl, rfl, List.prefix_append _ _⟩

/-- Reading does not close a stream. -/
theorem closed_read (s : Stream) : s.read.2.closed = s.closed :=
  s.closed_note (c := .read readSize s.timeouts.read) Call.noConfusion

/-- A write leaves the stream as it was, or notes what was written. -/
theorem write_cases (s : Stream) (data : Bytes) :
    (s.write data).2 = s ∨
      ∃ writeFault, (s.write data).2 = { (s.note (.write data s.timeouts.write)) with writeFault } := by
  rw [write]
  split
  · exact Or.inl rfl
  · rw [writeRaw]
    split
    · exact Or.inl rfl
    · exact Or.inr ⟨_, rfl⟩
    · exact Or.inr ⟨s.writeFault, rfl⟩

/-- Writing leaves the same connection, with what was written in the record. -/
theorem later_write (s : Stream) (data : Bytes) : s.Later (s.write data).2 := by
  rcases s.write_cases data with h | ⟨fault, h⟩
  · rw [h]
    exact .refl s
  · rw [h]
    exact ⟨rfl, rfl, rfl, rfl, List.prefix_append _ _⟩

/-- Writing does not close a stream. -/
theorem closed_write (s : Stream) (data : Bytes) : (s.write data).2.closed = s.closed := by
  rcases s.write_cases data with h | ⟨fault, h⟩
  · rw [h]
  · rw [h]
    exact s.closed_note (c := .write data s.timeouts.write) Call.noConfusion

/-- Data is written whole or not at all. -/
theorem written_write_cases (s : Stream) (data : Bytes) :
    (∃ s', s.write data = (.ok (), s') ∧ s'.written = s.written ++ data) ∨ ∃ f, s.write data = (.error f, s) := by
  rw [write]
  split
  · -- without data nothing is asked of the connection
    rename_i hempty
    refine Or.inl ⟨s, rfl, ?_⟩
    rw [List.isEmpty_iff.mp hempty, List.append_nil]
  · rw [writeRaw]
    split
    · exact Or.inr ⟨_, rfl⟩
    · exact Or.inl ⟨_, rfl, s.written_note _⟩
    · exact Or.inl ⟨_, rfl, s.written_note _⟩

/-! ## Reading and using

  Chains of steps, and what a chain of steps keeps because one step keeps it. -/

theorem Reads.refl (s : Stream) : s.Reads s := Relation.ReflTransGen.refl

theorem Uses.refl (s : Stream) : s.Uses s := Relation.ReflTransGen.refl

theorem Reads.trans (h : s.Reads s') (h' : s'.Reads s'') : s.Reads s'' := Relation.ReflTransGen.trans h h'

theorem Uses.trans (h : s.Uses s') (h' : s'.Uses s'') : s.Uses s'' := Relation.ReflTransGen.trans h h'

theorem reads_read (s : Stream) : s.Reads s.read.2 := Relation.ReflTransGen.single rfl

theorem uses_write (s : Stream) (data : Bytes) : s.Uses (s.write data).2 :=
  Relation.ReflTransGen.single (Or.inr ⟨data, rfl⟩)

/-- Who only reads neither closes nor writes. -/
theorem Reads.uses (h : s.Reads s') : s.Uses s' := Relation.ReflTransGen.mono (fun _ _ => Or.inl) _ _ h

/-- Reading writes nothing. -/
theorem Reads.frames (h : s.Reads s') : s.Frames s' := by
  induction h with
  | refl => exact ⟨rfl, rfl⟩
  | tail _ step ih =>
    rename_i t t' _
    have hwritten : t.read.2.written = t.written := by
      show (t.note _).written = t.written
      rw [written_note]
      exact List.append_nil _
    rw [step]
    exact ⟨hwritten.trans ih.written, ih.writeFault⟩

/-- **What is used is the same connection**, and its record only grows. -/
theorem Uses.later (h : s.Uses s') : s.Later s' := by
  induction h with
  | refl => exact .refl s
  | tail _ step ih =>
    rename_i t t' _
    rcases step with rfl | ⟨data, rfl⟩
    · exact ih.trans t.later_read
    · exact ih.trans (t.later_write data)

/-- Neither reading nor writing closes a stream. -/
theorem Uses.closed (h : s.Uses s') : s'.closed = s.closed := by
  induction h with
  | refl => rfl
  | tail _ step ih =>
    rename_i t t' _
    rcases step with rfl | ⟨data, rfl⟩
    · exact t.closed_read.trans ih
    · exact (t.closed_write data).trans ih

end Stream

/-! ## Reading a response

  One lemma for each function that reads, along its own recursion. -/

/-- Filling an inbox is a read at most. -/
theorem Inbox.reads_fill (inbox : Inbox) (s : Stream) : s.Reads (inbox.fill s).2 := by
  rw [fill]
  split
  · exact .refl s
  · split
    · exact .refl s
    · have h := s.reads_read
      split
      · rename_i hread
        rw [hread] at h
        exact h
      · rename_i hread
        rw [hread] at h
        exact h

/-- Reading a head only reads, whatever it finds. -/
theorem reads_readHead (inbox : Inbox) (s : Stream) : s.Reads (readHead inbox s).2 := by
  fun_induction readHead inbox s with
  | case1 inbox s => exact .refl s
  | case2 inbox s => exact .refl s
  | case3 inbox s => exact .refl s
  -- an interim head is passed over with nothing read
  | case4 inbox s lines rest hb head hh hi hs hlt ih => exact ih
  | case5 inbox s => exact .refl s
  | case6 inbox s => exact .refl s
  | case7 inbox s hb hc he e s' hf =>
    have h := inbox.reads_fill s
    rw [hf] at h
    exact h
  -- one read more, and on with what is there then
  | case8 inbox s hb hc he inbox' s' hf hlt ih =>
    have h := inbox.reads_fill s
    rw [hf] at h
    exact h.trans ih

/-- Beginning to read an answer only reads. -/
theorem Response.reads_beginRead (s : Stream) (url : Url) (method : Text) :
    s.Reads (beginRead s url method).2 := by
  rw [beginRead]
  split
  · exact .refl s
  · have h := reads_readHead {} s
    split
    · rename_i hread
      rw [hread] at h
      exact h
    · rename_i hread
      rw [hread] at h
      exact h

/-- Going on with a body only reads. -/
theorem Reader.reads_next (r : Reader) (s : Stream) : s.Reads (r.next s).2.2 := by
  fun_induction next r s with
  | case1 r s => exact .refl s
  | case2 r s => exact .refl s
  | case3 r s waiting hstep v s' hfill =>
    have h := waiting.inbox.reads_fill s
    rw [hfill] at h
    exact h
  | case4 r s waiting hstep f s' hfill =>
    have h := waiting.inbox.reads_fill s
    rw [hfill] at h
    exact h
  -- the reader waits for more, and goes on when it is there
  | case5 r s waiting hstep inbox s' hfill hlt ih =>
    have h := waiting.inbox.reads_fill s
    rw [hfill] at h
    exact h.trans ih

/-! ## Sending a body

  Writing stops at the first write that fails, and what was written is in the record. -/

/-- Writing frames writes as many as the stream takes. -/
theorem Body.uses_writeAll (s : Stream) (script : Script) : s.Uses (writeAll s script).2 := by
  induction script generalizing s with
  | nil => exact .refl s
  | cons p rest ih =>
    cases p with
    | fault f => exact .refl s
    | bytes b =>
      have h := s.uses_write b
      rw [writeAll]
      split
      · rename_i s' hwrite
        rw [hwrite] at h
        exact h.trans (ih s')
      · rename_i hwrite
        rw [hwrite] at h
        exact h

/-- Sending a body only writes. -/
theorem Body.uses_send (body : Body) (chunked : Bool) (s : Stream) : s.Uses (body.send chunked s).2 :=
  uses_writeAll s _

/-! ## The stream of a response

  A response holds its stream and may close it.  What it holds afterwards is still the stream that it was given. -/

namespace Response

variable {P : Response → Prop} {r : Response} {s : Stream}

/-- Where an iteration stands after what it has given. -/
def Cursor.following : Except Failure (Option Bytes) → Cursor
  | .ok (some _) => .running
  | .ok none | .error _ => .spent

/-- What an iteration gives says where it stands afterwards. -/
theorem advance_eq (r : Response) (s : Stream) :
    r.advance s = ((r.resume s).1, Cursor.following (r.resume s).1, (r.resume s).2) := by
  rw [advance]
  split
  · rename_i hr
    rw [hr]
    rfl
  · rename_i hr
    rw [hr]
    rfl
  · rename_i hr
    rw [hr]
    rfl

/-- Going on with an iteration finds it over at once, or reads on. -/
theorem next_cases (r : Response) (cursor : Cursor) :
    ((cursor = .spent ∨ r.stream = none ∨ cursor = .fresh ∧ r.done = true) ∧ r.next cursor = (.ok none, .spent, r)) ∨
      ∃ s, r.stream = some s ∧
        r.next cursor = ((r.resume s).1, Cursor.following (r.resume s).1, (r.resume s).2) := by
  unfold next
  split
  · exact Or.inl ⟨Or.inl rfl, rfl⟩
  · exact Or.inl ⟨Or.inr (Or.inl ‹_›), rfl⟩
  · split
    · exact Or.inl ⟨Or.inr (Or.inr ⟨rfl, ‹_›⟩), rfl⟩
    · exact Or.inr ⟨_, ‹_›, advance_eq r _⟩
  · exact Or.inr ⟨_, ‹_›, advance_eq r _⟩

/-- What reading on keeps, going on with any iteration keeps. -/
theorem keeps_next (hresume : ∀ r s, r.stream = some s → P r → P (r.resume s).2) (h : P r) (cursor : Cursor) :
    P (r.next cursor).2.2 := by
  rcases r.next_cases cursor with ⟨_, hnext⟩ | ⟨s, hs, hnext⟩
  · rw [hnext]
    exact h
  · rw [hnext]
    exact hresume r s hs h

theorem later_close (h : r.stream = some s) : ∃ s', r.close.stream = some s' ∧ s.Later s' ∧ s'.closed = true :=
  ⟨s.close, by rw [close, h]; rfl, s.later_close, s.closed_close⟩

/-- Reading on keeps the stream of a response, though it may close it. -/
theorem later_resume (h : r.stream = some s) : ∃ s', (r.resume s).2.stream = some s' ∧ s.Later s' := by
  rw [resume]
  split
  · obtain ⟨s', hs', hlater, _⟩ := r.later_close h
    exact ⟨s', hs', hlater⟩
  · have hreads := (r.reader.reads_next s).uses.later
    split
    · -- an item: the stream stays open
      rename_i hnext
      rw [hnext] at hreads
      exact ⟨_, rfl, hreads⟩
    · rename_i hnext
      rw [hnext] at hreads
      exact ⟨_, rfl, hreads.trans (Stream.later_close _)⟩
    · rename_i hnext
      rw [hnext] at hreads
      dsimp only
      split
      · exact ⟨_, rfl, hreads.trans (Stream.later_close _)⟩
      · exact ⟨_, rfl, hreads⟩

/-- A response keeps its stream, whatever an iteration over its body does. -/
theorem later_next (h : r.stream = some s) (cursor : Cursor) :
    ∃ s', (r.next cursor).2.2.stream = some s' ∧ s.Later s' := by
  refine keeps_next (P := fun r => ∃ s', r.stream = some s' ∧ s.Later s') ?_ ⟨s, h, .refl s⟩ cursor
  rintro r t ht ⟨s', hs', hlater⟩
  obtain ⟨s'', hs'', hlater'⟩ := later_resume hs'
  rw [hs', Option.some.injEq] at ht
  exact ⟨s'', ht ▸ hs'', hlater.trans hlater'⟩

theorem later_drainUpTo (h : r.stream = some s) (cursor : Cursor) (limit : Nat) (pieces : List Bytes)
    (size : Nat) :
    ∃ s', (r.drainUpTo cursor limit pieces size).2.stream = some s' ∧ s.Later s' := by
  fun_induction drainUpTo r cursor limit pieces size generalizing s with
  | case1 r cursor pieces size e c r' hnext =>
    have hlater := later_next h cursor
    rw [hnext] at hlater
    exact hlater
  | case2 r cursor pieces size c r' hnext =>
    have hlater := later_next h cursor
    rw [hnext] at hlater
    exact hlater
  | case3 r cursor pieces size b c r' hnext hlong =>
    have hlater := later_next h cursor
    rw [hnext] at hlater
    exact hlater
  | case4 r cursor pieces size b c r' hnext hlong hlt ih =>
    obtain ⟨s₁, hs₁, hlater⟩ := later_next h cursor
    rw [hnext] at hs₁
    obtain ⟨s₂, hs₂, hlater₂⟩ := ih hs₁
    exact ⟨s₂, hs₂, hlater.trans hlater₂⟩

/-- Reading up to a limit keeps the stream of a response. -/
theorem later_readUpTo (h : r.stream = some s) (limit : Nat) :
    ∃ s', (r.readUpTo limit).2.stream = some s' ∧ s.Later s' := by
  have hdrain := later_drainUpTo h .fresh limit [] 0
  rw [readUpTo]
  split
  · rename_i hr
    rw [hr] at hdrain
    exact hdrain
  · rename_i hr
    rw [hr] at hdrain
    exact hdrain

end Response

end Courier
