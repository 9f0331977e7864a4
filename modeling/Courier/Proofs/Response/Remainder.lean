/-
  What reading a body leaves behind.

  A body ends at a place in the bytes of a connection, and what stands behind that place belongs to nobody: it has
  neither been handed out nor dropped.  `Phase.left` gives those bytes for every phase of the reader, as a function
  of all the bytes that are there and that are still to come.  One step does not change what will be left, and a
  step that ends the body leaves exactly that (`Reader.step_leaves`); so does reading on (`Reader.next_leaves`), and
  so does collecting the pieces (`Response.read_leaves`).

  These are facts about a reading that comes to its end.  That it does is the matter of what the reader owes.

  The function is defined where nothing is left to be read as well, and its values there are arbitrary: bytes that
  make no body are left as they are.  So the statements need no condition, and a step that fails has nothing to keep
  (`Reader.Leaves`).

  All the arithmetic is in one lemma.  A phase that counts, such as a chunk of so many bytes, drops what it can from
  its inbox and remembers how much is still to be dropped; what comes later is dropped then.  Dropping in two parts
  is dropping both together (`drop_append_drop`), and each phase that counts is an instance of that: a length, the
  bytes of a chunk with the line end behind them, and that line end alone, which may itself come in two parts.

  The proofs follow the reader in the same order as those of what it owes, from the parts of a step to the step, and
  from the step along the recursions of `next` and of the collection.  The one invariant besides is that an inbox
  that has seen the end of its stream has nothing to come: a body that lasts to the end leaves nothing.
-/
import Courier.Proofs.Response.Body

namespace Courier

/-! ## The bytes behind a body

  Where a body ends in its bytes is a question for the reference, and what follows that place belongs to the next
  answer.  For a reader in the middle of a body the same question is asked of its phase. -/

/-- What follows a trailer. -/
def Whole.afterTrailer (b : Bytes) : Bytes :=
  match takeBlock b with
  | none => b
  | some (_, rest) => rest

/-- What follows a chunked body and its trailer. -/
def Whole.afterChunks (b : Bytes) : Bytes :=
  match h : takeLine b with
  | none => b
  | some (line, rest) =>
    match Reader.readSize? line with
    | none => b
    | some 0 => afterTrailer rest
    | some (n + 1) =>
      have : rest.length < b.length := length_lt_of_takeLine h
      afterChunks (rest.drop (n + 3))
termination_by b.length
decreasing_by rw [List.length_drop]; omega

/-- What follows the chunks, with the measure forgotten. -/
theorem Whole.afterChunks_eq (b : Bytes) :
    afterChunks b = match takeLine b with
      | none => b
      | some (line, rest) =>
        match Reader.readSize? line with
        | none => b
        | some 0 => afterTrailer rest
        | some (n + 1) => afterChunks (rest.drop (n + 3)) := by
  rw [afterChunks]
  split <;> (rename_i h; simp only [h])

/-- What is left of these bytes when a reader in this phase has read its body. -/
def Phase.left : Phase → Bytes → Bytes
  | .fixed _ n, b => b.drop n
  | .untilEnd, _ => []
  | .chunkSize, b => Whole.afterChunks b
  | .chunkData more, b => Whole.afterChunks (b.drop (more + 3))
  | .chunkFooter expected, b => Whole.afterChunks (b.drop expected.length)
  | .trailer, b => Whole.afterTrailer b
  | .tunnel, b | .finished, b | .closing, b | .failed, b => b

/-- Bytes that are dropped off the front of what is there, and then of what comes, are dropped off both. -/
theorem drop_append_drop {n k : Nat} (b more : Bytes) (hk : (b.take n).length + k = n) :
    (b.drop n ++ more).drop k = (b ++ more).drop n := by
  rw [List.length_take] at hk
  rcases Nat.lt_or_ge b.length n with hlt | hge
  · -- all that is there is dropped, and more of what comes
    have heq : n - b.length = k := by omega
    have hall : b.drop n = [] := List.drop_eq_nil_of_le (Nat.le_of_lt hlt)
    rw [hall, List.nil_append, List.drop_append, hall, List.nil_append, heq]
  · have hzero : k = 0 := by omega
    rw [hzero, List.drop_zero, List.drop_append_of_le_length hge]

namespace Reader

/-- A step after which reading will leave these bytes, or that ends the body and leaves them; the end of the stream
    is neither made up nor forgotten. -/
def Leaves (ended : Bool) (more left : Bytes) : Step → Prop
  | .event (.data _) r => r.inbox.ended = ended ∧ r.phase.left (r.inbox.buffer ++ more) = left
  | .event .finished r => r.inbox.buffer ++ more = left
  | .waiting r => r.inbox.ended = ended ∧ r.phase.left (r.inbox.buffer ++ more) = left
  | .violation _ => True

variable {r : Reader} {more : Bytes}

/-! ## One step

  A step drops bytes off the front of what is there.  Nothing of what lies behind the body is among them, in any
  phase, and this is all that has to be seen. -/

theorem waitOr_leaves (r : Reader) (v : Violation) (more : Bytes) :
    Leaves r.inbox.ended more (r.phase.left (r.inbox.buffer ++ more)) (r.waitOr v) := by
  rw [waitOr]
  split
  · trivial
  · exact ⟨rfl, rfl⟩

/-- The bytes of a chunk are dropped as far as they are there. -/
theorem takeChunk_leaves (r : Reader) (n : Nat) (more : Bytes) :
    Leaves r.inbox.ended more ((Phase.chunkData n).left (r.inbox.buffer ++ more)) (r.takeChunk n) := by
  rw [takeChunk]
  dsimp only
  split
  · exact waitOr_leaves (r.goTo (.chunkData n) r.inbox.buffer) .shortChunks more
  · -- the chunk and its footer are dropped, in two parts
    have hlen : (r.inbox.buffer.take (n + 1)).length ≤ n + 1 := List.length_take_le _ _
    refine ⟨rfl, ?_⟩
    cases hleft : n + 1 - (r.inbox.buffer.take (n + 1)).length with
    | zero =>
      have hdrop := drop_append_drop (n := n + 1) (k := 0) r.inbox.buffer more (by omega)
      show Whole.afterChunks ((r.inbox.buffer.drop (n + 1) ++ more).drop footer.length) =
        Whole.afterChunks ((r.inbox.buffer ++ more).drop (n + 3))
      rw [List.drop_zero] at hdrop
      rw [hdrop, List.drop_drop]
      rfl
    | succ m =>
      have hdrop := drop_append_drop (n := n + 1) (k := m + 1) r.inbox.buffer more (by omega)
      show Whole.afterChunks ((r.inbox.buffer.drop (n + 1) ++ more).drop (m + 3)) =
        Whole.afterChunks ((r.inbox.buffer ++ more).drop (n + 3))
      rw [show m + 3 = (m + 1) + 2 from rfl, ← List.drop_drop, hdrop, List.drop_drop]

theorem takeTrailer_leaves (r : Reader) (more : Bytes) :
    Leaves r.inbox.ended more (Whole.afterTrailer (r.inbox.buffer ++ more)) r.takeTrailer := by
  rw [takeTrailer]
  split
  · exact waitOr_leaves (r.goTo .trailer r.inbox.buffer) .shortChunks more
  · rename_i lines rest hb
    split
    · trivial
    · show rest ++ more = Whole.afterTrailer (r.inbox.buffer ++ more)
      rw [Whole.afterTrailer, takeBlock_front.append hb more]

/-- The line of a size is dropped, and then what the size says. -/
theorem takeSize_leaves (r : Reader) (more : Bytes) :
    Leaves r.inbox.ended more (Whole.afterChunks (r.inbox.buffer ++ more)) r.takeSize := by
  rw [takeSize]
  split
  · exact waitOr_leaves (r.goTo .chunkSize r.inbox.buffer) .shortChunks more
  · rename_i line rest hb
    rw [Whole.afterChunks_eq, takeLine_front.append hb more]
    dsimp only
    rcases readSize? line with _ | _ | n
    · trivial
    · exact takeTrailer_leaves (r.goTo .trailer rest) more
    · exact takeChunk_leaves (r.goTo (.chunkData n) rest) n more

/-- The line end of a chunk is dropped as far as it is there. -/
theorem takeFooter_leaves (r : Reader) (expected more : Bytes) :
    Leaves r.inbox.ended more ((Phase.chunkFooter expected).left (r.inbox.buffer ++ more))
      (r.takeFooter expected) := by
  rw [takeFooter]
  dsimp only
  split
  · trivial
  · have hlen : (r.inbox.buffer.take expected.length).length ≤ expected.length := List.length_take_le _ _
    have hdrop := drop_append_drop (n := expected.length)
      (k := (expected.drop (r.inbox.buffer.take expected.length).length).length) r.inbox.buffer more
      (by rw [List.length_drop]; omega)
    show Leaves _ more (Whole.afterChunks ((r.inbox.buffer ++ more).drop expected.length)) _
    rw [← hdrop]
    split
    · rename_i hleft
      rw [List.isEmpty_iff.mp hleft]
      exact takeSize_leaves (r.goTo (.chunkFooter []) (r.inbox.buffer.drop expected.length)) more
    · exact waitOr_leaves
        (r.goTo (.chunkFooter (expected.drop (r.inbox.buffer.take expected.length).length))
          (r.inbox.buffer.drop expected.length)) .shortChunks more

/-- **One step does not change what will be left.** -/
theorem step_leaves (htail : r.inbox.ended = true → more = []) :
    Leaves r.inbox.ended more (r.phase.left (r.inbox.buffer ++ more)) r.step := by
  obtain ⟨inbox, phase, persistent⟩ := r
  cases phase with
  | fixed total n =>
    cases n with
    | zero => rfl
    | succ n =>
      rw [step]
      dsimp only
      split
      · exact waitOr_leaves ⟨inbox, .fixed total (n + 1), persistent⟩ _ more
      · have hlen : (inbox.buffer.take (n + 1)).length ≤ n + 1 := List.length_take_le _ _
        exact ⟨rfl, drop_append_drop (n := n + 1) inbox.buffer more (by omega)⟩
  -- such a body takes everything
  | untilEnd =>
    rw [step]
    dsimp only
    split
    · exact ⟨rfl, rfl⟩
    · split
      · rename_i hended
        exact htail hended
      · exact ⟨rfl, rfl⟩
  | chunkSize => exact takeSize_leaves ⟨inbox, .chunkSize, persistent⟩ more
  | chunkData n => exact takeChunk_leaves ⟨inbox, .chunkData n, persistent⟩ n more
  | chunkFooter expected => exact takeFooter_leaves ⟨inbox, .chunkFooter expected, persistent⟩ expected more
  | trailer => exact takeTrailer_leaves ⟨inbox, .trailer, persistent⟩ more
  | tunnel => rfl
  -- behind a body nothing is dropped any more
  | finished =>
    rw [step]
    dsimp only
    split
    · rfl
    · rename_i hb
      have hb : inbox.buffer = [] := by simpa using hb
      split
      · show [] ++ more = inbox.buffer ++ more
        rw [hb]
      · exact ⟨rfl, rfl⟩
  | closing =>
    rw [step]
    dsimp only
    split
    · trivial
    · split
      · rfl
      · exact ⟨rfl, rfl⟩
  | failed => trivial

/-! ## Reading on

  A fill puts bytes behind those that are there, so the bytes that will be left stay the same ones, although they
  come to lie in the inbox. -/

/-- Reading on from an inbox that fits its stream leaves these bytes in the end. -/
def LeavesAtLast (left : Bytes) : Except ReadFailure Event × Reader × Stream → Prop
  | (.ok (.data _), r, s) => r.inbox.Sound s ∧ r.phase.left (r.inbox.total s) = left
  | (.ok .finished, r, s) => r.inbox.total s = left
  | (.error _, _, _) => True

/-- **Reading on does not change what will be left.** -/
theorem next_leaves {s : Stream} (hs : r.inbox.Sound s) :
    LeavesAtLast (r.phase.left (r.inbox.total s)) (r.next s) := by
  have htail : r.inbox.ended = true → s.incoming.data = [] := by
    intro hended
    rw [hs.ended hended]
    rfl
  have hleaves := step_leaves htail
  -- along the recursion: steps that fail say nothing, and a read moves bytes that are counted already
  fun_induction next r s with
  | case1 r s e r' hstep =>
    rw [hstep] at hleaves
    cases e with
    | data d =>
      obtain ⟨hended, hleft⟩ := hleaves
      exact ⟨⟨hs.plain, fun he => hs.ended (hended ▸ he)⟩, hleft⟩
    | finished => exact hleaves
  | case2 r s v hstep => trivial
  | case3 r s waiting hstep v s' hfill => trivial
  | case4 r s waiting hstep f s' hfill => trivial
  | case5 r s waiting hstep inbox s' hfill hlt ih =>
    rw [hstep] at hleaves
    obtain ⟨hended, hleft⟩ := hleaves
    have hsound : waiting.inbox.Sound s := ⟨hs.plain, fun he => hs.ended (hended ▸ he)⟩
    rcases Inbox.fill_sound hsound with ⟨inbox', s'', hf, hsound', htotal⟩ | ⟨v', hf, _⟩
    · rw [hfill, Prod.mk.injEq, Except.ok.injEq] at hf
      obtain ⟨rfl, rfl⟩ := hf
      have htail' : inbox.ended = true → s'.incoming.data = [] := by
        intro he
        rw [hsound'.ended he]
        rfl
      -- the bytes have moved, and what will be left is about all of them
      have hnext := ih hsound' htail' (step_leaves (r := { waiting with inbox }) htail')
      rw [htotal] at hnext
      rw [Inbox.total, ← hleft]
      exact hnext
    · rw [hfill] at hf
      exact absurd hf (by simp)

end Reader

/-! ## All pieces of a body

  When the last piece is handed out, what is left in the inbox and on the stream is what follows the body. -/

/-- The bytes of a connection that a response has not read. -/
def Response.unread (r : Response) : Bytes :=
  r.reader.inbox.buffer ++ match r.stream with
    | some s => s.incoming.data
    | none => []

/-- Closing a stream drops nothing of what it had to come. -/
theorem Stream.incoming_close (s : Stream) : s.close.incoming = s.incoming := by
  rw [close]
  split
  · rfl
  · rfl

namespace Response

variable {r r' : Response} {cursor : Cursor} {s : Stream}

/-- Collecting the pieces leaves what the reader leaves. -/
theorem drainFrom_leaves {pieces ps : List Bytes} (h : r.Running cursor s) (hs : r.reader.inbox.Sound s)
    (hread : r.drainFrom cursor pieces = (.ok ps, r')) :
    r'.unread = r.reader.phase.left (r.reader.inbox.total s) := by
  fun_induction drainFrom r cursor pieces generalizing s with
  | case1 r cursor pieces e c r₁ hnext => exact absurd hread (by simp)
  | case2 r cursor pieces c r₁ hnext =>
    rw [Prod.mk.injEq] at hread
    have hleaves := Reader.next_leaves hs
    rcases hn : r.reader.next s with ⟨e | d | _, reader, s'⟩
    · obtain ⟨r₂, hr⟩ := h.next_error hn
      rw [hr] at hnext
      exact absurd hnext (by simp)
    · rw [h.next_data hn] at hnext
      exact absurd hnext (by simp)
    · -- the end of the body: the stream is closed, and its bytes stay
      rw [h.next_finished hn, Prod.mk.injEq, Prod.mk.injEq] at hnext
      rw [hn] at hleaves
      rw [← hread.2, ← hnext.2.2, ← hleaves]
      show reader.inbox.buffer ++ s'.close.incoming.data = reader.inbox.buffer ++ s'.incoming.data
      rw [s'.incoming_close]
  | case3 r cursor pieces b c r₁ hnext hlt ih =>
    have hleaves := Reader.next_leaves hs
    rcases hn : r.reader.next s with ⟨e | d | _, reader, s'⟩
    · obtain ⟨r₂, hr⟩ := h.next_error hn
      rw [hr] at hnext
      exact absurd hnext (by simp)
    · rw [h.next_data hn, Prod.mk.injEq, Prod.mk.injEq] at hnext
      obtain ⟨_, rfl, rfl⟩ := hnext
      rw [hn] at hleaves
      exact (ih ⟨rfl, h.isHead, Or.inl rfl⟩ hleaves.1 hread).trans hleaves.2
    · rw [h.next_finished hn] at hnext
      exact absurd hnext (by simp)

/-- **A body that is read leaves exactly what follows it.** -/
theorem read_leaves {body : Bytes} (h : r.Running .fresh s) (hs : r.reader.inbox.Sound s)
    (hread : r.read = (.ok body, r')) : r'.unread = r.reader.phase.left (r.reader.inbox.total s) := by
  rw [read, chunks] at hread
  rcases hdrain : r.drainFrom .fresh [] with ⟨e | ps, r₁⟩
  · rw [hdrain] at hread
    exact absurd hread (by simp)
  · rw [hdrain, Prod.mk.injEq] at hread
    rw [← hread.2]
    exact drainFrom_leaves h hs hdrain

end Response

end Courier
