/-
  What is written for a body.

  `Body.wire` is the form of a whole body on its connection, said without pieces and writes: the bytes themselves,
  or a chunk for every piece that is not empty and the end of the chunks.  It is what the other modules say of a
  body, and this one is what connects it with the writes that the program makes.

  * A body is sent as a list of frames, each written at once.  The bytes of the frames are the form of the body
    (`data_frames`), whatever its source: bytes at hand, the pieces of a list or an iteration, or the pieces in
    which a file is read (`data_script`, `flatten_blocks`).

  * On a stream that takes writes, sending a body whose source gives bytes only appends exactly that
    (`Body.send_written`).

  * On any stream, and for any source, it appends a beginning of that (`Body.Sends.isPrefix`): a write that fails
    has written nothing, so what is there is the frames before it.

  `Body.Sends` says of bytes that they are what some stream has got of a body.  It is weak on purpose: it keeps what
  is written and forgets where and why the sending stopped.
-/
import Courier.Proofs.Response.Feed
import Courier.Proofs.Stream.Use
import Courier.Request.Body

namespace Courier

/-! ## Writing

  What is written for a body is the concatenation of its frames, and the frames are made from the pieces that its
  source gives. -/

/-- A write on a stream that takes writes. -/
theorem Stream.write_written {s : Stream} (hs : s.writeFault = none) (data : Bytes) :
    ∃ s', s.write data = (.ok (), s') ∧ s'.written = s.written ++ data ∧ s'.writeFault = none := by
  rw [write]
  split
  · -- nothing to write is not written at all
    rename_i hempty
    refine ⟨s, rfl, ?_, hs⟩
    rw [List.isEmpty_iff.mp hempty, List.append_nil]
  · rw [writeRaw, hs]
    exact ⟨_, rfl, s.written_note _, hs⟩

namespace Body

/-- A body whose source gives bytes whenever it is asked. -/
def Faultless (body : Body) : Prop := ∀ p ∈ body.script, ∃ b, p = .bytes b

/-- All bytes of a body, from where its source stands. -/
def content (body : Body) : Bytes :=
  match body.source with
  | .whole b | .file b => b
  | .pieces ps | .once ps => Script.data ps

/-- The pieces in which a source gives them. -/
def blocks (body : Body) : List Bytes :=
  body.script.filterMap fun
    | .bytes b => some b
    | .fault _ => none

/-- The form of a whole body on its connection: the bytes themselves, or a chunk for every piece that is not
    empty and then the end of the chunks. -/
def wire (body : Body) (chunked : Bool) : Bytes :=
  if chunked then (body.blocks.filter fun b => !b.isEmpty).flatMap chunk ++ lastChunk else body.content

theorem data_cutPieces (more : Nat) (done : Script) (b : Bytes) :
    (cutPieces more done b).data = Script.data done.reverse ++ b := by
  fun_induction cutPieces more done b with
  | case1 done => rw [List.append_nil]
  | case2 done b hb hlt ih =>
    have hone : Script.data [.bytes (b.take (more + 1))] = b.take (more + 1) := List.append_nil _
    rw [ih, List.reverse_cons, Script.data_append, hone, List.append_assoc, List.take_append_drop]

/-- The pieces of every source hold its content. -/
theorem data_script (body : Body) : body.script.data = body.content := by
  rw [script, content]
  split
  · rename_i h
    rw [h]
    rfl
  · rename_i h
    rw [h]
    exact List.append_nil _
  · rename_i h
    rw [h]
  · rename_i h
    rw [h]
    exact data_cutPieces _ [] _
  · rename_i h
    rw [h]

theorem flatten_blocks (body : Body) : body.blocks.flatten = body.content := by
  rw [← data_script, blocks]
  induction body.script with
  | nil => rfl
  | cons p t ih =>
    cases p with
    | fault f => exact ih
    | bytes b => exact congrArg (b ++ ·) ih

/-- What is written in the end is the form of the whole body. -/
theorem data_frames (body : Body) (chunked : Bool) : (body.frames chunked).data = body.wire chunked := by
  rw [frames, Script.data_append, wire]
  cases chunked with
  -- in the plain framing a piece is its own frame
  | false =>
    rw [if_neg Bool.false_ne_true, if_neg Bool.false_ne_true, ← data_script]
    show Script.data (body.script.filterMap (frame? false)) ++ [] = body.script.data
    rw [List.append_nil]
    induction body.script with
    | nil => rfl
    | cons p t ih =>
      cases p with
      | fault f => exact ih
      | bytes b => exact congrArg (b ++ ·) ih
  | true =>
    have hlast : Script.data [.bytes lastChunk] = lastChunk := List.append_nil _
    rw [if_pos rfl, if_pos rfl, blocks, hlast]
    refine congrArg (· ++ lastChunk) ?_
    induction body.script with
    | nil => rfl
    | cons p t ih =>
      cases p with
      | fault f => exact ih
      | bytes b =>
        cases hb : b.isEmpty with
        | true =>
          -- an empty piece has no frame: its chunk would end the body
          have hframe : frame? true (.bytes b) = none := by rw [frame?, hb]; rfl
          rw [List.filterMap_cons_none hframe]
          simp only [List.filterMap_cons, List.filter_cons, hb]
          exact ih
        | false =>
          have hframe : frame? true (.bytes b) = some (.bytes (chunk b)) := by rw [frame?, hb]; rfl
          rw [List.filterMap_cons_some hframe]
          simp only [List.filterMap_cons, List.filter_cons, hb]
          exact congrArg (chunk b ++ ·) ih

/-- The frames of a body whose source gives bytes are bytes. -/
theorem faultless_frames {body : Body} (h : body.Faultless) (chunked : Bool) :
    ∀ p ∈ body.frames chunked, ∃ b, p = .bytes b := by
  intro p hp
  rcases List.mem_append.mp hp with hp | hp
  · obtain ⟨q, hq, hframe⟩ := List.mem_filterMap.mp hp
    obtain ⟨b, rfl⟩ := h q hq
    rw [frame?] at hframe
    split at hframe
    · exact ⟨b, (Option.some.inj hframe).symm⟩
    · split at hframe
      · exact absurd hframe (by simp)
      · exact ⟨_, (Option.some.inj hframe).symm⟩
  · cases chunked with
    | false => exact absurd hp List.not_mem_nil
    | true => exact ⟨lastChunk, List.mem_singleton.mp hp⟩

/-- Frames are written one after the other on a stream that takes them. -/
theorem writeAll_written {script : Script} {s : Stream} (hs : s.writeFault = none)
    (hscript : ∀ p ∈ script, ∃ b, p = .bytes b) :
    ∃ s', writeAll s script = (.ok (), s') ∧ s'.written = s.written ++ script.data ∧
      s'.writeFault = none := by
  induction script generalizing s with
  | nil => exact ⟨s, rfl, (List.append_nil _).symm, hs⟩
  | cons p rest ih =>
    obtain ⟨b, rfl⟩ := hscript p (List.mem_cons_self ..)
    obtain ⟨s₁, hwrite, hwritten, hs₁⟩ := s.write_written hs b
    obtain ⟨s₂, hall, hwritten₂, hs₂⟩ := ih hs₁ fun q hq => hscript q (List.mem_cons_of_mem _ hq)
    refine ⟨s₂, ?_, ?_, hs₂⟩
    · rw [writeAll, hwrite]
      exact hall
    · rw [hwritten₂, hwritten, List.append_assoc]
      rfl

/-- **Sending appends the body, whole and once.** -/
theorem send_written {body : Body} {s : Stream} (hbody : body.Faultless) (hs : s.writeFault = none)
    (chunked : Bool) :
    ∃ s', body.send chunked s = (.ok (), s') ∧ s'.written = s.written ++ body.wire chunked := by
  obtain ⟨s', hsend, hwritten, _⟩ := writeAll_written hs (faultless_frames hbody chunked)
  rw [data_frames] at hwritten
  exact ⟨s', hsend, hwritten⟩

/-! ## On any stream

  A write may fail at any frame.  Then what is written is the front of what would have been. -/

/-- What is written for a body on some stream, whether or not sending it succeeds. -/
def Sends (body : Body) (chunked : Bool) (sent : Bytes) : Prop :=
  ∃ s : Stream, (body.send chunked s).2.written = s.written ++ sent

/-- On any stream, what is written of some frames is a beginning of them. -/
theorem exists_of_writeAll (script : Script) (s : Stream) :
    ∃ sent, (writeAll s script).2.written = s.written ++ sent ∧ sent <+: script.data := by
  induction script generalizing s with
  | nil => exact ⟨[], (List.append_nil _).symm, List.nil_prefix⟩
  | cons p rest ih =>
    cases p with
    -- the source fails here, with what was written before
    | fault f => exact ⟨[], (List.append_nil _).symm, List.nil_prefix⟩
    | bytes b =>
      rw [writeAll]
      rcases s.written_write_cases b with ⟨s', hwrite, hwritten⟩ | ⟨f, hwrite⟩
      · obtain ⟨sent, hsent, hprefix⟩ := ih s'
        rw [hwrite]
        refine ⟨b ++ sent, ?_, (List.prefix_append_right_inj b).mpr hprefix⟩
        rw [← List.append_assoc, ← hwritten]
        exact hsent
      · -- a piece is not written in part, so it ends with the pieces before
        rw [hwrite]
        exact ⟨[], (List.append_nil _).symm, List.nil_prefix⟩

theorem exists_sends (body : Body) (chunked : Bool) (s : Stream) :
    ∃ sent, (body.send chunked s).2.written = s.written ++ sent ∧ body.Sends chunked sent := by
  obtain ⟨sent, hsent, _⟩ := exists_of_writeAll (body.frames chunked) s
  exact ⟨sent, hsent, s, hsent⟩

/-- Where a fault stops the sending, the form of the body breaks off. -/
theorem Sends.isPrefix {body : Body} {chunked : Bool} {sent : Bytes} (h : body.Sends chunked sent) :
    sent <+: body.wire chunked := by
  obtain ⟨s, hs⟩ := h
  obtain ⟨sent', hsent, hprefix⟩ := exists_of_writeAll (body.frames chunked) s
  rw [send, hsent, List.append_cancel_left_eq] at hs
  rw [data_frames] at hprefix
  exact hs ▸ hprefix

/-- **Bytes at hand are sent in one write, so all of them or none.** -/
theorem eq_of_sends_ofBytes {b sent : Bytes} (h : (ofBytes b).Sends false sent) : sent = [] ∨ sent = b := by
  obtain ⟨s, hs⟩ := h
  have hframes : (ofBytes b).frames false = (if b = [] then [] else [.bytes b]) := by
    cases b <;> rfl
  rw [send, hframes] at hs
  split at hs
  · exact Or.inl (List.append_right_eq_self.mp hs.symm)
  · rw [writeAll] at hs
    rcases s.written_write_cases b with ⟨s', hwrite, hwritten⟩ | ⟨f, hwrite⟩
    · rw [hwrite] at hs
      exact Or.inr (List.append_cancel_left (hs.symm.trans hwritten))
    · rw [hwrite] at hs
      exact Or.inl (List.append_right_eq_self.mp hs.symm)

end Body

end Courier
