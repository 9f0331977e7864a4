/-
  A body that is read with interruptions.

  A read may fail, and the next one may succeed: what arrives then is what would have arrived.  So a script is worth
  its pieces and its faults take nothing off it (`Script.data`), and a reader that was interrupted still owes what
  it owed.

  A reader is live while it owes a rest of its body (`Reader.Live`), and mute behind the body and after a failure
  (`Reader.Mute`).  The crux is that a mute reader hands nothing out, whatever is on the stream and however often it
  is asked: several iterations share it, and one that is behind the others still asks.

  `Live.next_advances` is what one event does to a live reader: bytes that are handed out come off the front of the
  rest, the end comes when there is no rest, and a fault takes nothing.  It fails for good only where an item of the
  body is too long for a reader to hold.

  What one step on the bytes at hand does is proved in the module on bodies (`Reader.step_pays`), for any bytes that
  may still come.  So three things are left for this one.

  1. Reads.  `Inbox.Refills` lists the outcomes of a read: more bytes with the total as it was, a fault that takes
     nothing, and a refusal with its reason.  It is the same list as for scripts without faults, with one entry
     more.

  2. The step that ends a body, which has to lead behind it (`Reader.EndsOver`), for otherwise the next step would
     read on.  There is one lemma for every part of a step, in the order in which they call one another.

  3. Mute readers.  Behind its body a reader only looks at whether something follows that should not, and waits; it
     does not go back (`Reader.step_idles`).  `next_of_mute` is the induction, and has to allow for bytes that
     arrive meanwhile.

  Then the events of a live reader are those of its steps, along the recursion of `next`: five cases, of which the
  refusal is the only one that needs an argument of its own (`Live.refused`).
-/
import Courier.Proofs.Response.Remainder
import Courier.Proofs.Response.Segmentation

namespace Courier

/-! ## Scripts with faults

  A fault may stand anywhere in a script, and a read that meets it fails and takes nothing.  After that the caller
  may read again, and the bytes behind the fault are still to come.  So what is to come is stated with the faults
  left out, and a fill that fails leaves it as it was. -/

/-- A script in which no piece is empty, so that only its end reads as the end.  Faults may stand anywhere. -/
def Script.Unbroken (script : Script) : Prop := ∀ p ∈ script, p ≠ .bytes []

theorem Script.Unbroken.plain {script : Script} (h : script.Unbroken) (hfaults : ∀ f, Piece.fault f ∉ script) :
    script.Plain := by
  intro p hp
  cases p with
  | bytes b =>
    refine ⟨b, ?_, rfl⟩
    rintro rfl
    exact h _ hp rfl
  | fault f => exact absurd hp (hfaults f)

/-- A read of such a script hands out its first bytes, and none only at its end; or it fails, and takes none. -/
theorem Stream.read_unbroken {s : Stream} (h : s.incoming.Unbroken) :
    (∃ data s', s.read = (.ok data, s') ∧ s'.incoming.Unbroken ∧ data ++ s'.incoming.data = s.incoming.data ∧
      (data = [] → s'.incoming = [])) ∨
    (∃ f s', s.read = (.error f, s') ∧ s'.incoming.Unbroken ∧ s'.incoming.data = s.incoming.data) := by
  rw [read, readUpTo]
  generalize s.incoming = script at h ⊢
  cases script with
  | nil =>
    refine Or.inl ⟨[], _, rfl, ?_, rfl, fun _ => rfl⟩
    intro p hp
    exact absurd hp List.not_mem_nil
  | cons p rest =>
    have hrest : Script.Unbroken rest := fun q hq => h q (List.mem_cons_of_mem _ hq)
    cases p with
    | fault f => exact Or.inr ⟨f, _, rfl, hrest, rfl⟩
    | bytes b =>
      have hb : b ≠ [] := by
        intro hnil
        apply h (.bytes b) (List.mem_cons_self ..)
        rw [hnil]
      obtain ⟨data, left, htake, hne, hdata, hleft⟩ := takeScript_bytes hb rest
      rw [htake]
      refine Or.inl ⟨data, _, rfl, ?_, ?_, fun hn => absurd hn hne⟩
      · -- what is left of the piece is not empty, and the pieces behind it are not
        intro q hq hempty
        rcases List.mem_append.mp hq with hq | hq
        · obtain ⟨c, hc, rfl⟩ := hleft q hq
          exact hc (Piece.bytes.inj hempty)
        · exact hrest q hq hempty
      · show data ++ Script.data (left ++ rest) = b ++ Script.data rest
        rw [Script.data_append, ← List.append_assoc, hdata]

namespace Inbox

/-- An inbox that fits its stream: nothing can come after the end was seen. -/
structure Fits (inbox : Inbox) (s : Stream) : Prop where
  unbroken : s.incoming.Unbroken
  ended : inbox.ended = true → s.incoming = []

/-- Reading more keeps what is there and what is to come together, and a read that fails leaves both as they are; it is
    refused only while too much waits or after the end. -/
def Refills (inbox : Inbox) (s : Stream) : Except ReadFailure Inbox × Stream → Prop
  | (.ok inbox', s') => inbox'.Fits s' ∧ inbox'.total s' = inbox.total s
  | (.error (.fault _), s') => inbox.Fits s' ∧ s'.incoming.data = s.incoming.data
  | (.error (.violation _), _) => maxWaiting < inbox.buffer.length ∨ inbox.ended = true

/-- Reading more does one of these things. -/
theorem fill_refills {inbox : Inbox} {s : Stream} (h : inbox.Fits s) : inbox.Refills s (inbox.fill s) := by
  unfold fill
  split
  · exact Or.inl ‹_›
  · split
    · exact Or.inr ‹_›
    · rename_i hended
      rcases Stream.read_unbroken h.unbroken with ⟨data, s', hread, hs', hdata, hend⟩ | ⟨f, s', hread, hs', hdata⟩
      · rw [hread]
        show Fits (inbox.receive data) s' ∧ (inbox.receive data).total s' = inbox.total s
        -- a read that hands out nothing marks the end, and only that one does
        by_cases hd : data = []
        · subst hd
          refine ⟨⟨hs', fun _ => hend rfl⟩, ?_⟩
          show inbox.buffer ++ s'.incoming.data = inbox.buffer ++ s.incoming.data
          rw [← hdata, List.nil_append]
        · have hne : data.isEmpty = false := by simpa using hd
          rw [receive, hne]
          refine ⟨⟨hs', fun he => absurd he hended⟩, ?_⟩
          show (inbox.buffer ++ data) ++ s'.incoming.data = inbox.buffer ++ s.incoming.data
          rw [List.append_assoc, hdata]
      · rw [hread]
        exact ⟨⟨hs', fun he => absurd he hended⟩, hdata⟩

end Inbox

/-- **The head of an answer** that was read without a failure is the head at the front of all its bytes, and what
    follows it is there or to come. -/
theorem Whole.head?_of_readHead {inbox inbox' : Inbox} {s s' : Stream} {head : Head} (h : inbox.Fits s)
    (hread : readHead inbox s = (.ok (head, inbox'), s')) :
    head? (inbox.total s) = some (head, inbox'.total s') ∧ inbox'.Fits s' := by
  -- along the recursion: only a final head is an outcome, and the interim ones before it are passed over
  fun_induction readHead inbox s with
  | case1 inbox s lines rest hb v hv => exact absurd hread (by simp)
  | case2 inbox s lines rest hb final hh hi =>
    rw [Prod.mk.injEq, Except.ok.injEq, Prod.mk.injEq] at hread
    obtain ⟨⟨rfl, rfl⟩, rfl⟩ := hread
    exact ⟨(head?_of_final (takeBlock_front.append hb s.incoming.data) hh hi).1, h.unbroken, h.ended⟩
  | case3 inbox s lines rest hb interim hh hi hs => exact absurd hread (by simp)
  | case4 inbox s lines rest hb interim hh hi hs hlt ih =>
    rw [Inbox.total, (head?_of_interim (takeBlock_front.append hb s.incoming.data) hh hi hs).1]
    exact ih ⟨h.unbroken, h.ended⟩ hread
  | case5 inbox s hb hc => exact absurd hread (by simp)
  | case6 inbox s hb hc he => exact absurd hread (by simp)
  | case7 inbox s hb hc he e t hf => exact absurd hread (by simp)
  | case8 inbox s hb hc he inbox₁ s₁ hf hlt ih =>
    have hrefills := inbox.fill_refills h
    rw [hf] at hrefills
    obtain ⟨hfits, htotal⟩ := hrefills
    rw [← htotal]
    exact ih hfits hread

/-! ## After the end of a body

  Behind its body a reader hands nothing out any more.  That is a matter of phases: a step that ends a body leads to
  a phase that is over, and from there no step leads back.  A reader that has failed stays with its failure and
  reads nothing for it. -/

/-- A phase after the body. -/
def Phase.isOver : Phase → Bool
  | .finished | .closing | .tunnel => true
  | _ => false

namespace Reader

/-- A step that ends the body leads behind it. -/
def EndsOver : Step → Prop
  | .event .finished r => r.phase.isOver = true
  | _ => True

variable {r : Reader}

/-- To finish is to stand behind the body, with or without a next answer on the connection. -/
theorem isOver_finish (r : Reader) (buffer : Bytes) : (r.finish buffer).phase.isOver = true := by
  unfold finish goTo
  cases r.persistent with
  | true => rfl
  | false => rfl

theorem waitOr_endsOver (r : Reader) (v : Violation) : EndsOver (r.waitOr v) := by
  unfold waitOr
  split
  · trivial
  · trivial

theorem takeChunk_endsOver (r : Reader) (more : Nat) : EndsOver (r.takeChunk more) := by
  unfold takeChunk
  dsimp only
  split
  · apply waitOr_endsOver
  · trivial

/-- A chunked body ends with its trailer, also when a size or a line end leads to it. -/
theorem takeTrailer_endsOver (r : Reader) : EndsOver r.takeTrailer := by
  unfold takeTrailer
  split
  · apply waitOr_endsOver
  · split
    · trivial
    · apply isOver_finish

theorem takeSize_endsOver (r : Reader) : EndsOver r.takeSize := by
  unfold takeSize
  split
  · apply waitOr_endsOver
  · split
    · trivial
    · apply takeTrailer_endsOver
    · apply takeChunk_endsOver

theorem takeFooter_endsOver (r : Reader) (expected : Bytes) : EndsOver (r.takeFooter expected) := by
  unfold takeFooter
  dsimp only
  split
  · trivial
  · split
    · apply takeSize_endsOver
    · apply waitOr_endsOver

/-- **A step that ends a body** leads behind it. -/
theorem step_endsOver (r : Reader) : EndsOver r.step := by
  obtain ⟨inbox, phase, persistent⟩ := r
  unfold step
  cases phase with
  | fixed total n =>
    cases n with
    | zero => apply isOver_finish
    | succ n =>
      dsimp only
      split
      · apply waitOr_endsOver
      · trivial
  | untilEnd =>
    dsimp only
    split
    · trivial
    · split
      · apply isOver_finish
      · trivial
  | chunkSize => apply takeSize_endsOver
  | chunkData more => apply takeChunk_endsOver
  | chunkFooter expected => apply takeFooter_endsOver
  | trailer => apply takeTrailer_endsOver
  | finished =>
    dsimp only
    split
    · exact rfl
    · split
      · exact rfl
      · trivial
  | closing =>
    dsimp only
    split
    · trivial
    · split
      · exact rfl
      · trivial
  | tunnel => exact rfl
  | failed => trivial

/-- A reader that hands nothing out any more: it stands behind its body, or it has failed. -/
def Mute (r : Reader) : Prop := r.phase.isOver = true ∨ r.phase = .failed

/-- A step that hands nothing out, and waits in place. -/
def Idles (r : Reader) : Step → Prop
  | .event (.data _) _ => False
  | .waiting r' => r' = r
  | _ => True

/-- A mute reader takes no step forward. -/
theorem step_idles (h : r.Mute) : r.Idles r.step := by
  obtain ⟨inbox, phase, persistent⟩ := r
  -- in the other phases a body is being read
  have hlive {P : Prop} (hover : phase.isOver = false) (hfailed : phase ≠ .failed) : P :=
    h.elim (fun hb => absurd (hover.symm.trans hb) Bool.false_ne_true) fun hf => absurd hf hfailed
  unfold step
  cases phase with
  | finished =>
    dsimp only
    split
    · trivial
    · split
      · trivial
      · rfl
  | closing =>
    dsimp only
    split
    · trivial
    · split
      · trivial
      · rfl
  | tunnel => trivial
  | failed => trivial
  | fixed total n => exact hlive rfl Phase.noConfusion
  | untilEnd => exact hlive rfl Phase.noConfusion
  | chunkSize => exact hlive rfl Phase.noConfusion
  | chunkData more => exact hlive rfl Phase.noConfusion
  | chunkFooter expected => exact hlive rfl Phase.noConfusion
  | trailer => exact hlive rfl Phase.noConfusion

/-- An outcome that hands nothing out and leaves the reader mute. -/
def StaysMute : Except ReadFailure Event × Reader × Stream → Prop
  | (.ok (.data _), _, _) => False
  | (.ok .finished, r, _) | (.error _, r, _) => r.Mute

/-- **A mute reader stays mute**, whatever is on the stream. -/
theorem next_of_mute {s : Stream} (h : r.Mute) : StaysMute (r.next s) := by
  have hidles := step_idles h
  fun_induction next r s with
  | case1 r s e r' hstep =>
    have hends := r.step_endsOver
    rw [hstep] at hidles hends
    cases e with
    | data d => exact absurd hidles id
    | finished => exact Or.inl hends
  | case2 r s v hstep => exact Or.inr rfl
  | case3 r s waiting hstep v s' hfill => exact Or.inr rfl
  | case4 r s waiting hstep f s' hfill =>
    rw [hstep] at hidles
    have hsame : waiting = r := hidles
    rw [hsame]
    exact h
  -- something has arrived: the reader is where it was, with more in its inbox
  | case5 r s waiting hstep inbox s' hfill hlt ih =>
    rw [hstep] at hidles
    have hsame : waiting = r := hidles
    have hmute : Mute { waiting with inbox } := by
      rw [hsame]
      exact h
    exact ih hmute (step_idles hmute)

/-- A reader that has failed says so again, and reads nothing for it. -/
theorem next_of_failed (h : r.phase = .failed) (s : Stream) :
    r.next s = (.error (.violation .afterFailure), r.fail, s) := by
  have hstep : r.step = .violation .afterFailure := by
    unfold step
    rw [h]
  unfold next
  split
  · rename_i hs
    rw [hstep] at hs
    exact absurd hs Step.noConfusion
  · rename_i hs
    rw [hstep] at hs
    rw [Step.violation.inj hs]
  · rename_i hs
    rw [hstep] at hs
    exact absurd hs Step.noConfusion

/-! ## What is left to hand out

  The invariant of an iteration that may be interrupted: this rest of the body is owed, in the inbox and on the
  stream together.  An event takes a piece off its front, or is the end when nothing is left, or is a fault, which
  takes nothing.  The only other outcome is an item that is too long for the inbox. -/

/-- The reader, on this stream, still owes this rest of a body, with no items on the way but these. -/
structure Live (r : Reader) (s : Stream) (rest : Bytes) (items : List Bytes) : Prop where
  fits : r.inbox.Fits s
  owes : r.Owes s.incoming.data (some rest) items

/-- An item is longer than a reader may hold while it waits for the end of it. -/
def TooLong (items : List Bytes) : Prop := ∃ item ∈ items, maxWaiting < item.length

variable {s s' : Stream} {rest : Bytes} {items : List Bytes}

/-- An outcome for a live reader: what it hands out comes off the front of the rest, the end comes when there is none,
    and a fault takes nothing. -/
def Advances (rest : Bytes) (items : List Bytes) : Except ReadFailure Event × Reader × Stream → Prop
  | (.ok (.data d), r, s) => ∃ rest', rest = d ++ rest' ∧ r.Live s rest' items
  | (.ok .finished, r, _) => rest = [] ∧ r.Mute
  | (.error (.fault _), r, s) => r.Live s rest items
  | (.error (.violation _), r, _) => r.phase = .failed ∧ TooLong items

/-- A step reads nothing, so it is enough that the reader after it owes something. -/
theorem Live.moved {r' : Reader} {rest' : Bytes} (h : r.Live s rest items) (hended : r'.inbox.ended = r.inbox.ended)
    (howes : r'.Owes s.incoming.data (some rest') items) : r'.Live s rest' items :=
  ⟨⟨h.fits.unbroken, fun he => h.fits.ended (hended ▸ he)⟩, howes⟩

/-- Bytes that move from the stream to the inbox are owed as before. -/
theorem Live.filled {inbox : Inbox} (h : r.Live s rest items) (hfill : r.inbox.fill s = (.ok inbox, s')) :
    Live { r with inbox } s' rest items := by
  have hrefills := r.inbox.fill_refills h.fits
  rw [hfill] at hrefills
  obtain ⟨hfits, htotal⟩ := hrefills
  refine ⟨hfits, ?_, h.owes.live, ?_, ?_⟩
  · intro he
    rw [hfits.ended he]
    rfl
  · show r.phase.decode (inbox.total s') = some rest
    rw [htotal]
    exact h.owes.decode
  · show r.phase.items (inbox.total s') ⊆ items
    rw [htotal]
    exact h.owes.items

/-- A fault leaves the debt and the bytes for it as they were. -/
theorem Live.interrupted {f : Fault} (h : r.Live s rest items)
    (hfill : r.inbox.fill s = (.error (.fault f), s')) : r.Live s' rest items := by
  have hrefills := r.inbox.fill_refills h.fits
  rw [hfill] at hrefills
  obtain ⟨hfits, hdata⟩ := hrefills
  refine ⟨hfits, ?_⟩
  rw [hdata]
  exact h.owes

/-- A live reader is refused a fill only for an item that is too long. -/
theorem Live.refused {v : Violation} (h : r.Live s rest items) (hincomplete : r.Incomplete)
    (hmore : ¬ (r.inbox.buffer = [] ∧ r.inbox.ended = true))
    (hfill : r.inbox.fill s = (.error (.violation v), s')) : TooLong items := by
  have hwhy := r.inbox.fill_refills h.fits
  rw [hfill] at hwhy
  -- were every item within the limit, the bytes that wait would make no body, but they make this one
  by_contra hshort
  have hsize : ∀ item ∈ items, item.length ≤ maxWaiting := by
    intro item hitem
    by_contra hlong
    exact hshort ⟨item, hitem, Nat.lt_of_not_le hlong⟩
  exact absurd (owes_none_of_waits h.owes hincomplete hmore hsize hwhy) (by simp)

/-- **The next event of a live reader**, however many reads it takes. -/
theorem Live.next_advances (h : r.Live s rest items) : Advances rest items (r.next s) := by
  have hpays := step_pays h.owes
  fun_induction next r s with
  | case1 r s e r' hstep =>
    have hends := r.step_endsOver
    rw [hstep] at hpays hends
    cases e with
    | data d =>
      obtain ⟨hended, want, hwant, howes⟩ := hpays
      cases want with
      | none => exact absurd hwant (by simp)
      | some rest' =>
        exact ⟨rest', Option.some.inj hwant, h.moved hended howes⟩
    | finished => exact ⟨Option.some.inj hpays, Or.inl hends⟩
  | case2 r s v hstep =>
    -- the bytes make a body
    rw [hstep] at hpays
    have hnone : some rest = none := hpays
    exact absurd hnone (by simp)
  | case3 r s waiting hstep v s' hfill =>
    rw [hstep] at hpays
    obtain ⟨hended, howes, hincomplete, hmore⟩ := hpays
    exact ⟨rfl, (h.moved hended howes).refused hincomplete hmore hfill⟩
  | case4 r s waiting hstep f s' hfill =>
    rw [hstep] at hpays
    obtain ⟨hended, howes, _⟩ := hpays
    exact (h.moved hended howes).interrupted hfill
  | case5 r s waiting hstep inbox s' hfill hlt ih =>
    rw [hstep] at hpays
    obtain ⟨hended, howes, _⟩ := hpays
    have hfilled := (h.moved hended howes).filled hfill
    exact ih hfilled (step_pays hfilled.owes)

end Reader

/-! ## The beginning of a body

  A head that was read leaves a reader at the beginning of its body, where all of it is owed. -/

/-- What is checked of a request is its method in upper case. -/
theorem Response.checkRequest_eq {url : Url} {method checked : Text} (h : checkRequest url method = .ok checked) :
    checked = upper method := by
  unfold checkRequest at h
  split at h
  · exact absurd h (by simp)
  · dsimp only at h
    split at h
    · exact absurd h (by simp)
    · split at h
      · exact (Except.ok.inj h).symm
      · exact absurd h (by simp)

/-- A reader that begins a body owes all of it. -/
theorem Reader.live_start {method : Text} {head : Head} {inbox : Inbox} {s : Stream} {body : Bytes}
    (h : inbox.Fits s) (hbody : Whole.body method head (inbox.total s) = some body) :
    (start (Framing.of method head) head.persistent inbox).Live s body
      ((Framing.of method head).phase.items (inbox.total s)) := by
  refine ⟨h, ?_, ?_, ?_, ?_⟩
  · intro he
    rw [h.ended he]
    rfl
  · rw [start_phase]
    cases Framing.of method head <;> rfl
  · rw [start_phase, ← hbody]
    apply Framing.decode_of
  · rw [start_phase]
    exact List.Subset.refl _

end Courier
