/-
  The incremental reader of bodies against the reference.

  Every phase of the reader stands for a way to read the bytes that are left (`Phase.decode`): in the middle of a
  chunk, for instance, that is the rest of the chunk, its footer, and the chunks after it.  So a reader *owes* a
  body, or owes a failure when the bytes do not make one (`Reader.Owes`), and one step on the bytes that are there
  pays a part of the debt and owes the rest (`Reader.step_pays`).

  A reader that waits for more holds the beginning of one item only (`Reader.Incomplete`).  That is why neither the
  limit on what waits nor the end of the stream can strike a message whose items are complete and within the limit
  (`Reader.owes_none_of_waits`).

  The debt is about the bytes in the inbox followed by bytes `more` that are still to come, and `more` is any bytes
  at all.  So a step, which sees the inbox alone, is compared with a reference that sees everything, and the two
  have to agree before it is known what follows.  The equations that make this possible say how a phase reads bytes
  that are put together: `decode_fixed_append` for a length that is known, `chunk_goes_on` and `chunk_ends` for a
  chunk that is longer or shorter than what is there, `footer_append` for a footer that comes in two parts.  For the
  lines and blocks, which are items, the module on what a reader has (`FrontCut.append`) says it once.

  The order of the module is that of the reader:

  1. `waitOr` first, which every phase comes to.  Waiting owes what was owed, and with nothing left and nothing to
     come it is a failure, since no phase but the last makes a body of no bytes.

  2. The parts of a step from the inside out: the bytes of a chunk, the trailer, a size line with one of these
     behind it, the footer with a size line behind it.

  3. The step, by its phases (`step_pays`), and then reading on, which is steps with reads between them
     (`next_pays`).

  4. The loop that collects the pieces: `Response.read_pays`.

  Failures are owed as well (`want = none`).  So the statement at the end is an equivalence in disguise: the reader
  fails on a body exactly when the bytes make none.
-/
import Courier.Proofs.Response.Whole
import Courier.Response.Basic

namespace Courier

/-! ## What a phase has still to read

  The reader of a body is a state machine that takes bytes off its inbox.  What it owes in each of its phases is
  said by the reference, as a function of all bytes from here on: the body that they make, or that they make none.
  `Owes` is the invariant of the whole module. -/

/-- A phase in which a body is being read. -/
def Phase.isLive : Phase → Bool
  | .finished | .closing | .failed => false
  | _ => true

/-- The body that the bytes from here on make in a phase, nothing when they make none. -/
def Phase.decode : Phase → Bytes → Option Bytes
  | .fixed _ n, b => if n ≤ b.length then some (b.take n) else none
  | .untilEnd, b => some b
  | .chunkSize, b => Whole.dechunk b
  | .chunkData more, b =>
    if Reader.footer.isPrefixOf (b.drop (more + 1)) then
      (Whole.dechunk (b.drop (more + 3))).map (b.take (more + 1) ++ ·)
    else none
  | .chunkFooter expected, b =>
    if expected.isPrefixOf b then Whole.dechunk (b.drop expected.length) else none
  | .trailer, b => Whole.trailer b
  | .tunnel, _ => some []
  | .finished, _ | .closing, _ | .failed, _ => none

/-- The complete chunk-size lines and trailers from here on. -/
def Phase.items : Phase → Bytes → List Bytes
  | .chunkSize, b => Whole.chunkItems b
  | .chunkData more, b =>
    if Reader.footer.isPrefixOf (b.drop (more + 1)) then Whole.chunkItems (b.drop (more + 3)) else []
  | .chunkFooter expected, b =>
    if expected.isPrefixOf b then Whole.chunkItems (b.drop expected.length) else []
  | .trailer, b => Whole.trailerItems b
  | _, _ => []

namespace Reader

/-- The reader, with `more` to come, has to hand out `want`, or to fail when that is nothing; on the way it
    meets no items but these. -/
structure Owes (r : Reader) (more : Bytes) (want : Option Bytes) (items : List Bytes) : Prop where
  /-- nothing comes after the end -/
  tail : r.inbox.ended = true → more = []
  live : r.phase.isLive = true
  decode : r.phase.decode (r.inbox.buffer ++ more) = want
  items : r.phase.items (r.inbox.buffer ++ more) ⊆ items

/-- What a waiting reader holds is no complete item. -/
def Incomplete (r : Reader) : Prop :=
  match r.phase with
  | .chunkSize => takeLine r.inbox.buffer = none
  | .trailer => takeBlock r.inbox.buffer = none
  | _ => r.inbox.buffer = []

/-- A step that pays what is owed, or a part of it. -/
def Pays (ended : Bool) (more : Bytes) (want : Option Bytes) (items : List Bytes) : Step → Prop
  | .event (.data d) r =>
    r.inbox.ended = ended ∧ ∃ want', want = want'.map (d ++ ·) ∧ r.Owes more want' items
  | .event .finished _ => want = some []
  | .violation _ => want = none
  | .waiting r =>
    r.inbox.ended = ended ∧ r.Owes more want items ∧ r.Incomplete ∧
      ¬ (r.inbox.buffer = [] ∧ r.inbox.ended = true)

variable {r : Reader} {more : Bytes} {want : Option Bytes} {items : List Bytes}

/-! ## One step

  A step takes one piece of what is there or finds that more has to come.  There is one lemma for each phase, and
  each says that the step pays: what it hands out is the front of what was owed, and what the next phase owes is the
  rest.  The cases in which an item is cut by the end of what is there are the ones where a reader could go wrong,
  and they are where the arithmetic of these lemmas is. -/

/-- Waiting owes what was owed; with the stream at its end and nothing left it is a failure. -/
theorem waitOr_pays (h : r.Owes more want items) (hi : r.Incomplete) (hnil : r.phase.decode [] = none)
    (v : Violation) : Pays r.inbox.ended more want items (r.waitOr v) := by
  rw [waitOr]
  split
  · rename_i he
    rw [Bool.and_eq_true, List.isEmpty_iff] at he
    show want = none
    rw [← h.decode, he.1, h.tail he.2]
    exact hnil
  · rename_i he
    rw [Bool.and_eq_true, List.isEmpty_iff] at he
    exact ⟨rfl, h, hi, he⟩

/-- A body of known length is what is there of it, and then the rest of it. -/
theorem decode_fixed_append (total n : Nat) (b more : Bytes) :
    (Phase.fixed total n).decode (b ++ more) =
      ((Phase.fixed total (n - (b.take n).length)).decode (b.drop n ++ more)).map (b.take n ++ ·) := by
  have hlen : (b.take n).length = min n b.length := List.length_take
  rw [Phase.decode, Phase.decode, hlen, List.length_append, List.length_append, List.length_drop]
  by_cases hle : n ≤ b.length + more.length
  · rw [if_pos hle, if_pos (by omega), Option.map_some, Option.some.injEq, List.take_append,
      List.take_append, List.length_drop]
    -- what is there may be less than the body, or more
    rcases Nat.lt_or_ge b.length n with hlt | hge
    · rw [List.drop_eq_nil_of_le (by omega), List.take_nil, List.nil_append, Nat.min_eq_right (by omega)]
      congr 2
      omega
    · rw [Nat.min_eq_left hge, Nat.sub_self, List.take_zero, List.nil_append,
        Nat.sub_eq_zero_of_le hge, Nat.zero_sub]
  · rw [if_neg hle, if_neg (by omega)]
    rfl

/-- A chunk that goes on behind what is there: its first bytes, and then the rest of it. -/
theorem chunk_goes_on {n : Nat} {b : Bytes} (hlt : b.length < n + 1) (more : Bytes) :
    (Phase.chunkData n).decode (b ++ more) =
        ((Phase.chunkData (n - b.length)).decode more).map (b ++ ·) ∧
      (Phase.chunkData n).items (b ++ more) = (Phase.chunkData (n - b.length)).items more := by
  have hleft : n + 1 - b.length = (n - b.length) + 1 := by omega
  have hfooter : n + 3 - b.length = (n - b.length) + 3 := by omega
  have hdrop (k : Nat) (hk : n + 1 ≤ k) : (b ++ more).drop k = more.drop (k - b.length) := by
    rw [List.drop_append, List.drop_eq_nil_of_le (by omega), List.nil_append]
  rw [Phase.decode, Phase.decode, Phase.items, Phase.items, hdrop (n + 1) (by omega),
    hdrop (n + 3) (by omega), hleft, hfooter]
  refine ⟨?_, rfl⟩
  split
  · rw [Option.map_map, List.take_append, hleft, List.take_of_length_le (by omega)]
    congr 1
    funext x
    exact List.append_assoc ..
  · rfl

/-- A chunk that ends in what is there: its bytes, and then its footer. -/
theorem chunk_ends {n : Nat} {b : Bytes} (hge : n + 1 ≤ b.length) (more : Bytes) :
    (Phase.chunkData n).decode (b ++ more) =
        ((Phase.chunkFooter footer).decode (b.drop (n + 1) ++ more)).map (b.take (n + 1) ++ ·) ∧
      (Phase.chunkData n).items (b ++ more) = (Phase.chunkFooter footer).items (b.drop (n + 1) ++ more) := by
  have hdata : (b ++ more).drop (n + 1) = b.drop (n + 1) ++ more := List.drop_append_of_le_length hge
  have hfooter : (b ++ more).drop (n + 3) = (b.drop (n + 1) ++ more).drop footer.length := by
    rw [← hdata, List.drop_drop]
    rfl
  rw [Phase.decode, Phase.decode, Phase.items, Phase.items, hdata, hfooter]
  refine ⟨?_, rfl⟩
  rw [List.take_append_of_le_length hge]
  split <;> rfl

/-- Bytes of the current chunk: all that are there when the chunk goes on, and those of the chunk when it
    does not. -/
theorem takeChunk_pays {n : Nat} (h : (r.goTo (.chunkData n) r.inbox.buffer).Owes more want items) :
    Pays r.inbox.ended more want items (r.takeChunk n) := by
  rw [takeChunk]
  dsimp only
  split
  · rename_i hempty
    have hb : r.inbox.buffer = [] := by simpa using hempty
    exact waitOr_pays h hb rfl _
  · refine ⟨rfl, ?_⟩
    have hdecode : (Phase.chunkData n).decode (r.inbox.buffer ++ more) = want := h.decode
    have hitems : (Phase.chunkData n).items (r.inbox.buffer ++ more) ⊆ items := h.items
    -- all that is there is part of the chunk, or the chunk ends in it
    rcases Nat.lt_or_ge r.inbox.buffer.length (n + 1) with hlt | hge
    · obtain ⟨hpart, hlater⟩ := chunk_goes_on hlt more
      have hall : r.inbox.buffer.take (n + 1) = r.inbox.buffer := List.take_of_length_le (by omega)
      have hleft : n + 1 - r.inbox.buffer.length = (n - r.inbox.buffer.length) + 1 := by omega
      rw [hpart] at hdecode
      rw [hlater] at hitems
      rw [hall, hleft, List.drop_eq_nil_of_le (by omega)]
      exact ⟨_, hdecode.symm, h.tail, rfl, rfl, hitems⟩
    · obtain ⟨hpart, hlater⟩ := chunk_ends hge more
      have hlen : (r.inbox.buffer.take (n + 1)).length = n + 1 := by
        rw [List.length_take]
        omega
      rw [hpart] at hdecode
      rw [hlater] at hitems
      rw [hlen, Nat.sub_self]
      exact ⟨_, hdecode.symm, h.tail, rfl, rfl, hitems⟩

/-- The trailer: done when it is complete and its fields can be read. -/
theorem takeTrailer_pays (h : (r.goTo .trailer r.inbox.buffer).Owes more want items) :
    Pays r.inbox.ended more want items r.takeTrailer := by
  rw [takeTrailer]
  split
  · rename_i hb
    refine waitOr_pays h hb ?_ _
    show Whole.trailer [] = none
    rw [Whole.trailer, takeBlock_nil]
  · rename_i lines rest hb
    -- the block is there, so the reference finds the same one, whatever follows it
    have hdecode := h.decode
    simp only [goTo, Phase.decode, Whole.trailer, takeBlock_front.append hb more] at hdecode
    split
    · rename_i v hv
      rw [hv] at hdecode
      exact hdecode.symm
    · rename_i fields hf
      rw [hf] at hdecode
      exact hdecode.symm

/-- A chunk-size line, and the chunk or the trailer after it. -/
theorem takeSize_pays (h : (r.goTo .chunkSize r.inbox.buffer).Owes more want items) :
    Pays r.inbox.ended more want items r.takeSize := by
  rw [takeSize]
  split
  · rename_i hb
    refine waitOr_pays h hb ?_ _
    show Whole.dechunk [] = none
    rw [Whole.dechunk_eq]
    rfl
  · rename_i line rest hb
    have hb' := takeLine_front.append hb more
    have hdecode := h.decode
    have hitems := h.items
    simp only [goTo, Phase.decode, Phase.items] at hdecode hitems
    rw [Whole.dechunk_eq, hb'] at hdecode
    rw [Whole.chunkItems_eq, hb'] at hitems
    dsimp only at hdecode hitems
    split
    · rename_i hsize
      rw [hsize] at hdecode
      exact hdecode.symm
    · -- size zero: the chunks are over, and the line was the last item but the trailer
      rename_i hsize
      rw [hsize] at hdecode hitems
      exact takeTrailer_pays ⟨h.tail, rfl, hdecode, List.Subset.trans (List.subset_cons_self ..) hitems⟩
    · rename_i n hsize
      rw [hsize] at hdecode hitems
      exact takeChunk_pays ⟨h.tail, rfl, hdecode, List.Subset.trans (List.subset_cons_self ..) hitems⟩

theorem isPrefixOf_append_right (a b c : Bytes) : (a ++ b).isPrefixOf (a ++ c) = b.isPrefixOf c := by
  rw [Bool.eq_iff_iff, List.isPrefixOf_iff_prefix, List.isPrefixOf_iff_prefix,
    List.prefix_append_right_inj]

/-- A footer whose front has come is the rest of the footer, in the bytes after that front. -/
theorem footer_append (front left more : Bytes) :
    (Phase.chunkFooter (front ++ left)).decode (front ++ more) = (Phase.chunkFooter left).decode more ∧
      (Phase.chunkFooter (front ++ left)).items (front ++ more) = (Phase.chunkFooter left).items more := by
  have hdrop : (front ++ more).drop (front ++ left).length = more.drop left.length := by
    rw [List.length_append, List.drop_length_add_append]
  rw [Phase.decode, Phase.decode, Phase.items, Phase.items, isPrefixOf_append_right, hdrop]
  exact ⟨rfl, rfl⟩

/-- Of a text that begins with the footer, what is there is the front of the footer. -/
theorem take_eq_of_prefix {expected b more : Bytes} (h : expected <+: b ++ more) :
    b.take expected.length = expected.take (b.take expected.length).length := by
  obtain ⟨after, hwhole⟩ := h
  have htake := congrArg (List.take (min expected.length b.length)) hwhole
  rw [List.take_append_of_le_length (by omega), List.take_append_of_le_length (by omega)] at htake
  rw [List.length_take, htake, List.take_eq_take_iff]
  omega

/-- The footer of a chunk, which may come in two parts, and the next chunk when it is complete. -/
theorem takeFooter_pays {expected : Bytes}
    (h : (r.goTo (.chunkFooter expected) r.inbox.buffer).Owes more want items) :
    Pays r.inbox.ended more want items (r.takeFooter expected) := by
  have hdecode : (Phase.chunkFooter expected).decode (r.inbox.buffer ++ more) = want := h.decode
  have hitems : (Phase.chunkFooter expected).items (r.inbox.buffer ++ more) ⊆ items := h.items
  rw [takeFooter]
  dsimp only
  split
  · -- what is there is no part of the footer
    rename_i hbad
    show want = none
    rw [← hdecode, Phase.decode, if_neg]
    intro hprefix
    rw [← take_eq_of_prefix (List.isPrefixOf_iff_prefix.mp hprefix)] at hbad
    exact absurd hbad (by simp)
  · rename_i hgood
    have hfound : r.inbox.buffer.take expected.length =
        expected.take (r.inbox.buffer.take expected.length).length := by simpa using hgood
    have hexpected : r.inbox.buffer.take expected.length ++
        expected.drop (r.inbox.buffer.take expected.length).length = expected := by
      conv => lhs; lhs; rw [hfound]
      exact List.take_append_drop _ _
    -- so the rest of the footer is owed by the bytes after that part
    have howes : (r.goTo (.chunkFooter (expected.drop (r.inbox.buffer.take expected.length).length))
        (r.inbox.buffer.drop expected.length)).Owes more want items := by
      obtain ⟨hsame, hlater⟩ := footer_append (r.inbox.buffer.take expected.length)
        (expected.drop (r.inbox.buffer.take expected.length).length)
        (r.inbox.buffer.drop expected.length ++ more)
      rw [hexpected, ← List.append_assoc, List.take_append_drop] at hsame hlater
      exact ⟨h.tail, rfl, hsame.symm.trans hdecode, hlater ▸ hitems⟩
    split
    · rename_i hleft
      rw [List.isEmpty_iff] at hleft
      rw [hleft] at howes ⊢
      exact takeSize_pays ⟨howes.tail, rfl, howes.decode, howes.items⟩
    · rename_i hleft
      have hshort : r.inbox.buffer.length < expected.length := by
        rw [List.isEmpty_iff, List.drop_eq_nil_iff, List.length_take] at hleft
        omega
      have hempty : r.inbox.buffer.drop expected.length = [] := List.drop_eq_nil_of_le (by omega)
      refine waitOr_pays howes hempty ?_ _
      show (Phase.chunkFooter (expected.drop (r.inbox.buffer.take expected.length).length)).decode [] = none
      cases hd : expected.drop (r.inbox.buffer.take expected.length).length with
      | nil => exact absurd (List.isEmpty_iff.mpr hd) hleft
      | cons a t => rfl

/-- **One step pays.**  What a live reader hands out is the front of what it owes, it ends when it owes
    nothing more, and it fails only when the bytes make no body. -/
theorem step_pays (h : r.Owes more want items) : Pays r.inbox.ended more want items r.step := by
  obtain ⟨inbox, phase, persistent⟩ := r
  have hdecode := h.decode
  have hlive := h.live
  cases phase with
  | fixed total n =>
    cases n with
    | zero =>
      show want = some []
      rw [← hdecode, Phase.decode, if_pos (Nat.zero_le _), List.take_zero]
    | succ n =>
      rw [step]
      dsimp only
      split
      · rename_i hempty
        have hb : inbox.buffer = [] := by simpa using hempty
        exact waitOr_pays h hb rfl _
      · rw [decode_fixed_append] at hdecode
        exact ⟨rfl, _, hdecode.symm, h.tail, rfl, rfl, List.nil_subset _⟩
  | untilEnd =>
    rw [step]
    dsimp only
    split
    · -- all that is there is handed out, and all that comes is owed
      exact ⟨rfl, some more, hdecode.symm, h.tail, rfl, rfl, List.nil_subset _⟩
    · rename_i hb
      have hb : inbox.buffer = [] := by simpa using hb
      split
      · rename_i he
        rw [hb, h.tail he] at hdecode
        exact hdecode.symm
      · rename_i he
        exact ⟨rfl, h, hb, fun hn => he hn.2⟩
  | chunkSize => exact takeSize_pays h
  | chunkData n => exact takeChunk_pays h
  | chunkFooter expected => exact takeFooter_pays h
  | trailer => exact takeTrailer_pays h
  | tunnel => exact hdecode.symm
  | finished => exact absurd hlive Bool.false_ne_true
  | closing => exact absurd hlive Bool.false_ne_true
  | failed => exact absurd hlive Bool.false_ne_true

/-! ## Reading on

  Steps and fills in turn, until something comes out.  A fill moves bytes from the stream to the inbox and leaves
  the two together as they are, so what is owed does not change.  The recursion ends because a fill takes something
  off the stream or is the last. -/

/-- While items are within the limit, neither too much waiting nor the end of the stream strikes a reader
    that still owes a body. -/
theorem owes_none_of_waits (h : r.Owes more want items) (hi : r.Incomplete)
    (hne : ¬ (r.inbox.buffer = [] ∧ r.inbox.ended = true))
    (hsize : ∀ item ∈ items, item.length ≤ maxWaiting)
    (hwhy : maxWaiting < r.inbox.buffer.length ∨ r.inbox.ended = true) : want = none := by
  obtain ⟨inbox, phase, persistent⟩ := r
  have hdecode := h.decode
  have hitems := h.items
  -- a reader whose buffer is empty can be struck by neither
  have hempty : inbox.buffer ≠ [] := by
    intro hb
    rcases hwhy with hlong | hended
    · rw [hb] at hlong
      exact absurd hlong (by simp)
    · exact hne ⟨hb, hended⟩
  have hwhy' : maxWaiting < inbox.buffer.length ∨ more = [] := hwhy.imp_right h.tail
  cases phase with
  | chunkSize =>
    -- with more than the limit waiting, an item here would be longer than the limit
    have hnone := takeLine_front.none_of_waits hi (fun line rest hw => ?_) hwhy'
    · rw [← hdecode, Phase.decode, Whole.dechunk_eq, hnone]
    · rw [Phase.items, Whole.chunkItems_eq, hw] at hitems
      exact Whole.length_taken ▸ hsize _ (hitems (List.mem_cons_self ..))
  | trailer =>
    have hnone := takeBlock_front.none_of_waits hi (fun lines rest hw => ?_) hwhy'
    · rw [← hdecode, Phase.decode, Whole.trailer, hnone]
    · rw [Phase.items, Whole.trailerItems, hw] at hitems
      exact Whole.length_taken ▸ hsize _ (hitems (List.mem_cons_self ..))
  | fixed total n => exact absurd hi hempty
  | untilEnd => exact absurd hi hempty
  | chunkData n => exact absurd hi hempty
  | chunkFooter expected => exact absurd hi hempty
  | tunnel => exact absurd hi hempty
  | finished => exact absurd hi hempty
  | closing => exact absurd hi hempty
  | failed => exact absurd hi hempty

/-- **Reading on pays.**  The next event of a live reader is again the front of what it owes, however the
    bytes come. -/
theorem next_pays {s : Stream} (hs : r.inbox.Sound s) (h : r.Owes s.incoming.data want items)
    (hsize : ∀ item ∈ items, item.length ≤ maxWaiting) :
    (∃ d r' s' want', r.next s = (.ok (.data d), r', s') ∧ want = want'.map (d ++ ·) ∧
      r'.inbox.Sound s' ∧ r'.Owes s'.incoming.data want' items) ∨
    (∃ r' s', r.next s = (.ok .finished, r', s') ∧ want = some []) ∨
    (∃ v r' s', r.next s = (.error (.violation v), r', s') ∧ want = none) := by
  have hpays := step_pays h
  fun_induction next r s with
  | case1 r s e r' hstep =>
    rw [hstep] at hpays
    cases e with
    | data d =>
      obtain ⟨hended, want', hwant, howes⟩ := hpays
      exact Or.inl ⟨d, r', s, want', rfl, hwant, ⟨hs.plain, fun he => hs.ended (hended ▸ he)⟩, howes⟩
    | finished => exact Or.inr (Or.inl ⟨r', s, rfl, hpays⟩)
  | case2 r s v hstep =>
    rw [hstep] at hpays
    exact Or.inr (Or.inr ⟨v, _, s, rfl, hpays⟩)
  | case3 r s waiting hstep v s' hfill =>
    -- refused: for its length, or for the end of the stream
    rw [hstep] at hpays
    obtain ⟨hended, howes, hincomplete, hne⟩ := hpays
    have hsound : waiting.inbox.Sound s := ⟨hs.plain, fun he => hs.ended (hended ▸ he)⟩
    rcases Inbox.fill_sound hsound with ⟨inbox', s'', hf, _⟩ | ⟨v', hf, hwhy⟩
    · rw [hfill] at hf
      exact absurd hf (by simp)
    · exact Or.inr (Or.inr ⟨v, _, s', rfl, owes_none_of_waits howes hincomplete hne hsize hwhy⟩)
  | case4 r s waiting hstep f s' hfill =>
    -- a plain script has no faults
    rw [hstep] at hpays
    have hsound : waiting.inbox.Sound s := ⟨hs.plain, fun he => hs.ended (hpays.1 ▸ he)⟩
    rcases Inbox.fill_sound hsound with ⟨inbox', s'', hf, _⟩ | ⟨v', hf, _⟩
    · rw [hfill] at hf
      exact absurd hf (by simp)
    · rw [hfill] at hf
      exact absurd hf (by simp)
  | case5 r s waiting hstep inbox s' hfill hlt ih =>
    rw [hstep] at hpays
    obtain ⟨hended, howes, _, _⟩ := hpays
    have hsound : waiting.inbox.Sound s := ⟨hs.plain, fun he => hs.ended (hended ▸ he)⟩
    rcases Inbox.fill_sound hsound with ⟨inbox', s'', hf, hsound', htotal⟩ | ⟨v', hf, _⟩
    · rw [hfill, Prod.mk.injEq, Except.ok.injEq] at hf
      obtain ⟨rfl, rfl⟩ := hf
      -- the bytes have moved from the stream to the inbox, and the debt is about both together
      have howes' : Owes { waiting with inbox } s'.incoming.data want items := by
        refine ⟨fun he => ?_, howes.live, ?_, ?_⟩
        · rw [hsound'.ended he]
          rfl
        · show waiting.phase.decode (inbox.total s') = want
          rw [htotal]
          exact howes.decode
        · show waiting.phase.items (inbox.total s') ⊆ items
          rw [htotal]
          exact howes.items
      exact ih hsound' howes' (step_pays howes')
    · rw [hfill] at hf
      exact absurd hf (by simp)

end Reader

/-! ## All pieces of a body

  An iteration collects what comes out until the end, so by induction the pieces together are what was owed in the
  beginning.  A failure of the collection is a body that the reference has none for. -/

namespace Response

/-- A response whose body is being read from a stream, by an iteration that has not ended. -/
structure Running (r : Response) (cursor : Cursor) (s : Stream) : Prop where
  stream : r.stream = some s
  isHead : r.isHead = false
  cursor : cursor = .running ∨ (cursor = .fresh ∧ r.done = false)

variable {r : Response} {cursor : Cursor} {s : Stream}

/-- An iteration that goes on asks the reader. -/
theorem Running.next_eq (h : r.Running cursor s) : r.next cursor = r.advance s := by
  unfold next
  rcases h.cursor with rfl | ⟨rfl, hd⟩
  · rw [h.stream]
  · rw [h.stream]
    dsimp only
    rw [hd]
    rfl

theorem Running.next_data (h : r.Running cursor s) {d : Bytes} {reader : Reader} {s' : Stream}
    (hn : r.reader.next s = (.ok (.data d), reader, s')) :
    r.next cursor = (.ok (some d), .running, { r with reader, stream := some s' }) := by
  rw [h.next_eq, advance, resume, h.isHead, hn]
  rfl

theorem Running.next_finished (h : r.Running cursor s) {reader : Reader} {s' : Stream}
    (hn : r.reader.next s = (.ok .finished, reader, s')) :
    r.next cursor = (.ok none, .spent, { r with reader, stream := some s' }.close) := by
  rw [h.next_eq, advance, resume, h.isHead, hn]
  rfl

theorem Running.next_error (h : r.Running cursor s) {e : ReadFailure} {reader : Reader} {s' : Stream}
    (hn : r.reader.next s = (.error e, reader, s')) :
    ∃ r', r.next cursor = (.error (iterationFailureOf e), .spent, r') := by
  rw [h.next_eq, advance, resume, h.isHead, hn]
  exact ⟨_, rfl⟩

theorem Running.next_violation (h : r.Running cursor s) {v : Violation} {reader : Reader} {s' : Stream}
    (hn : r.reader.next s = (.error (.violation v), reader, s')) :
    ∃ r', r.next cursor = (.error (.response (.malformed v)), .spent, r') := h.next_error hn

/-- **Collecting pays all.**  The pieces together are the body that was owed; a failure is the one of a
    malformed body. -/
theorem drainFrom_pays {want : Option Bytes} {items pieces : List Bytes} (h : r.Running cursor s)
    (hs : r.reader.inbox.Sound s) (howes : r.reader.Owes s.incoming.data want items)
    (hsize : ∀ item ∈ items, item.length ≤ maxWaiting) :
    (∃ body ps r', want = some body ∧ r.drainFrom cursor pieces = (.ok ps, r') ∧
      ps.flatten = pieces.reverse.flatten ++ body) ∨
    (∃ v r', want = none ∧ r.drainFrom cursor pieces = (.error (.response (.malformed v)), r')) := by
  -- along the recursion of the collection; what the reader did says which of the three cases it is
  fun_induction drainFrom r cursor pieces generalizing s want with
  | case1 r cursor pieces e c r' hnext =>
    rcases Reader.next_pays hs howes hsize with
      ⟨d, reader, s', want', hn, _⟩ | ⟨reader, s', hn, _⟩ | ⟨v, reader, s', hn, hwant⟩
    · rw [h.next_data hn] at hnext
      exact absurd hnext (by simp)
    · have hr := h.next_finished hn
      rw [hr] at hnext
      exact absurd hnext (by simp)
    · obtain ⟨r'', hr⟩ := h.next_violation hn
      rw [hr, Prod.mk.injEq, Except.error.injEq] at hnext
      exact Or.inr ⟨v, r', hwant, by rw [← hnext.1]⟩
  | case2 r cursor pieces c r' hnext =>
    rcases Reader.next_pays hs howes hsize with
      ⟨d, reader, s', want', hn, _⟩ | ⟨reader, s', hn, hwant⟩ | ⟨v, reader, s', hn, _⟩
    · rw [h.next_data hn] at hnext
      exact absurd hnext (by simp)
    · exact Or.inl ⟨[], pieces.reverse, r', hwant, rfl, by rw [List.append_nil]⟩
    · obtain ⟨r'', hr⟩ := h.next_violation hn
      rw [hr] at hnext
      exact absurd hnext (by simp)
  | case3 r cursor pieces b c r' hnext hlt ih =>
    rcases Reader.next_pays hs howes hsize with
      ⟨d, reader, s', want', hn, hwant, hs', howes'⟩ | ⟨reader, s', hn, _⟩ | ⟨v, reader, s', hn, _⟩
    · rw [h.next_data hn, Prod.mk.injEq, Prod.mk.injEq, Except.ok.injEq, Option.some.injEq] at hnext
      obtain ⟨rfl, rfl, rfl⟩ := hnext
      -- the piece is collected, and the rest is owed
      rcases ih ⟨rfl, h.isHead, Or.inl rfl⟩ hs' howes' with
        ⟨body, ps, r'', rfl, hdrain, hflat⟩ | ⟨v, r'', rfl, hdrain⟩
      · refine Or.inl ⟨d ++ body, ps, r'', hwant, hdrain, ?_⟩
        rw [hflat, List.reverse_cons, List.flatten_append, List.flatten_singleton, List.append_assoc]
      · exact Or.inr ⟨v, r'', hwant, hdrain⟩
    · have hr := h.next_finished hn
      rw [hr] at hnext
      exact absurd hnext (by simp)
    · obtain ⟨r'', hr⟩ := h.next_violation hn
      rw [hr] at hnext
      exact absurd hnext (by simp)

/-- Reading all of a body gives what is owed. -/
theorem read_pays {want : Option Bytes} {items : List Bytes} (h : r.Running .fresh s)
    (hs : r.reader.inbox.Sound s) (howes : r.reader.Owes s.incoming.data want items)
    (hsize : ∀ item ∈ items, item.length ≤ maxWaiting) :
    (∃ body, want = some body ∧ r.read.1 = .ok body) ∨
    (∃ v, want = none ∧ r.read.1 = .error (.response (.malformed v))) := by
  have hdrained := @drainFrom_pays r .fresh s want items [] h hs howes hsize
  rcases hdrained with ⟨body, ps, r', hwant, hdrain, hflat⟩ | ⟨v, r', hwant, hdrain⟩
  · refine Or.inl ⟨body, hwant, ?_⟩
    rw [read, chunks, hdrain]
    exact congrArg Except.ok hflat
  · refine Or.inr ⟨v, hwant, ?_⟩
    rw [read, chunks, hdrain]

end Response

end Courier
