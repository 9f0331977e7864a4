/-
  How long a head may be.

  The limit on the size of a head is looked at before a read, when a head is not complete: what waits then is
  measured, and not the head that it becomes.  So whether a head over the limit is refused depends on where the
  reads end.

  `Whole.unfinished?` is what of a head waits when some bytes have come, and `Inbox.Overflows` says that at the end
  of some read it is more than the limit.  That is exactly when a head is refused for its size (`readHead_settles`),
  and otherwise the size plays no part.

  In terms of the heads alone there is a gap of one read (`Response.beginRead_limited`): a head of up to
  `maxWaiting` bytes is never refused, one byte more is let through as well, and beyond that a head is sure to be
  refused only when it is longer by more than a read takes, since then a read ends inside it above the limit
  (`Script.exists_arrives`).

  The plan follows from what the reader does.  It cuts a block off its inbox if there is one, passes over interim
  heads, and otherwise measures what it holds and reads again.

  1. Where reads end.  `Script.Arrives` says which fronts of the bytes some number of reads leave in the hands of a
     reader.  The one fact that is needed about it is that no place in the bytes is skipped by more than a read
     (`Script.exists_arrives`, by strong induction on the distance).

  2. What waits is a function of the bytes that have come (`Whole.unfinished?`), with the same recursion over
     interim heads as the reference.  It only becomes longer, until the head is there, and the head is then longer
     than what waited (`Whole.grows_of_unfinished?`).  This gives the bound below.

  3. Nothing but what waits is refused with this reason.  The errors of a complete head are gone through once, from
     the value of a length up to the whole head (`Head.ne_tooLong_of_ofLines`).

  4. The reading of a head, along its recursion: it overflows, it fails for another reason, or it finds the head
     that the reference finds, and these exclude one another.

  The crux is the second point read backwards.  An item that is longer than the limit and a read together has a
  place inside it that is above the limit and where a read ends; the bytes up to there hold no complete block, since
  the item is the first, so all of them wait (`Inbox.overflows_of_long`).
-/
import Courier.Proofs.Response.Rendering

namespace Courier

/-! ## Where reads end

  After some reads a reader has a front of the bytes, and which fronts these are depends on the pieces that the
  bytes come in and on how much a read takes.  All that matters here is that they are close together: from any place
  in the bytes it is no more than a read to the next one. -/

/-- What has come after some reads. -/
inductive Script.Arrives : Script → Bytes → Prop
  | start (script : Script) : Arrives script []
  | read {script rest : Script} {data got : Bytes} (htake : Stream.takeScript Stream.readSize script = (.ok data, rest))
      (hrest : Arrives rest got) : Arrives script (data ++ got)

variable {script rest : Script} {data got : Bytes}

/-- What comes is the front of what the script holds. -/
theorem Script.Arrives.prefix_data (h : script.Arrives got) (hplain : script.Plain) : got <+: script.data := by
  induction h with
  | start => exact List.nil_prefix
  | read htake _ ih =>
    obtain ⟨data, rest, htake', hrest, hdata, _⟩ := Stream.takeScript_plain hplain
    rw [htake, Prod.mk.injEq, Except.ok.injEq] at htake'
    obtain ⟨rfl, rfl⟩ := htake'
    rw [← hdata, List.prefix_append_right_inj]
    exact ih hrest

/-- A read takes no more than it asks for. -/
theorem Stream.length_takeScript_le (h : takeScript readSize script = (.ok data, rest)) : data.length ≤ readSize := by
  cases script with
  | nil =>
    obtain ⟨hdata, _⟩ := Prod.mk.inj h
    rw [← Except.ok.inj hdata]
    exact Nat.zero_le _
  | cons p t =>
    cases p with
    | fault f => cases h
    | bytes b =>
      rw [takeScript, takePiece_readSize] at h
      obtain ⟨hdata, _⟩ := Prod.mk.inj h
      rw [← Except.ok.inj hdata]
      exact List.length_take_le _ _

/-- **Some read ends within one read behind any place.** -/
theorem Script.exists_arrives (h : script.Plain) {n : Nat} (hn : n ≤ script.data.length) :
    ∃ got, script.Arrives got ∧ n ≤ got.length ∧ got.length < n + Stream.readSize := by
  -- on the distance of the place, of which every read takes a part
  induction n using Nat.strongRecOn generalizing script with
  | ind n ih =>
    obtain ⟨data, rest, htake, hrest, hdata, hend⟩ := Stream.takeScript_plain h
    have hsize := Stream.length_takeScript_le htake
    rw [← hdata, List.length_append] at hn
    rcases Nat.eq_zero_or_pos n with rfl | hpos
    · exact ⟨[], .start script, Nat.le_refl 0, by decide⟩
    · have hne : data ≠ [] := by
        rintro rfl
        rw [hend rfl] at hn
        exact absurd hn (Nat.not_le_of_lt hpos)
      have hlen : 0 < data.length := List.length_pos_iff.mpr hne
      obtain ⟨got, hgot, hle, hlt⟩ := ih (n - data.length) (Nat.sub_lt hpos hlen) hrest (by omega)
      -- the place is behind this read, or inside it
      rcases Nat.lt_or_ge data.length n with hless | hreached
      · refine ⟨data ++ got, .read htake hgot, ?_, ?_⟩ <;> rw [List.length_append] <;> omega
      · refine ⟨data ++ [], .read htake (.start rest), ?_, ?_⟩ <;> rw [List.append_nil] <;> omega

/-! ## What waits

  The reader measures what it holds when no block in it is complete.  As a function of the bytes that have come,
  this is everything behind the last interim head, and nothing once the head of the answer is among them or they
  cannot be read. -/

namespace Whole

variable {b rest w item : Bytes} {lines : List Bytes} {head : Head}

/-- What waits of a head when these bytes have come: nothing if the head of the answer is among them, or if they cannot
    be read. -/
def unfinished? (b : Bytes) : Option Bytes :=
  match h : takeBlock b with
  | none => if startsWithControl b then none else some b
  | some (lines, rest) =>
    match Head.ofLines lines with
    | .error _ => none
    | .ok head =>
      if !head.isInterim then none
      else if head.status = 101 then none
      else
        have : rest.length < b.length := length_lt_of_takeBlock h
        unfinished? rest
termination_by b.length

theorem unfinished?_eq (b : Bytes) :
    unfinished? b = match takeBlock b with
      | none => if startsWithControl b then none else some b
      | some (lines, rest) =>
        match Head.ofLines lines with
        | .error _ => none
        | .ok head => if !head.isInterim then none else if head.status = 101 then none else unfinished? rest := by
  rw [unfinished?]
  split <;> (rename_i h; simp only [h])

theorem unfinished?_of_waits (hb : takeBlock b = none) (hc : startsWithControl b = false) : unfinished? b = some b := by
  rw [unfinished?_eq, hb, hc]
  rfl

theorem eq_of_unfinished? (hb : takeBlock b = none) (h : unfinished? b = some w) : w = b := by
  rw [unfinished?_eq, hb] at h
  dsimp only at h
  split at h
  · cases h
  · exact (Option.some.inj h).symm

/-- Bytes that begin with a control do not wait. -/
theorem unfinished?_of_startsWithControl (hc : startsWithControl b = true) : unfinished? b = none := by
  rw [unfinished?_eq]
  cases hb : takeBlock b with
  | none => exact if_pos hc
  | some found =>
    obtain ⟨v, hv⟩ := ofLines_of_startsWithControl hc hb
    dsimp only
    rw [hv]

/-- Behind an interim head it is as if that head had never come. -/
theorem unfinished?_of_interim (hb : takeBlock b = some (lines, rest)) (hlines : Head.ofLines lines = .ok head)
    (hi : ¬ (!head.isInterim) = true) (hs : ¬ head.status = 101) : unfinished? b = unfinished? rest := by
  rw [unfinished?_eq, hb]
  dsimp only
  rw [hlines]
  dsimp only
  rw [if_neg hi, if_neg hs]

/-- Nothing waits once a block has come that is the last one to be read. -/
theorem unfinished?_of_last (hb : takeBlock b = some (lines, rest))
    (hlast : ∀ head, Head.ofLines lines = .ok head → head.isInterim = true → head.status = 101) :
    unfinished? b = none := by
  rw [unfinished?_eq, hb]
  dsimp only
  cases hlines : Head.ofLines lines with
  | error v => rfl
  | ok head =>
    dsimp only
    cases hi : head.isInterim with
    | false => rfl
    | true => exact if_pos (hlast head hlines hi)

theorem unfinished?_of_final (hb : takeBlock b = some (lines, rest)) (hlines : Head.ofLines lines = .ok head)
    (hi : (!head.isInterim) = true) : unfinished? b = none := by
  refine unfinished?_of_last hb fun found hfound hinterim => ?_
  rw [← Except.ok.inj (hlines.symm.trans hfound)] at hinterim
  rw [hinterim] at hi
  exact Bool.noConfusion hi

/-- Nothing waits of an answer whose head is there. -/
theorem unfinished?_of_head? {found : Head × Bytes} (h : head? b = some found) : unfinished? b = none := by
  fun_induction head? b with
  | case1 b hb => cases h
  | case2 b lines rest hb v hlines => cases h
  | case3 b lines rest hb head hlines hi => exact unfinished?_of_final hb hlines hi
  | case4 b lines rest hb head hlines hi hs => cases h
  | case5 b lines rest hb head hlines hi hs hlt ih =>
    rw [unfinished?_of_interim hb hlines hi hs]
    exact ih h

/-- **What waits becomes longer**: a head that is longer than what waits, or more of an unfinished one. -/
theorem grows_of_unfinished? (h : unfinished? b = some w) (hw : w ≠ []) (more : Bytes) :
    (∃ item ∈ heads (b ++ more), w.length < item.length) ∨ unfinished? (b ++ more) = some (w ++ more) := by
  fun_induction unfinished? b with
  | case1 b hb hc => cases h
  | case2 b hb hc =>
    obtain rfl := Option.some.inj h
    have hcontrol : startsWithControl (b ++ more) = false := by
      cases b with
      | nil => exact absurd rfl hw
      | cons c t => exact Bool.eq_false_iff.mpr hc
    -- either the head is still not complete, or it is, and then it is longer than what waited
    cases hmore : takeBlock (b ++ more) with
    | none => exact Or.inr (unfinished?_of_waits hmore hcontrol)
    | some found =>
      refine Or.inl ⟨_, taken_mem_heads hmore, ?_⟩
      rw [length_taken]
      exact takeBlock_front.lt_of_waits hb hmore
  | case3 b lines rest hb v hlines => cases h
  | case4 b lines rest hb head hlines hi => cases h
  | case5 b lines rest hb head hlines hi hs => cases h
  | case6 b lines rest hb head hlines hi hs hlt ih =>
    have hlonger := takeBlock_front.append hb more
    rw [(head?_of_interim hlonger hlines hi hs).2, unfinished?_of_interim hlonger hlines hi hs]
    refine (ih h).imp_left ?_
    rintro ⟨item, hmem, hlen⟩
    exact ⟨item, List.mem_cons_of_mem _ hmem, hlen⟩

/-- What is in front of a head that is read plays no part in reading it. -/
theorem exists_of_mem_heads (h : item ∈ heads b) :
    ∃ before after lines, b = before ++ (item ++ after) ∧ takeBlock (item ++ after) = some (lines, after) ∧
      ∀ t, unfinished? (before ++ t) = unfinished? t ∧ head? (before ++ t) = head? t := by
  fun_induction heads b with
  | case1 b hb => exact absurd h List.not_mem_nil
  | case2 b lines rest hb ih =>
    obtain ⟨front, rfl, hfront⟩ := takeBlock_front b lines rest hb
    rcases List.mem_cons.mp h with rfl | h
    · rw [taken_left]
      exact ⟨[], rest, lines, rfl, hb, fun t => ⟨rfl, rfl⟩⟩
    · split at h
      · exact absurd h List.not_mem_nil
      · rename_i head hlines
        split at h
        · exact absurd h List.not_mem_nil
        · rename_i hi
          split at h
          · exact absurd h List.not_mem_nil
          · -- an interim head, and the item behind it
            rename_i hs
            obtain ⟨before, after, lines', hrest, hitem, hskip⟩ := ih h
            refine ⟨front ++ before, after, lines', ?_, hitem, fun t => ?_⟩
            · rw [hrest, List.append_assoc]
            · rw [List.append_assoc, unfinished?_of_interim (hfront _) hlines hi hs,
                (head?_of_interim (hfront _) hlines hi hs).1]
              exact hskip t

end Whole

/-! ## Refused for its size

  There are two ways to see that a head is too long: at the end of some read too much waits, or the reader says so.
  They are the same, and showing it needs both that nothing else is refused with this reason and that the reader
  comes past every such read. -/

/-- At the end of some read more than the limit of an unfinished head waits. -/
def Inbox.Overflows (inbox : Inbox) (s : Stream) : Prop :=
  ∃ got w, s.incoming.Arrives got ∧ Whole.unfinished? (inbox.buffer ++ got) = some w ∧ maxWaiting < w.length

/-! ### Every other refusal is not for the size

  A complete head may be refused for a length, for a field or for its status line.  From the inside out, none of
  these refusals is the one for the size. -/

namespace Head

variable {v : Violation} {seen : Checked} {f : Header} {fields : List Header} {lines : List Bytes}

/-- A length that cannot be read is refused for what it says, and not for the size of the head. -/
theorem ne_tooLong_of_readLength {value : Text} (h : readLength value = .error v) : v ≠ .tooLong := by
  rw [readLength] at h
  split at h
  · split at h
    · cases h
    · rw [← Except.error.inj h]
      exact Violation.noConfusion
  · rw [← Except.error.inj h]
    exact Violation.noConfusion

/-- A field that contradicts one before it is refused for that. -/
theorem ne_tooLong_of_add (h : seen.add f = .error v) : v ≠ .tooLong := by
  rw [Checked.add] at h
  split at h
  · rcases of_bind_eq_error h with hlength | ⟨digits, _, h⟩
    · exact ne_tooLong_of_readLength hlength
    · split at h
      · cases h
      · split at h
        · cases h
        · rw [← Except.error.inj h]
          exact Violation.noConfusion
  · split at h
    · split at h
      · rw [← Except.error.inj h]
        exact Violation.noConfusion
      · dsimp only at h
        split at h
        · cases h
        · rw [← Except.error.inj h]
          exact Violation.noConfusion
    · cases h

theorem ne_tooLong_of_foldlM (h : fields.foldlM Checked.add seen = .error v) : v ≠ .tooLong := by
  induction fields generalizing seen with
  | nil => cases h
  | cons f rest ih =>
    rw [List.foldlM_cons] at h
    rcases of_bind_eq_error h with hadd | ⟨_, _, hrest⟩
    · exact ne_tooLong_of_add hadd
    · exact ih hrest

theorem ne_tooLong_of_readFields (h : readFields lines = .error v) : v ≠ .tooLong := by
  rw [readFields] at h
  rcases of_bind_eq_error h with hunfold | ⟨_, _, h⟩
  · unfold unfoldLines at hunfold
    split at hunfold
    · cases hunfold
    · split at hunfold
      · rw [← Except.error.inj hunfold]
        exact Violation.noConfusion
      · cases hunfold
  · obtain ⟨line, _, hline⟩ := exists_of_mapM_eq_error h
    split at hline
    · cases hline
    · rw [← Except.error.inj hline]
      exact Violation.noConfusion

/-- A complete head is not refused for its size. -/
theorem ne_tooLong_of_ofLines (h : ofLines lines = .error v) : v ≠ .tooLong := by
  unfold ofLines at h
  split at h
  · rw [← Except.error.inj h]
    exact Violation.noConfusion
  · split at h
    · rw [← Except.error.inj h]
      exact Violation.noConfusion
    · rcases of_bind_eq_error h with hfields | ⟨_, _, h⟩
      · rcases of_bind_eq_error hfields with hread | ⟨_, _, hcheck⟩
        · exact ne_tooLong_of_readFields hread
        · rcases of_bind_eq_error hcheck with hfold | ⟨_, _, hcheck⟩
          · exact ne_tooLong_of_foldlM hfold
          · cases hcheck
      · split at h
        · rw [← Except.error.inj h]
          exact Violation.noConfusion
        · cases h

end Head

/-! ### Reading a head

  The three outcomes exclude one another, so it is enough to follow the recursion of the reader and to find in each
  case one of them.  A fill that succeeds leaves the question as it was, one that is refused answers it. -/

variable {inbox inbox' : Inbox} {s s' : Stream}

theorem Inbox.not_overflows (h : ∀ got, Whole.unfinished? (inbox.buffer ++ got) = none) : ¬ inbox.Overflows s := by
  rintro ⟨got, w, _, hw, _⟩
  rw [h got] at hw
  cases hw

/-- After the end of the stream nothing comes to what is there. -/
theorem Inbox.not_overflows_of_ended (h : inbox.Sound s) (hended : inbox.ended = true)
    (hb : takeBlock inbox.buffer = none) (hshort : inbox.buffer.length ≤ maxWaiting) : ¬ inbox.Overflows s := by
  rintro ⟨got, w, hgot, hw, hlong⟩
  have hprefix := hgot.prefix_data h.plain
  rw [h.ended hended] at hprefix
  obtain rfl : got = [] := List.prefix_nil.mp hprefix
  rw [List.append_nil] at hw
  rw [Whole.eq_of_unfinished? hb hw] at hlong
  exact absurd hlong (Nat.not_lt_of_le hshort)

/-- What a read does that is made. -/
theorem Inbox.of_fill (h : inbox.fill s = (.ok inbox', s')) :
    inbox.buffer.length ≤ maxWaiting ∧ ∃ data, Stream.takeScript Stream.readSize s.incoming = (.ok data, s'.incoming) ∧
      inbox'.buffer = inbox.buffer ++ data := by
  rw [fill] at h
  split at h
  · cases h
  · rename_i hshort
    split at h
    · cases h
    · split at h
      · rename_i data t hread
        obtain ⟨hinbox, rfl⟩ := Prod.mk.inj h
        refine ⟨Nat.le_of_not_lt hshort, data, ?_, ?_⟩
        · rw [Stream.read, Stream.readUpTo] at hread
          obtain ⟨hdata, hrest⟩ := Prod.mk.inj hread
          rw [← hrest]
          exact Prod.ext hdata rfl
        · rw [← Except.ok.inj hinbox, receive]
          split
          · rename_i hempty
            rw [List.isEmpty_iff.mp hempty, List.append_nil]
          · rfl
      · cases h

/-- A read is refused because too much waits, or else because the stream has ended. -/
theorem Inbox.of_fill_error {e : ReadFailure} (h : inbox.Sound s) (hf : inbox.fill s = (.error e, s')) :
    (maxWaiting < inbox.buffer.length ∧ e = .violation .tooLong) ∨
      (inbox.buffer.length ≤ maxWaiting ∧ inbox.ended = true ∧ e = .violation .closedEarly) := by
  rw [fill] at hf
  split at hf
  · rename_i hlong
    exact Or.inl ⟨hlong, (Except.error.inj (Prod.mk.inj hf).1).symm⟩
  · rename_i hshort
    split at hf
    · rename_i hended
      exact Or.inr ⟨Nat.le_of_not_lt hshort, hended, (Except.error.inj (Prod.mk.inj hf).1).symm⟩
    · obtain ⟨data, t, hread, _⟩ := Stream.read_plain h.plain
      rw [hread] at hf
      cases hf

/-- The reads that are left overflow as they did before one of them, if it was made. -/
theorem Inbox.overflows_fill (h : inbox.fill s = (.ok inbox', s')) (hb : takeBlock inbox.buffer = none) :
    inbox'.Overflows s' ↔ inbox.Overflows s := by
  obtain ⟨hshort, data, htake, hbuffer⟩ := of_fill h
  constructor
  · rintro ⟨got, w, hgot, hw, hlong⟩
    rw [hbuffer, List.append_assoc] at hw
    exact ⟨data ++ got, w, .read htake hgot, hw, hlong⟩
  · rintro ⟨got, w, hgot, hw, hlong⟩
    cases hgot with
    | start =>
      -- what is there now is within the limit
      rw [List.append_nil] at hw
      rw [Whole.eq_of_unfinished? hb hw] at hlong
      exact absurd hlong (Nat.not_lt_of_le hshort)
    | read htake' hgot' =>
      rw [htake, Prod.mk.injEq, Except.ok.injEq] at htake'
      obtain ⟨rfl, rfl⟩ := htake'
      rw [← List.append_assoc, ← hbuffer] at hw
      exact ⟨_, w, hgot', hw, hlong⟩

/-- What reading a head comes to: refused for its size if too much waits at the end of some read, and otherwise what
    the bytes come to without regard to their size. -/
inductive Inbox.Settles (inbox : Inbox) (s : Stream) : Except ReadFailure (Head × Inbox) × Stream → Prop
  | overflows {s' : Stream} (hover : inbox.Overflows s) : Settles inbox s (.error (.violation .tooLong), s')
  | found {head : Head} {inbox' : Inbox} {s' : Stream} (hover : ¬ inbox.Overflows s)
      (hhead : Whole.head? (inbox.total s) = some (head, inbox'.total s')) : Settles inbox s (.ok (head, inbox'), s')
  | fails {v : Violation} {s' : Stream} (hover : ¬ inbox.Overflows s) (hv : v ≠ .tooLong)
      (hhead : Whole.head? (inbox.total s) = none) : Settles inbox s (.error (.violation v), s')

/-- A reader that has gone on comes to what it would have come to. -/
theorem Inbox.Settles.of_same {result : Except ReadFailure (Head × Inbox) × Stream} (h : inbox'.Settles s' result)
    (hover : inbox'.Overflows s' ↔ inbox.Overflows s)
    (hhead : Whole.head? (inbox'.total s') = Whole.head? (inbox.total s)) : inbox.Settles s result := by
  cases h with
  | overflows hover' => exact .overflows (hover.mp hover')
  | found hover' hhead' => exact .found (mt hover.mpr hover') (hhead.symm.trans hhead')
  | fails hover' hv hhead' => exact .fails (mt hover.mpr hover') hv (hhead.symm.trans hhead')

/-- **A head is refused for its size exactly when too much of it waits at the end of a read.** -/
theorem readHead_settles (h : inbox.Sound s) : inbox.Settles s (readHead inbox s) := by
  fun_induction readHead inbox s with
  | case1 inbox s lines rest hb v hv =>
    have hlonger (more : Bytes) := takeBlock_front.append hb more
    refine .fails (Inbox.not_overflows fun got => Whole.unfinished?_of_last (hlonger got) fun head hhead => ?_)
      (Head.ne_tooLong_of_ofLines hv) ?_
    · cases hv.symm.trans hhead
    · rw [Inbox.total, Whole.head?_eq, hlonger]
      dsimp only
      rw [hv]
  | case2 inbox s lines rest hb head hh hi =>
    have hlonger (more : Bytes) := takeBlock_front.append hb more
    exact .found (Inbox.not_overflows fun got => Whole.unfinished?_of_final (hlonger got) hh hi)
      (Whole.head?_of_final (hlonger _) hh hi).1
  | case3 inbox s lines rest hb head hh hi hs =>
    have hlonger (more : Bytes) := takeBlock_front.append hb more
    refine .fails (Inbox.not_overflows fun got => Whole.unfinished?_of_last (hlonger got) fun head' hhead _ => ?_)
      Violation.noConfusion ?_
    · rw [← Except.ok.inj (hh.symm.trans hhead), hs]
    · rw [Inbox.total, Whole.head?_eq, hlonger]
      dsimp only
      rw [hh]
      dsimp only
      rw [if_neg hi, if_pos hs]
  | case4 inbox s lines rest hb head hh hi hs hlt ih =>
    have hlonger (more : Bytes) := takeBlock_front.append hb more
    refine (ih ⟨h.plain, h.ended⟩).of_same ?_ (Whole.head?_of_interim (hlonger _) hh hi hs).1.symm
    have hsame (got : Bytes) := Whole.unfinished?_of_interim (hlonger got) hh hi hs
    simp only [Inbox.Overflows, hsame]
  | case5 inbox s hb hc =>
    have hlonger (more : Bytes) := Whole.startsWithControl_append hc more
    exact .fails (Inbox.not_overflows fun got => Whole.unfinished?_of_startsWithControl (hlonger got))
      Violation.noConfusion (Whole.head?_of_startsWithControl (hlonger _))
  | case6 inbox s hb hc he =>
    rw [Bool.and_eq_true, List.isEmpty_iff] at he
    refine .fails (Inbox.not_overflows_of_ended h he.2 hb (he.1 ▸ Nat.zero_le _)) Violation.noConfusion ?_
    rw [Inbox.total, h.ended he.2, Script.data, List.append_nil, Whole.head?_eq, hb]
  | case7 inbox s hb hc he e s' hf =>
    rcases Inbox.of_fill_error h hf with ⟨hlong, rfl⟩ | ⟨hshort, hended, rfl⟩
    · refine .overflows ⟨[], inbox.buffer, .start _, ?_, hlong⟩
      rw [List.append_nil]
      exact Whole.unfinished?_of_waits hb (Bool.eq_false_iff.mpr hc)
    · refine .fails (Inbox.not_overflows_of_ended h hended hb hshort) Violation.noConfusion ?_
      rw [Inbox.total, h.ended hended, Script.data, List.append_nil, Whole.head?_eq, hb]
  | case8 inbox s hb hc he inbox' s' hf hlt ih =>
    rcases Inbox.fill_sound h with ⟨inbox'', s'', hf', hsound, htotal⟩ | ⟨v, hf', _⟩
    · rw [hf, Prod.mk.injEq, Except.ok.injEq] at hf'
      obtain ⟨rfl, rfl⟩ := hf'
      exact (ih hsound).of_same (Inbox.overflows_fill hf hb) (congrArg Whole.head? htotal)
    · rw [hf] at hf'
      cases hf'

/-! ## Reading the head of an answer

  What waits is now compared with the heads themselves.  Both bounds are by one argument: the bytes of a head up to
  some place are no complete block, so they wait if a read ends there.  For the lower bound every such place is
  below the limit, and for the upper one there is a read that ends above it. -/

/-- Bytes that begin with an answer whose head may be shown, whatever its size. -/
def Whole.Readable (b : Bytes) : Prop := ∃ head rest, head? b = some (head, rest) ∧ isPresentable head = true

/-- **Too much waits only inside a head that is too long**, by two bytes or more if it is complete in the end. -/
theorem Inbox.Overflows.exists_long (h : inbox.Overflows s) (hplain : s.incoming.Plain) :
    (∃ item ∈ Whole.heads (inbox.total s), maxWaiting + 1 < item.length) ∨
      ∃ w, Whole.unfinished? (inbox.total s) = some w ∧ maxWaiting < w.length := by
  obtain ⟨got, w, hgot, hw, hlong⟩ := h
  obtain ⟨more, hmore⟩ := hgot.prefix_data hplain
  have hne : w ≠ [] := List.ne_nil_of_length_pos (Nat.zero_lt_of_lt hlong)
  rw [total, ← hmore, ← List.append_assoc]
  refine (Whole.grows_of_unfinished? hw hne more).imp ?_ ?_
  · rintro ⟨item, hmem, hlen⟩
    exact ⟨item, hmem, Nat.lt_of_le_of_lt hlong hlen⟩
  · intro hmore'
    exact ⟨w ++ more, hmore', List.length_append ▸ Nat.lt_add_right _ hlong⟩

/-- **Too much waits inside a head that is longer than the limit by more than a read**, or else it is no head. -/
theorem Inbox.overflows_of_long (hplain : s.incoming.Plain) {item : Bytes} (hmem : item ∈ Whole.heads s.incoming.data)
    (hlong : maxWaiting + Stream.readSize < item.length) :
    Inbox.Overflows {} s ∨ Whole.head? s.incoming.data = none := by
  obtain ⟨before, after, lines, hdata, hitem, hskip⟩ := Whole.exists_of_mem_heads hmem
  have hlength : s.incoming.data.length = before.length + (item.length + after.length) := by
    rw [hdata, List.length_append, List.length_append]
  -- a read ends inside the item, above the limit
  obtain ⟨got, hgot, hle, hlt⟩ := Script.exists_arrives hplain (n := before.length + (maxWaiting + 1)) (by omega)
  have hprefix := hgot.prefix_data hplain
  obtain ⟨w, rfl⟩ : before <+: got :=
    List.prefix_of_prefix_length_le (hdata ▸ List.prefix_append before _) hprefix (by omega)
  rw [List.length_append] at hle hlt
  obtain ⟨more, hmore⟩ : w <+: item ++ after := by rwa [hdata, List.prefix_append_right_inj] at hprefix
  have hwaits : takeBlock w = none := by
    cases hw : takeBlock w with
    | none => rfl
    | some found =>
      have hwhole := takeBlock_front.append hw more
      rw [hmore, hitem, Option.some.injEq, Prod.mk.injEq] at hwhole
      have hsize := congrArg List.length hmore
      have hafter := congrArg List.length hwhole.2
      rw [List.length_append, List.length_append] at hsize
      rw [List.length_append] at hafter
      omega
  cases hc : startsWithControl w with
  | true =>
    right
    rw [hdata, (hskip _).2, ← hmore]
    exact Whole.head?_of_startsWithControl (Whole.startsWithControl_append hc more)
  | false =>
    exact Or.inl ⟨before ++ w, w, hgot, (hskip w).1.trans (Whole.unfinished?_of_waits hwaits hc), by omega⟩

namespace Response

variable {url : Url} {method : Text} {pieces : List Bytes} {b : Bytes}

/-- What reading the head of an answer comes to. -/
theorem beginRead_cases (h : Inbox.Sound {} s) (hurl : ∀ c ∈ url.rawHost, isAscii c = true)
    (hmethod : Header.isToken method = true) :
    (Inbox.Overflows {} s ∧ ∃ s', beginRead s url method = (.error (.response (.malformed .tooLong)), s')) ∨
    ¬ Inbox.Overflows {} s ∧
      ((Whole.Readable s.incoming.data ∧ ∃ r s', beginRead s url method = (.ok r, s')) ∨
       (¬ Whole.Readable s.incoming.data ∧ ∃ e s', beginRead s url method = (.error (.response e), s') ∧
          e ≠ .malformed .tooLong)) := by
  have hsettles := readHead_settles h
  rw [beginRead, checkRequest_of_token hurl hmethod]
  dsimp only
  rcases hread : readHead {} s with ⟨result, s'⟩
  rw [hread] at hsettles
  cases hsettles with
  | overflows hover => exact Or.inl ⟨hover, s', rfl⟩
  | fails hover hv hhead =>
    have hnot : ¬ Whole.Readable s.incoming.data := by
      rintro ⟨head, rest, hsome, _⟩
      cases hhead.symm.trans hsome
    exact Or.inr ⟨hover, Or.inr ⟨hnot, _, s', rfl, fun he => hv (ResponseError.malformed.inj he)⟩⟩
  | found hover hhead =>
    rename_i head inbox'
    refine Or.inr ⟨hover, ?_⟩
    dsimp only
    cases hp : Whole.isPresentable head with
    | true =>
      obtain ⟨r, hofHead, _⟩ := ofHead_of_presentable hp url (upper method) inbox'
      exact Or.inl ⟨⟨head, _, hhead, hp⟩, r, s', congrArg (·, s') hofHead⟩
    | false =>
      obtain ⟨e, he⟩ := ofHead_of_unpresentable hp url (upper method) inbox'
      refine Or.inr ⟨?_, _, s', congrArg (·, s') he, ResponseError.noConfusion⟩
      rintro ⟨head', rest, hsome, hp'⟩
      rw [(Prod.mk.inj (Option.some.inj (hhead.symm.trans hsome))).1, hp'] at hp
      exact Bool.noConfusion hp

/-- **One byte over the limit is let through in every division**: an answer is read if no head of it is longer. -/
theorem exists_beginRead_of_short (h : Inbox.Sound {} s) (hurl : ∀ c ∈ url.rawHost, isAscii c = true)
    (hmethod : Header.isToken method = true) (hreadable : Whole.Readable s.incoming.data)
    (hsize : ∀ item ∈ Whole.heads s.incoming.data, item.length ≤ maxWaiting + 1) :
    ∃ r s', beginRead s url method = (.ok r, s') := by
  rcases beginRead_cases h hurl hmethod with ⟨hover, _⟩ | ⟨_, ⟨_, hread⟩ | ⟨hunreadable, _⟩⟩
  · rcases hover.exists_long h.plain with ⟨item, hmem, hlong⟩ | ⟨w, hw, _⟩
    · exact absurd (hsize item hmem) (Nat.not_le_of_lt hlong)
    · obtain ⟨head, rest, hhead, _⟩ := hreadable
      cases hw.symm.trans (Whole.unfinished?_of_head? hhead)
  · exact hread
  · exact absurd hreadable hunreadable

/-- What the limit on heads does to an answer, given all of its bytes. -/
structure Limited (s : Stream) (url : Url) (method : Text) (b : Bytes) : Prop where
  /-- a head is refused for its size exactly when too much of it waits at the end of a read -/
  refused : (∃ s', beginRead s url method = (.error (.response (.malformed .tooLong)), s')) ↔ Inbox.Overflows {} s
  /-- the size counts for nothing otherwise -/
  returned : (∃ r s', beginRead s url method = (.ok r, s')) ↔ ¬ Inbox.Overflows {} s ∧ Whole.Readable b
  /-- every error blames the answer -/
  blamed : ∀ e s', beginRead s url method = (.error e, s') → ∃ why, e = .response why
  /-- no answer is read with a head that is longer than the limit by more than a read -/
  long : ∀ item ∈ Whole.heads b, maxWaiting + Stream.readSize < item.length →
    ∃ why s', beginRead s url method = (.error (.response why), s')
  /-- too much never waits unless a head, or what there is of one, is longer than the limit -/
  short : Inbox.Overflows {} s → (∃ item ∈ Whole.heads b, maxWaiting + 1 < item.length) ∨
    ∃ w, Whole.unfinished? b = some w ∧ maxWaiting < w.length

/-- **What the limit on the size of a head does**, in any division of any bytes. -/
theorem beginRead_limited (hpieces : s.incoming = pieces.map Piece.bytes) (hne : ∀ b ∈ pieces, b ≠ [])
    (hurl : ∀ c ∈ url.rawHost, isAscii c = true) (hmethod : Header.isToken method = true) :
    Limited s url method pieces.flatten := by
  have hdata : s.incoming.data = pieces.flatten := by rw [hpieces, Script.data_map_bytes]
  have hsound : Inbox.Sound {} s :=
    ⟨hpieces ▸ Script.plain_map_bytes hne, fun h => absurd h Bool.false_ne_true⟩
  rw [← hdata]
  have hshort (hover : Inbox.Overflows {} s) := hover.exists_long hsound.plain
  have hlong {item : Bytes} (hmem : item ∈ Whole.heads s.incoming.data)
      (hsize : maxWaiting + Stream.readSize < item.length) :
      Inbox.Overflows {} s ∨ ¬ Whole.Readable s.incoming.data := by
    refine (Inbox.overflows_of_long hsound.plain hmem hsize).imp_right ?_
    rintro hnone ⟨head, rest, hsome, _⟩
    cases hnone.symm.trans hsome
  rcases beginRead_cases hsound hurl hmethod with
    ⟨hover, s', hread⟩ | ⟨hover, ⟨hreadable, r, s', hread⟩ | ⟨hreadable, e, s', hread, he⟩⟩
  · -- refused for its size
    refine ⟨iff_of_true ⟨s', hread⟩ hover, iff_of_false ?_ fun h => h.1 hover, ?_, ?_, hshort⟩
    · rintro ⟨r, t, hok⟩
      cases hread.symm.trans hok
    · exact fun e t herror => ⟨_, (Except.error.inj (Prod.mk.inj (hread.symm.trans herror)).1).symm⟩
    · exact fun item _ _ => ⟨_, s', hread⟩
  · -- read
    refine ⟨iff_of_false ?_ hover, iff_of_true ⟨r, s', hread⟩ ⟨hover, hreadable⟩, ?_, ?_, hshort⟩
    · rintro ⟨t, herror⟩
      cases hread.symm.trans herror
    · intro e t herror
      cases hread.symm.trans herror
    · intro item hmem hsize
      rcases hlong hmem hsize with hover' | hunreadable
      · exact absurd hover' hover
      · exact absurd hreadable hunreadable
  · -- refused for something else
    refine ⟨iff_of_false ?_ hover, iff_of_false ?_ fun h => hreadable h.2, ?_, ?_, hshort⟩
    · rintro ⟨t, herror⟩
      exact he (Failure.response.inj (Except.error.inj (Prod.mk.inj (hread.symm.trans herror)).1))
    · rintro ⟨r, t, hok⟩
      cases hread.symm.trans hok
    · exact fun e' t herror => ⟨_, (Except.error.inj (Prod.mk.inj (hread.symm.trans herror)).1).symm⟩
    · exact fun item _ _ => ⟨e, s', hread⟩

/-- A head with one field of this many characters. -/
def wideHead (n : Nat) : Head :=
  { version := "1.1".toList, status := 200, reason := "OK".toList,
    fields := [{ name := "X".toList, value := List.replicate n 'a' }] }

/-- A head of one wide field is a head that may be sent. -/
theorem ordinary_wideHead (n : Nat) : (wideHead n).Ordinary := by
  have hreason : "OK".toList.all Header.isValueChar = true := by decide
  have hname : Header.isToken "X".toList = true ∧ Head.asciiLower "X".toList ≠ Head.lengthName ∧
      Head.asciiLower "X".toList ≠ Head.codingName := by decide
  have hchar : Header.isValueChar 'a' = true ∧ Header.isPadding 'a' = false := by decide
  have hvalue : ∀ c ∈ List.replicate n 'a', Header.isValueChar c = true ∧ Header.isPadding c = false := fun c hc =>
    List.eq_of_mem_replicate hc ▸ hchar
  have hfield : Header.Ordinary { name := "X".toList, value := List.replicate n 'a' } :=
    ⟨hname.1, hname.2.1, hname.2.2, fun c hc => (hvalue c hc).1, fun c hc => (hvalue c (List.mem_of_mem_head? hc)).2,
      fun c hc => (hvalue c (List.mem_of_getLast? hc)).2⟩
  exact ⟨Or.inr rfl, Nat.le_add_left 100 100, Nat.le_add_right 200 799, List.all_eq_true.mp hreason,
    List.forall_mem_singleton.mpr hfield⟩

/-- Around the value of its one field a wide head has twenty-four bytes. -/
theorem length_wideHead (n : Nat) : (wideHead n).render.length = n + 24 := by
  have hstatus : (wideHead n).statusLine = "HTTP/1.1 200 OK".toList := by
    have hdigits : decimal 200 = "200".toList := by decide
    rw [Head.statusLine_eq]
    show "HTTP/".toList ++ "1.1".toList ++ ' ' :: decimal 200 ++ ' ' :: "OK".toList = _
    rw [hdigits]
    rfl
  have hlines : (wideHead n).lines = ["HTTP/1.1 200 OK".toList, "X: ".toList ++ List.replicate n 'a'] := by
    rw [Head.lines, hstatus]
    rfl
  rw [Head.render, hlines, octets, List.length_map, block]
  simp only [List.flatMap_cons, List.flatMap_nil, List.length_append, List.length_replicate, List.length_nil, lineEnd]
  show 15 + 2 + (3 + n + 2 + 0) + 2 = n + 24
  omega

theorem readable_wideHead (n : Nat) :
    Whole.Readable (wideHead n).render ∧ Whole.heads (wideHead n).render = [(wideHead n).render] := by
  have hhead := ordinary_wideHead n
  obtain ⟨hfound, hheads⟩ := Whole.head?_render (List.forall_mem_nil _) hhead (Nat.le_refl 200) []
  rw [List.append_nil] at hfound hheads
  exact ⟨⟨_, _, hfound, hhead.presentable⟩, hheads⟩

/-- A head that is longer than the limit and a read together is refused, in one piece. -/
theorem beginRead_limited_of_wide :
    maxWaiting + Stream.readSize < (wideHead 200000).render.length ∧
      ∃ why s', beginRead { incoming := [.bytes (wideHead 200000).render] }
        { scheme := "http".toList, rawHost := "h".toList } "GET".toList = (.error (.response why), s') := by
  have hlong : maxWaiting + Stream.readSize < (wideHead 200000).render.length := by
    rw [length_wideHead]
    decide
  have hne : ∀ b ∈ [(wideHead 200000).render], b ≠ [] :=
    List.forall_mem_singleton.mpr (List.ne_nil_of_length_pos (Nat.zero_lt_of_lt hlong))
  have hurl : "h".toList.all isAscii = true := by decide
  have hlimited : Limited { incoming := [.bytes (wideHead 200000).render] }
      { scheme := "http".toList, rawHost := "h".toList } "GET".toList [(wideHead 200000).render].flatten :=
    beginRead_limited rfl hne (List.all_eq_true.mp hurl) (by decide)
  rw [List.flatten_singleton] at hlimited
  refine ⟨hlong, hlimited.long _ ?_ hlong⟩
  rw [(readable_wideHead 200000).2]
  exact List.mem_singleton_self _

/-- A head of one byte over the limit is read. -/
theorem beginRead_of_one_over :
    ∃ r s', beginRead { incoming := [.bytes (wideHead 102377).render] }
        { scheme := "http".toList, rawHost := "h".toList } "GET".toList = (.ok r, s') ∧
      Whole.heads (wideHead 102377).render = [(wideHead 102377).render] ∧
      maxWaiting < (wideHead 102377).render.length := by
  have hlength : (wideHead 102377).render.length = maxWaiting + 1 := length_wideHead 102377
  have hne : ∀ b ∈ [(wideHead 102377).render], b ≠ [] :=
    List.forall_mem_singleton.mpr (List.ne_nil_of_length_pos (hlength ▸ Nat.succ_pos _))
  have hurl : "h".toList.all isAscii = true := by decide
  have hsound : Inbox.Sound {} { incoming := [.bytes (wideHead 102377).render] } :=
    ⟨Script.plain_map_bytes hne, fun h => absurd h Bool.false_ne_true⟩
  have hdata : Script.data [.bytes (wideHead 102377).render] = (wideHead 102377).render := List.append_nil _
  obtain ⟨hreadable, hheads⟩ := readable_wideHead 102377
  have hsize : ∀ item ∈ Whole.heads (wideHead 102377).render, item.length ≤ maxWaiting + 1 := by
    rw [hheads]
    exact List.forall_mem_singleton.mpr hlength.le
  have hread : ∃ r s', beginRead { incoming := [.bytes (wideHead 102377).render] }
      { scheme := "http".toList, rawHost := "h".toList } "GET".toList = (.ok r, s') :=
    exists_beginRead_of_short hsound (List.all_eq_true.mp hurl) (by decide) (hdata.symm ▸ hreadable)
      (hdata.symm ▸ hsize)
  obtain ⟨r, s', hread⟩ := hread
  exact ⟨r, s', hread, hheads, hlength ▸ Nat.lt_succ_self _⟩

end Response

end Courier
