/-
  Reading an answer from all of its bytes at once.

  `Whole.reading` is the reference that the incremental reader is held against: it has the whole message in its hand
  and knows nothing of pieces, waiting or the end of a stream.

  * the head is the first block of lines that is not an interim head (`Whole.head?`);

  * there is no body after HEAD, with 204 and 304, and after a successful CONNECT;

  * otherwise the chunked coding goes before a length, and without either the body is all the rest (`Whole.body`,
    `Whole.dechunk`).

  `Whole.items` lists the complete heads, chunk-size lines and trailers of a message: the things that a reader must
  hold in full before it can go on, and whose size it limits.

  The functions follow the grammar by well-founded recursion on the bytes, of which each item takes some off the
  front.  Every one has an equation without its measure, and proofs use that and never unfold the function.

  The first half of the comparison is here: `readHead_eq_whole` says that the incremental reader of heads finds the
  head that the reference finds, wherever the bytes were divided.  Its induction is along the recursion of the
  reader, which has eight cases, and in each of them the reference is asked about the same bytes with more behind
  them.  That these do not matter is said once (`head?_of_final`, `head?_of_interim`, with the front cut of a
  block).

  Two cases need an argument.  A reader refuses bytes that begin with a control character before there is a block of
  lines; the reference has no such rule, but a block that begins like that has no status line, so it is no head
  either (`head?_of_startsWithControl`).  And a reader that is refused a read, for what waits or for the end of the
  stream, has no head in front of it, since every head of the answer is within the limit.
-/
import Courier.Proofs.Response.Feed

namespace Courier

/-- What comes of reading an answer. -/
inductive Reading
  /-- the head could not be read -/
  | headless
  /-- the head was read, and the body could not be -/
  | bodiless (head : Head)
  | complete (head : Head) (body : Bytes)
  deriving DecidableEq, Repr

namespace Whole

/-! ## Heads

  A head is the block up to the first empty line.  Interim heads are skipped, by recursion over what each of them
  leaves. -/

/-- The head of the answer, interim heads before it skipped, and what follows it. -/
def head? (b : Bytes) : Option (Head × Bytes) :=
  match h : takeBlock b with
  | none => none
  | some (lines, rest) =>
    match Head.ofLines lines with
    | .error _ => none
    | .ok head =>
      if !head.isInterim then some (head, rest)
      else if head.status = 101 then none
      else
        have : rest.length < b.length := length_lt_of_takeBlock h
        head? rest
termination_by b.length

/-- The bytes that a cut took: all but what it left. -/
def taken (b rest : Bytes) : Bytes := b.take (b.length - rest.length)

/-- The complete heads that are read: interim ones, and the first that is not. -/
def heads (b : Bytes) : List Bytes :=
  match h : takeBlock b with
  | none => []
  | some (lines, rest) =>
    taken b rest :: match Head.ofLines lines with
      | .error _ => []
      | .ok head =>
        if !head.isInterim then []
        else if head.status = 101 then []
        else
          have : rest.length < b.length := length_lt_of_takeBlock h
          heads rest
termination_by b.length

/-! ## Chunks

  A chunked body by recursion over its chunks, with the bytes that are left as the measure. -/

/-- The end of a chunked body: nothing more, if the trailer is complete and its fields can be read. -/
def trailer (b : Bytes) : Option Bytes :=
  match takeBlock b with
  | none => none
  | some (lines, _) =>
    match Head.readCheckedFields lines with
    | .error _ => none
    | .ok _ => some []

/-- The body that chunks carry: extensions and trailer are dropped. -/
def dechunk (b : Bytes) : Option Bytes :=
  match h : takeLine b with
  | none => none
  | some (line, rest) =>
    match Reader.readSize? line with
    | none => none
    | some 0 => trailer rest
    | some (n + 1) =>
      have : rest.length < b.length := length_lt_of_takeLine h
      if Reader.footer.isPrefixOf (rest.drop (n + 1)) then
        (dechunk (rest.drop (n + 3))).map (rest.take (n + 1) ++ ·)
      else none
termination_by b.length
decreasing_by rw [List.length_drop]; omega

/-- The complete trailer, if it is there. -/
def trailerItems (b : Bytes) : List Bytes :=
  match takeBlock b with
  | none => []
  | some (_, rest) => [taken b rest]

/-- The complete chunk-size lines, and the complete trailer. -/
def chunkItems (b : Bytes) : List Bytes :=
  match h : takeLine b with
  | none => []
  | some (line, rest) =>
    taken b rest :: match Reader.readSize? line with
      | none => []
      | some 0 => trailerItems rest
      | some (n + 1) =>
        have : rest.length < b.length := length_lt_of_takeLine h
        if Reader.footer.isPrefixOf (rest.drop (n + 1)) then chunkItems (rest.drop (n + 3)) else []
termination_by b.length
decreasing_by rw [List.length_drop]; omega

/-! ## Answers

  What the body is depends on the method, on the status and on the fields.  In the reference this is one definition
  with the three questions in a row. -/

/-- Whether an answer has no body whatever its fields say; the method is in upper case. -/
def isBare (method : Text) (head : Head) : Bool :=
  method == "HEAD".toList || head.status == 204 || head.status == 304 ||
    (method == "CONNECT".toList && (200 ≤ head.status && head.status < 300))

/-- Whether the fields of a head say that the body is chunked. -/
def isChunked (head : Head) : Bool := (head.field? Head.codingName).isSome

/-- The body of an answer from all the bytes after its head, nothing when they do not make one. -/
def body (method : Text) (head : Head) (rest : Bytes) : Option Bytes :=
  if isBare method head then some []
  else if isChunked head then dechunk rest
  else match head.field? Head.lengthName with
    | some digits =>
      if decimalValue digits ≤ rest.length then some (rest.take (decimalValue digits)) else none
    | none => some rest

/-- Whether the fields of a head are such as a caller may be given. -/
def isPresentable (head : Head) : Bool :=
  head.fields.all fun h => Header.isName h.name && Header.isValue h.value

/-- The answer to a request with this method, in upper case, from all of its bytes. -/
def reading (method : Text) (b : Bytes) : Reading :=
  match head? b with
  | none => .headless
  | some (head, rest) =>
    if !isPresentable head then .headless
    else match body method head rest with
      | none => .bodiless head
      | some body => .complete head body

/-- The complete heads, chunk-size lines and trailers of an answer. -/
def items (method : Text) (b : Bytes) : List Bytes :=
  heads b ++ match head? b with
    | none => []
    | some (head, rest) => if !isBare method head && isChunked head then chunkItems rest else []

/-! ## Equations without the proofs of termination

  The recursive definitions carry the proof that they end, and the equations here do not.  They are what the proofs
  about them rewrite with. -/

theorem head?_eq (b : Bytes) :
    head? b = match takeBlock b with
      | none => none
      | some (lines, rest) =>
        match Head.ofLines lines with
        | .error _ => none
        | .ok head =>
          if !head.isInterim then some (head, rest)
          else if head.status = 101 then none else head? rest := by
  rw [head?]
  split <;> (rename_i h; simp only [h])

theorem heads_eq (b : Bytes) :
    heads b = match takeBlock b with
      | none => []
      | some (lines, rest) =>
        taken b rest :: match Head.ofLines lines with
          | .error _ => []
          | .ok head =>
            if !head.isInterim then [] else if head.status = 101 then [] else heads rest := by
  rw [heads]
  split <;> (rename_i h; simp only [h])

theorem dechunk_eq (b : Bytes) :
    dechunk b = match takeLine b with
      | none => none
      | some (line, rest) =>
        match Reader.readSize? line with
        | none => none
        | some 0 => trailer rest
        | some (n + 1) =>
          if Reader.footer.isPrefixOf (rest.drop (n + 1)) then
            (dechunk (rest.drop (n + 3))).map (rest.take (n + 1) ++ ·)
          else none := by
  rw [dechunk]
  split <;> (rename_i h; simp only [h])

theorem chunkItems_eq (b : Bytes) :
    chunkItems b = match takeLine b with
      | none => []
      | some (line, rest) =>
        taken b rest :: match Reader.readSize? line with
          | none => []
          | some 0 => trailerItems rest
          | some (n + 1) =>
            if Reader.footer.isPrefixOf (rest.drop (n + 1)) then chunkItems (rest.drop (n + 3))
            else [] := by
  rw [chunkItems]
  split <;> (rename_i h; simp only [h])

/-- A head that is not interim is the head of the answer. -/
theorem head?_of_final {b rest : Bytes} {lines : List Bytes} {head : Head} (hb : takeBlock b = some (lines, rest))
    (hlines : Head.ofLines lines = .ok head) (hi : (!head.isInterim) = true) :
    head? b = some (head, rest) ∧ heads b = [taken b rest] := by
  rw [head?_eq, heads_eq, hb]
  dsimp only
  rw [hlines]
  dsimp only
  rw [if_pos hi, if_pos hi]
  exact ⟨rfl, rfl⟩

/-- An interim head is skipped. -/
theorem head?_of_interim {b rest : Bytes} {lines : List Bytes} {head : Head} (hb : takeBlock b = some (lines, rest))
    (hlines : Head.ofLines lines = .ok head) (hi : ¬ (!head.isInterim) = true) (hs : ¬ head.status = 101) :
    head? b = head? rest ∧ heads b = taken b rest :: heads rest := by
  rw [head?_eq, heads_eq, hb]
  dsimp only
  rw [hlines]
  dsimp only
  rw [if_neg hi, if_neg hs, if_neg hi, if_neg hs]
  exact ⟨rfl, rfl⟩

theorem length_taken {b rest : Bytes} : (taken b rest).length = b.length - rest.length := by
  rw [taken, List.length_take]
  omega

/-- An item in front of the rest is what is taken. -/
theorem taken_left (item rest : Bytes) : taken (item ++ rest) rest = item := by
  rw [taken, List.length_append, Nat.add_sub_cancel, List.take_left]

/-! ## What follows a head

  That more bytes behind a head change nothing is what makes reading piece by piece possible at all. -/

/-- More bytes behind both change nothing of what is taken. -/
theorem taken_append (b rest more : Bytes) :
    taken (b ++ more) (rest ++ more) = taken b rest := by
  rw [taken, taken, List.length_append, List.length_append, Nat.add_sub_add_right,
    List.take_append_of_le_length (Nat.sub_le _ _)]

/-- **What follows a head plays no part in it**: more bytes behind it leave the head and the heads before it as
    they are. -/
theorem head?_append {b rest : Bytes} {head : Head} (h : head? b = some (head, rest)) (more : Bytes) :
    head? (b ++ more) = some (head, rest ++ more) ∧ heads (b ++ more) = heads b := by
  -- along the recursion: the same blocks are cut, with more behind the last of them
  fun_induction head? b with
  | case1 b hb => exact absurd h (by simp)
  | case2 b lines after hb v hlines => exact absurd h (by simp)
  | case3 b lines after hb first hlines hi =>
    rw [Option.some.injEq, Prod.mk.injEq] at h
    obtain ⟨rfl, rfl⟩ := h
    obtain ⟨hhead, hheads⟩ := head?_of_final (takeBlock_front.append hb more) hlines hi
    rw [taken_append] at hheads
    exact ⟨hhead, hheads.trans (head?_of_final hb hlines hi).2.symm⟩
  | case4 b lines after hb first hlines hi hs => exact absurd h (by simp)
  | case5 b lines after hb first hlines hi hs hlt ih =>
    obtain ⟨hhead, hheads⟩ := head?_of_interim (takeBlock_front.append hb more) hlines hi hs
    obtain ⟨ihhead, ihheads⟩ := ih h
    rw [taken_append, ihheads] at hheads
    exact ⟨hhead.trans ihhead, hheads.trans (head?_of_interim hb hlines hi hs).2.symm⟩

/-! ## The incremental reader finds the same head

  The reader skips an interim head when it is complete, gives up early on bytes that begin with a control character,
  and otherwise waits.  In each of these cases it does what the reference does with all of the bytes, so the two
  agree by induction along the recursion of the reader. -/

/-- The lines that were there come first in a block. -/
theorem prefix_of_takeBlockFrom {lines result : List Bytes} {b rest : Bytes}
    (h : takeBlockFrom lines b = some (result, rest)) : lines.reverse <+: result := by
  induction hn : b.length using Nat.strongRecOn generalizing lines b with
  | ind n ih =>
    subst hn
    obtain ⟨line, after, hcut, ⟨_, rfl, _⟩ | ⟨_, hrest⟩⟩ := takeBlockFrom_cases h
    · exact List.prefix_rfl
    · have hp := ih after.length (length_lt_of_cut hcut) hrest rfl
      rw [List.reverse_cons] at hp
      exact (List.prefix_append _ _).trans hp

/-- A status line begins with a letter. -/
theorem readStatusLine?_of_lt {c : UInt8} (hc : c < 33) (t : Bytes) :
    Head.readStatusLine? (c :: t) = none := by
  have hne : (72 == c) = false := by
    rw [beq_eq_false_iff_ne]
    intro h
    rw [← h] at hc
    exact absurd hc (by decide)
  have hp : Head.versionMark.isPrefixOf (c :: t) = false := by
    rw [Head.versionMark, List.isPrefixOf_cons_cons, hne, Bool.false_and]
  rw [Head.readStatusLine?, hp]
  rfl

/-- A line that keeps something of itself keeps its first byte. -/
theorem head?_dropCarriageReturn {line : Bytes} (h : dropCarriageReturn line ≠ []) :
    (dropCarriageReturn line).head? = line.head? := by
  rw [dropCarriageReturn] at h ⊢
  split at h
  · rename_i hlast
    rw [if_pos hlast]
    cases line with
    | nil => rfl
    | cons a u =>
      cases u with
      | nil => exact absurd rfl h
      | cons d u => rfl
  · rename_i hlast
    rw [if_neg hlast]

/-- A block whose first byte is a control character or a space is no head. -/
theorem ofLines_of_startsWithControl {b rest : Bytes} {lines : List Bytes}
    (hb : startsWithControl b = true) (h : takeBlock b = some (lines, rest)) :
    ∃ v, Head.ofLines lines = .error v := by
  cases b with
  | nil => exact absurd hb (by decide)
  | cons c t =>
    have hc : c < 33 := by simpa [startsWithControl] using hb
    obtain ⟨line, after, hcut, ⟨_, rfl, _⟩ | ⟨hne, hrest⟩⟩ := takeBlockFrom_cases h
    · -- the block is empty
      exact ⟨_, rfl⟩
    · -- the status line begins with that byte
      obtain ⟨more, hlines⟩ := prefix_of_takeBlockFrom hrest
      have hstart : line.head? = some c := by
        have hwhole := congrArg List.head? (cut_eq_some hcut)
        cases line with
        | nil => exact absurd rfl hne
        | cons a u => exact hwhole.symm
      cases hline : dropCarriageReturn line with
      | nil => exact absurd hline hne
      | cons a u =>
        have ha : a = c := by
          have hhead := (head?_dropCarriageReturn hne).trans hstart
          rw [hline] at hhead
          exact Option.some.inj hhead
        rw [← hlines, hline, ha]
        show ∃ v, Head.ofLines ((c :: u) :: more) = .error v
        rw [Head.ofLines, readStatusLine?_of_lt hc]
        exact ⟨_, rfl⟩

/-- Bytes that begin with a control character or a space make no head. -/
theorem head?_of_startsWithControl {b : Bytes} (hb : startsWithControl b = true) : head? b = none := by
  rw [head?_eq]
  cases h : takeBlock b with
  | none => rfl
  | some found =>
    obtain ⟨v, hv⟩ := ofLines_of_startsWithControl hb h
    dsimp only
    rw [hv]

/-- A block that is complete is one of the heads, whether it can be read or not. -/
theorem taken_mem_heads {b rest : Bytes} {lines : List Bytes}
    (h : takeBlock b = some (lines, rest)) : taken b rest ∈ heads b := by
  rw [heads_eq, h]
  exact List.mem_cons_self ..

theorem startsWithControl_append {b : Bytes} (h : startsWithControl b = true) (more : Bytes) :
    startsWithControl (b ++ more) = true := by
  cases b with
  | nil => exact absurd h (by decide)
  | cons c t => exact h

/-- **Heads do not depend on the division.**  Whatever has come and whatever is to come, the reader
    finds the head that stands at the front of both together, and fails when there is none. -/
theorem readHead_eq_whole {inbox : Inbox} {s : Stream} (h : inbox.Sound s)
    (hsize : ∀ item ∈ heads (inbox.total s), item.length ≤ maxWaiting) :
    (∃ head inbox' s', readHead inbox s = (.ok (head, inbox'), s') ∧ inbox'.Sound s' ∧
      head? (inbox.total s) = some (head, inbox'.total s')) ∨
    (∃ v s', readHead inbox s = (.error (.violation v), s') ∧ head? (inbox.total s) = none) := by
  -- along the recursion of the reader; the reference looks at the same bytes with all that is to come behind them
  fun_induction readHead inbox s with
  | case1 inbox s lines rest hb v hv =>
    refine Or.inr ⟨v, s, rfl, ?_⟩
    rw [Inbox.total, head?_eq, takeBlock_front.append hb s.incoming.data]
    dsimp only
    rw [hv]
  | case2 inbox s lines rest hb head hh hi =>
    exact Or.inl ⟨head, _, s, rfl, ⟨h.plain, h.ended⟩,
      (head?_of_final (takeBlock_front.append hb s.incoming.data) hh hi).1⟩
  | case3 inbox s lines rest hb head hh hi hs =>
    refine Or.inr ⟨.unaskedUpgrade, s, rfl, ?_⟩
    rw [Inbox.total, head?_eq, takeBlock_front.append hb s.incoming.data]
    dsimp only
    rw [hh]
    dsimp only
    rw [if_neg hi, if_pos hs]
  | case4 inbox s lines rest hb head hh hi hs hlt ih =>
    obtain ⟨hhead, hheads⟩ := head?_of_interim (takeBlock_front.append hb s.incoming.data) hh hi hs
    rw [Inbox.total, hhead]
    rw [Inbox.total, hheads, List.forall_mem_cons] at hsize
    exact ih ⟨h.plain, h.ended⟩ hsize.2
  | case5 inbox s hb hc =>
    exact Or.inr ⟨.controlAtStart, s, rfl, head?_of_startsWithControl (startsWithControl_append hc _)⟩
  | case6 inbox s hb hc he =>
    rw [Bool.and_eq_true, List.isEmpty_iff] at he
    refine Or.inr ⟨.closedBeforeHead, s, rfl, ?_⟩
    rw [Inbox.total, h.ended he.2, Script.data, List.append_nil, head?_eq, hb]
  | case7 inbox s hb hc he e s' hf =>
    -- refused for its length or for the end of the stream: either way no head is complete
    rcases Inbox.fill_sound h with ⟨inbox', s'', hf', _⟩ | ⟨v, hf', hwhy⟩
    · rw [hf] at hf'
      exact absurd hf' (by simp)
    · rw [hf, Prod.mk.injEq, Except.error.injEq] at hf'
      obtain ⟨rfl, rfl⟩ := hf'
      refine Or.inr ⟨v, s', rfl, ?_⟩
      have hnone : takeBlock (inbox.total s') = none := by
        refine takeBlock_front.none_of_waits hb (fun lines rest hw => ?_)
          (hwhy.imp_right fun hended => by rw [h.ended hended]; rfl)
        exact length_taken ▸ hsize _ (taken_mem_heads hw)
      rw [head?_eq, hnone]
  | case8 inbox s hb hc he inbox' s' hf hlt ih =>
    rcases Inbox.fill_sound h with ⟨inbox'', s'', hf', hsound, htotal⟩ | ⟨v, hf', _⟩
    · rw [hf, Prod.mk.injEq, Except.ok.injEq] at hf'
      obtain ⟨rfl, rfl⟩ := hf'
      rw [← htotal] at hsize ⊢
      exact ih hsound hsize
    · rw [hf] at hf'
      exact absurd hf' (by simp)

end Whole

end Courier
