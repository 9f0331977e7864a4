/-
  What a reader of responses has, and what is still to come.

  The reader sees the bytes of a server in pieces.  This file gives the view in which the pieces do not show:
  `Inbox.total` is what was received and not consumed, followed by everything that the script still holds.  A read
  moves bytes from the right half to the left one and leaves the total as it is (`Inbox.fill_sound`).

  The cuts of the grammar look at nothing behind what they take (`FrontCut`): a cut that finds its item finds the
  same item when more bytes have come, and one that waits has not yet got the whole item.  These two facts
  (`FrontCut.append`, `FrontCut.none_of_waits`) are all that the proofs about reading use of `takeBlock` and
  `takeLine`.

  Why this is the right property of a cut: a reader tries its cut again and again while bytes arrive, each time on a
  longer inbox.  That the outcome does not depend on the division of the bytes needs two things.  What the cut finds
  early it must also find late, so there is an item in front that decides alone; and what it does not find it must
  not have been able to find, so the item is longer than the inbox.  Both are read off the definition in a line
  each.

  The limit enters through the second one.  A reader gives up when more than `maxWaiting` bytes wait without an
  item; the whole answer then has no item within that limit at this place, and the statement about the whole says
  the same.

  The two cuts are the two ways in which the grammar divides bytes.  A block is lines up to an empty one, each with
  or without a carriage return (`takeBlockFrom_front`, by induction on the bytes, one line a step); a line of a
  chunk size ends at the first carriage return that a line feed follows (`takeLineFrom_front`, along its recursion).
  A line that is found in a front of the bytes must not become another one when the bytes go on, and the last byte
  of a front may be a carriage return that waits for its line feed: this is the one case in which the second proof
  has to look at the item itself.
-/
import Courier.Response.Reader
import Courier.Proofs.Basic

namespace Courier

/-! ## Scripts without faults

  A script is what a stream has still to bring.  Here it has bytes only, in pieces that are not empty, and a read
  takes a part of the first piece.  Then there is one way for a read to bring nothing, which is the end. -/

/-- All bytes of a script in order. -/
def Script.data : Script → Bytes
  | [] => []
  | .bytes b :: rest => b ++ Script.data rest
  | .fault _ :: rest => Script.data rest

/-- A script of pieces that are not empty, with no fault: only its end reads as the end. -/
def Script.Plain (script : Script) : Prop := ∀ p ∈ script, ∃ b, b ≠ [] ∧ p = .bytes b

/-- The bytes of a script of pieces are the pieces put together. -/
theorem Script.data_map_bytes (pieces : List Bytes) :
    Script.data (pieces.map Piece.bytes) = pieces.flatten := by
  induction pieces with
  | nil => rfl
  | cons b rest ih =>
    rw [List.map_cons, List.flatten_cons, ← ih]
    rfl

/-- Pieces that are not empty make a plain script. -/
theorem Script.plain_map_bytes {pieces : List Bytes} (h : ∀ b ∈ pieces, b ≠ []) :
    Script.Plain (pieces.map Piece.bytes) := by
  intro p hp
  obtain ⟨b, hb, rfl⟩ := List.mem_map.mp hp
  exact ⟨b, h b hb, rfl⟩

theorem Script.data_append (script rest : Script) : Script.data (script ++ rest) = script.data ++ Script.data rest := by
  induction script with
  | nil => rfl
  | cons p t ih =>
    cases p with
    | bytes b =>
      show b ++ Script.data (t ++ rest) = b ++ Script.data t ++ Script.data rest
      rw [ih, List.append_assoc]
    | fault f => exact ih

/-- The read size is no negative number, so it cuts. -/
theorem Stream.takePiece_readSize (b : Bytes) :
    takePiece readSize b = (b.take readSize, b.drop readSize) := by
  have h : ¬ (readSize : Int) < 0 := by omega
  simp only [takePiece, if_neg h, Int.toNat_natCast]

/-- A read of a piece hands out bytes of it, and what it does not take of the piece stays in the script. -/
theorem Stream.takeScript_bytes {b : Bytes} (hb : b ≠ []) (t : Script) :
    ∃ data left, takeScript readSize (.bytes b :: t) = (.ok data, left ++ t) ∧ data ≠ [] ∧
      data ++ Script.data left = b ∧ Script.Plain left := by
  have hne : b.take readSize ≠ [] := by
    intro hn
    rcases List.take_eq_nil_iff.mp hn with h0 | h0
    · exact absurd h0 (by decide)
    · exact hb h0
  have hsplit := List.take_append_drop readSize b
  by_cases hl : b.drop readSize = []
  · -- the piece is handed out whole
    refine ⟨b.take readSize, [], ?_, hne, ?_, fun q hq => absurd hq List.not_mem_nil⟩
    · rw [takeScript, takePiece_readSize, hl]
      rfl
    · rw [hl] at hsplit
      exact hsplit
  · -- what is too long for one read is a piece again
    have he : (b.drop readSize).isEmpty = false := by simpa using hl
    refine ⟨b.take readSize, [.bytes (b.drop readSize)], ?_, hne, ?_, ?_⟩
    · rw [takeScript, takePiece_readSize]
      dsimp only
      rw [he]
      rfl
    · show b.take readSize ++ (b.drop readSize ++ []) = b
      rw [List.append_nil, hsplit]
    · intro q hq
      exact ⟨_, hl, List.mem_singleton.mp hq⟩

/-- A read of a plain script hands out its first bytes, and none only at its end. -/
theorem Stream.takeScript_plain {script : Script} (h : script.Plain) :
    ∃ data rest, takeScript readSize script = (.ok data, rest) ∧ Script.Plain rest ∧
      data ++ Script.data rest = Script.data script ∧ (data = [] → rest = []) := by
  cases script with
  | nil => exact ⟨[], [], rfl, h, rfl, fun _ => rfl⟩
  | cons p t =>
    obtain ⟨b, hb, rfl⟩ := h p (List.mem_cons_self ..)
    obtain ⟨data, left, htake, hne, hdata, hleft⟩ := takeScript_bytes hb t
    refine ⟨data, left ++ t, htake, ?_, ?_, fun hn => absurd hn hne⟩
    · intro q hq
      exact (List.mem_append.mp hq).elim (hleft q) (fun hq => h q (List.mem_cons_of_mem _ hq))
    · show data ++ Script.data (left ++ t) = b ++ Script.data t
      rw [Script.data_append, ← List.append_assoc, hdata]

theorem Stream.read_plain {s : Stream} (h : s.incoming.Plain) :
    ∃ data s', s.read = (.ok data, s') ∧ s'.incoming.Plain ∧
      data ++ s'.incoming.data = s.incoming.data ∧ (data = [] → s'.incoming = []) := by
  obtain ⟨data, rest, htake, hrest, hdata, hend⟩ := takeScript_plain h
  refine ⟨data, { (s.note (.read readSize s.timeouts.read)) with incoming := rest }, ?_, hrest,
    hdata, hend⟩
  rw [read, readUpTo, htake]

/-! ## What has come and what is to come

  Bytes wait in an inbox or are still on the stream.  Every proof about readers goes by the two put together, which
  a fill does not change, and by whether the end was seen. -/

/-- Received and not consumed bytes, and then all that the script still holds. -/
def Inbox.total (inbox : Inbox) (s : Stream) : Bytes := inbox.buffer ++ s.incoming.data

/-- An inbox that fits its stream: nothing can come after the end was seen. -/
structure Inbox.Sound (inbox : Inbox) (s : Stream) : Prop where
  plain : s.incoming.Plain
  ended : inbox.ended = true → s.incoming = []

/-- Reading more keeps the total; it is refused only while too much waits or after the end. -/
theorem Inbox.fill_sound {inbox : Inbox} {s : Stream} (h : inbox.Sound s) :
    (∃ inbox' s', inbox.fill s = (.ok inbox', s') ∧ inbox'.Sound s' ∧
      inbox'.total s' = inbox.total s) ∨
    (∃ v, inbox.fill s = (.error (.violation v), s) ∧
      (maxWaiting < inbox.buffer.length ∨ inbox.ended = true)) := by
  by_cases hlong : maxWaiting < inbox.buffer.length
  · exact Or.inr ⟨.tooLong, by rw [fill, if_pos hlong], Or.inl hlong⟩
  · by_cases hended : inbox.ended = true
    · exact Or.inr ⟨.closedEarly, by rw [fill, if_neg hlong, if_pos hended], Or.inr hended⟩
    · obtain ⟨data, s', hread, hplain, hdata, hend⟩ := Stream.read_plain h.plain
      refine Or.inl ⟨inbox.receive data, s', ?_, ?_, ?_⟩
      · rw [fill, if_neg hlong, if_neg hended, hread]
      · refine ⟨hplain, fun he => ?_⟩
        -- only a read that hands out nothing marks the end
        by_cases hd : data = []
        · exact hend hd
        · have : data.isEmpty = false := by simpa using hd
          rw [receive, this] at he
          exact absurd he hended
      · by_cases hd : data = []
        · subst hd
          show inbox.buffer ++ s'.incoming.data = inbox.buffer ++ s.incoming.data
          rw [← hdata, List.nil_append]
        · have : data.isEmpty = false := by simpa using hd
          rw [receive, this]
          show (inbox.buffer ++ data) ++ s'.incoming.data = inbox.buffer ++ s.incoming.data
          rw [List.append_assoc, hdata]

/-! ## Cuts that look at nothing behind what they take

  A reader asks for an item with some of the bytes at hand and asks again with more.  It can do so because a cut
  looks at nothing behind the item that it takes.  This is stated once for any cut, and each kind of item has only
  to show that it is taken off the front. -/

/-- `take` cuts an item off the front, and what follows the item plays no part in it. -/
def FrontCut {α : Type} (take : Bytes → Option (α × Bytes)) : Prop :=
  ∀ b x rest, take b = some (x, rest) →
    ∃ item, b = item ++ rest ∧ ∀ more, take (item ++ more) = some (x, more)

namespace FrontCut

variable {α : Type} {take : Bytes → Option (α × Bytes)}

/-- An item that is there is found again when more bytes follow. -/
theorem append (h : FrontCut take) {b rest : Bytes} {x : α} (hb : take b = some (x, rest))
    (more : Bytes) : take (b ++ more) = some (x, rest ++ more) := by
  obtain ⟨item, rfl, hitem⟩ := h b x rest hb
  rw [List.append_assoc]
  exact hitem (rest ++ more)

/-- While a cut waits, the item that it will find is longer than what is there. -/
theorem lt_of_waits (h : FrontCut take) {b more rest : Bytes} {x : α} (hb : take b = none)
    (hmore : take (b ++ more) = some (x, rest)) : b.length < (b ++ more).length - rest.length := by
  obtain ⟨item, heq, hitem⟩ := h _ x rest hmore
  rcases Nat.lt_or_ge b.length item.length with hlt | hge
  · rw [heq, List.length_append]
    omega
  · -- the item would lie in what is there, and would have been found
    have hwhole : item <+: b ++ more := heq ▸ List.prefix_append item rest
    have hpre : item <+: b := List.prefix_of_prefix_length_le hwhole (List.prefix_append b more) hge
    obtain ⟨left, rfl⟩ := hpre
    rw [hitem left] at hb
    exact absurd hb (by simp)

/-- A cut that waits with more than its limit, or with nothing to come, will not find an item within the
    limit. -/
theorem none_of_waits (h : FrontCut take) {b more : Bytes} {limit : Nat} (hb : take b = none)
    (hfit : ∀ x rest, take (b ++ more) = some (x, rest) → (b ++ more).length - rest.length ≤ limit)
    (hwhy : limit < b.length ∨ more = []) : take (b ++ more) = none := by
  cases hw : take (b ++ more) with
  | none => rfl
  | some found =>
    have hlt := h.lt_of_waits hb hw
    have hle := hfit _ _ hw
    rcases hwhy with hlong | rfl
    · omega
    · rw [List.append_nil, hb] at hw
      exact absurd hw (by simp)

end FrontCut

/-! ## Blocks of lines

  The head of an answer and the trailer of a body are blocks: lines up to an empty one. -/

/-- One step of a block: the line before the first line feed ends the block or is added to it. -/
theorem takeBlockFrom_of_cut {b line after : Bytes} (h : cut 10 b = (line, some after)) (lines : List Bytes) :
    takeBlockFrom lines b =
      if (dropCarriageReturn line).isEmpty then some (lines.reverse, after)
      else takeBlockFrom (dropCarriageReturn line :: lines) after := by
  rw [takeBlockFrom]
  split
  · rename_i hcut
    rw [h] at hcut
    exact absurd hcut (by simp)
  · rename_i hcut
    rw [h, Prod.mk.injEq, Option.some.injEq] at hcut
    obtain ⟨rfl, rfl⟩ := hcut
    rfl

/-- A block that is found has a first line, which ends it or is followed by the rest of it. -/
theorem takeBlockFrom_cases {lines result : List Bytes} {b rest : Bytes}
    (h : takeBlockFrom lines b = some (result, rest)) :
    ∃ line after, cut 10 b = (line, some after) ∧
      ((dropCarriageReturn line = [] ∧ result = lines.reverse ∧ rest = after) ∨
        (dropCarriageReturn line ≠ [] ∧
          takeBlockFrom (dropCarriageReturn line :: lines) after = some (result, rest))) := by
  rcases hcut : cut 10 b with ⟨line, _ | after⟩
  · rw [takeBlockFrom] at h
    split at h
    · exact absurd h (by simp)
    · rename_i hsome
      rw [hcut] at hsome
      exact absurd hsome (by simp)
  · refine ⟨line, after, rfl, ?_⟩
    rw [takeBlockFrom_of_cut hcut] at h
    split at h
    · rename_i hempty
      rw [Option.some.injEq, Prod.mk.injEq] at h
      exact Or.inl ⟨List.isEmpty_iff.mp hempty, h.1.symm, h.2.symm⟩
    · rename_i hempty
      exact Or.inr ⟨fun hnil => hempty (List.isEmpty_iff.mpr hnil), h⟩

/-- A block is cut off the front: it is its lines up to the empty one, and nothing behind them. -/
theorem takeBlockFrom_front (lines : List Bytes) : FrontCut (takeBlockFrom lines) := by
  intro b result rest h
  -- one line goes at each step, and the item is all lines up to the empty one
  induction hn : b.length using Nat.strongRecOn generalizing lines b with
  | ind n ih =>
    subst hn
    obtain ⟨line, after, hcut, hstep⟩ := takeBlockFrom_cases h
    have hb := cut_eq_some hcut
    have hline (more : Bytes) : cut 10 (line ++ 10 :: more) = (line, some more) :=
      cut_append_mark (notMem_of_cut hcut) more
    rcases hstep with ⟨hempty, rfl, rfl⟩ | ⟨hne, hrest⟩
    · refine ⟨line ++ [10], by rw [hb, List.append_assoc]; rfl, fun more => ?_⟩
      rw [List.append_assoc, List.singleton_append, takeBlockFrom_of_cut (hline more), hempty]
      rfl
    · obtain ⟨item, rfl, hitem⟩ := ih after.length (length_lt_of_cut hcut) _ _ hrest rfl
      refine ⟨line ++ 10 :: item, by rw [hb, List.append_assoc]; rfl, fun more => ?_⟩
      rw [List.append_assoc, List.cons_append, takeBlockFrom_of_cut (hline _), List.isEmpty_eq_false_iff.mpr hne]
      exact hitem more

theorem takeBlock_front : FrontCut takeBlock := takeBlockFrom_front []

theorem takeBlock_nil : takeBlock [] = none := by
  rw [takeBlock, takeBlockFrom]
  rfl

/-! ## Lines of chunk sizes

  The line of a size has its own kind of end, and is cut off the front in the same sense. -/

/-- A line is cut off the front: it ends at its own line end. -/
theorem takeLineFrom_front (before : Bytes) : FrontCut (takeLineFrom before) := by
  intro b line rest h
  fun_induction takeLineFrom before b with
  | case1 => exact absurd h (by simp)
  | case2 before after =>
    rw [Option.some.injEq, Prod.mk.injEq] at h
    obtain ⟨rfl, rfl⟩ := h
    exact ⟨[13, 10], rfl, fun more => by rw [List.cons_append, List.singleton_append, takeLineFrom]⟩
  | case3 before x t hno ih =>
    obtain ⟨item, rfl, hitem⟩ := ih h
    refine ⟨x :: item, rfl, fun more => ?_⟩
    rw [List.cons_append, takeLineFrom]
    · exact hitem more
    · -- the item is not empty, so its first two bytes are those of the whole
      intro after hx hmore
      cases item with
      | nil =>
        have h1 := hitem []
        rw [List.append_nil, takeLineFrom] at h1
        exact absurd h1 (by simp)
      | cons y item =>
        rw [List.cons_append, List.cons.injEq] at hmore
        exact hno (item ++ rest) hx (by rw [hmore.1]; rfl)

theorem takeLine_front : FrontCut takeLine := takeLineFrom_front []

end Courier
