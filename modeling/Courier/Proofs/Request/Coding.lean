/-
  Chunks that are written are read back.

  The writer and the reader of chunks have nothing in common but the form: a size in digits of base sixteen, a line
  end, the bytes, a line end; and a size of zero with an empty trailer at the end.  `Whole.Coded` says that some
  bytes are chunks with a given content and with given bytes behind them, all of whose items are short; it holds of
  the end (`coded_lastChunk`) and goes through one chunk at a time (`Coded.chunk`), so it holds of all that a body
  writes (`Body.coded_wire`).  What the content looks like plays no part: it is taken by its length, also when it
  looks like the end of the chunks.

  1. Sizes.  The digits of a number have its value (`hexValue_hex`), none of them is a carriage return, so the line
     of a size ends where it was ended (`takeLine_sizeDigits`), and it is read as the size (`readSize?_sizeDigits`).
     A size has at most twenty digits, because the reader takes no more; that is the one bound, on the length of a
     piece.

  2. Chunks.  `Coded` has three parts, one for each question that is asked about an answer: what its content is,
     what stands behind it, and whether a reader can hold its items.  They are proved in step with each other, along
     the three functions that answer them.

  3. Bodies.  An empty piece is not written, since its chunk would be the end, so the chunks of a body have the
     content of the body without being cut where its pieces are (`coded_blocks`).

  4. Sends.  A body may be sent several times, in either framing.  What it has to send the next time depends on its
     source: bytes and lists are there again, a file and a single iteration are used up (`contentAt`).  A send
     consumes a source in the same way in both framings, so a send in chunks and a plain send in the same place have
     the same content (`sendEach_getElem?`).

  5. Answers.  With the head of an answer in front of it, what was written is an answer, and reading it comes to a
     function of its bytes, in whatever pieces they arrive (`Response.read_of_coded`).  `sendEach_read_back` puts
     all of it together.
-/
import Courier.Proofs.Header.Line
import Courier.Proofs.Request.Sending
import Courier.Proofs.Response.Remainder
import Courier.Proofs.Response.Segmentation
import Mathlib.Algebra.Group.Nat.Defs

namespace Courier

/-! ## Sizes

  The size of a chunk is written in base sixteen, in small letters and without leading zeros, and on a line of its
  own.  The reader takes no more than a fixed number of digits, which bounds the pieces. -/

/-- The digits of a number one by one, from the right. -/
theorem hex_cases (n : Nat) :
    (n < 16 ∧ hex n = [n.digitChar]) ∨ (16 ≤ n ∧ hex n = hex (n / 16) ++ [(n % 16).digitChar]) := by
  rcases Nat.lt_or_ge n 16 with hlt | hge
  · exact Or.inl ⟨hlt, Nat.toDigits_of_lt_base hlt⟩
  · exact Or.inr ⟨hge, Nat.toDigits_of_base_le (by decide) hge⟩

theorem hexDigit?_digitChar {d : Nat} (h : d < 16) : hexDigit? d.digitChar = some d := by
  have hall : ∀ d : Fin 16, hexDigit? (Nat.digitChar d) = some d.val := by decide
  exact hall ⟨d, h⟩

/-- A character that is written for a digit. -/
theorem exists_of_mem_hex {n : Nat} {c : Char} (h : c ∈ hex n) : ∃ d < 16, c = d.digitChar := by
  induction n using Nat.strongRecOn with
  | ind n ih =>
    rcases hex_cases n with ⟨hlt, hn⟩ | ⟨hge, hn⟩
    · rw [hn, List.mem_singleton] at h
      exact ⟨n, hlt, h⟩
    · rw [hn] at h
      rcases List.mem_append.mp h with h | h
      · exact ih (n / 16) (by omega) h
      · exact ⟨n % 16, Nat.mod_lt _ (by decide), List.mem_singleton.mp h⟩

/-- The digits of a number have its value. -/
theorem hexValue_hex (n : Nat) : hexValue (hex n) = n := by
  induction n using Nat.strongRecOn with
  | ind n ih =>
    rcases hex_cases n with ⟨hlt, hn⟩ | ⟨hge, hn⟩
    · rw [hn, hexValue, List.foldl_cons, List.foldl_nil, hexDigit?_digitChar hlt]
      exact Nat.zero_add n
    · have hdigit := hexDigit?_digitChar (Nat.mod_lt n (show 0 < 16 by decide))
      have hrest := ih (n / 16) (by omega)
      rw [hexValue] at hrest
      rw [hn, hexValue, List.foldl_append, hrest, List.foldl_cons, List.foldl_nil, hdigit]
      show n / 16 * 16 + n % 16 = n
      omega

/-- A size below the bound has no more digits than the reader takes. -/
theorem length_hex_le {n : Nat} (h : n < 16 ^ Reader.maxSizeDigits) : (hex n).length ≤ Reader.maxSizeDigits :=
  (Nat.length_toDigits_le_iff (by decide) (by decide)).mpr h

namespace Body

theorem ofLatin1_sizeDigits (n : Nat) : ofLatin1 (sizeDigits n) = hex n := by
  refine ofLatin1_octets fun c hc => ?_
  obtain ⟨d, hd, rfl⟩ := exists_of_mem_hex hc
  have hall : ∀ d : Fin 16, Narrow.latin1.holds (Nat.digitChar d) = true := by decide
  exact hall ⟨d, hd⟩

/-- A size is written in digits, and in nothing else. -/
theorem isHexByte_of_mem_sizeDigits {n : Nat} {b : UInt8} (h : b ∈ sizeDigits n) : Reader.isHexByte b = true := by
  obtain ⟨c, hc, rfl⟩ := List.mem_map.mp h
  obtain ⟨d, hd, rfl⟩ := exists_of_mem_hex hc
  have hall : ∀ d : Fin 16, Reader.isHexByte (UInt8.ofNat (Nat.digitChar d).toNat) = true := by decide
  exact hall ⟨d, hd⟩

theorem length_sizeDigits (n : Nat) : (sizeDigits n).length = (hex n).length := List.length_map _

/-- **A size is read as it was written**, if it has no more digits than the reader takes. -/
theorem readSize?_sizeDigits {n : Nat} (h : n < 16 ^ Reader.maxSizeDigits) :
    Reader.readSize? (sizeDigits n) = some n := by
  have hall : ∀ b ∈ sizeDigits n, Reader.isHexByte b = true := fun b => isHexByte_of_mem_sizeDigits
  have htake : (sizeDigits n).takeWhile Reader.isHexByte = sizeDigits n := List.takeWhile_eq_self_iff.mpr hall
  have hdrop : (sizeDigits n).dropWhile Reader.isHexByte = [] := List.dropWhile_eq_nil_iff.mpr hall
  have hpos : 1 ≤ (sizeDigits n).length := by
    rw [length_sizeDigits]
    exact Nat.length_toDigits_pos
  have hle : (sizeDigits n).length ≤ Reader.maxSizeDigits := by
    rw [length_sizeDigits]
    exact length_hex_le h
  rw [Reader.readSize?, htake, hdrop, ofLatin1_sizeDigits, hexValue_hex]
  simp [hpos, hle]

/-- A line without a carriage return ends at its line end. -/
theorem takeLineFrom_of_notMem {line : Bytes} (h : 13 ∉ line) (before rest : Bytes) :
    takeLineFrom before (line ++ 13 :: 10 :: rest) = some (before.reverse ++ line, rest) := by
  induction line generalizing before with
  | nil =>
    rw [List.nil_append, takeLineFrom, List.append_nil]
  | cons b t ih =>
    rw [List.mem_cons, not_or] at h
    have hstep : takeLineFrom before (b :: (t ++ 13 :: 10 :: rest)) =
        takeLineFrom (b :: before) (t ++ 13 :: 10 :: rest) := by
      rw [takeLineFrom]
      intro after hb _
      exact h.1 hb.symm
    rw [List.cons_append, hstep, ih h.2, List.reverse_cons, List.append_assoc]
    rfl

/-- The line of a size ends where it was ended. -/
theorem takeLine_sizeDigits (n : Nat) (rest : Bytes) :
    takeLine (sizeDigits n ++ (lineEnd ++ rest)) = some (sizeDigits n, rest) := by
  have hno : 13 ∉ sizeDigits n := fun hmem =>
    absurd (isHexByte_of_mem_sizeDigits hmem) (by decide)
  exact takeLineFrom_of_notMem hno [] rest

end Body

/-! ## Chunks

  A chunk is read by its length, so its bytes may be anything, line ends and the end of a body included. -/

namespace Whole

/-- These bytes are chunks with this content and these bytes behind them, and no item of them is long. -/
structure Coded (b content rest : Bytes) : Prop where
  dechunk : dechunk b = some content
  after : afterChunks b = rest
  short : ∀ item ∈ chunkItems b, item.length ≤ Reader.maxSizeDigits + 2

/-- The end of the chunks has no content, and leaves what is behind it. -/
theorem coded_lastChunk (rest : Bytes) : Coded (Body.lastChunk ++ rest) [] rest := by
  have hline : takeLine (Body.lastChunk ++ rest) = some ([48], 13 :: 10 :: rest) := rfl
  have hsize : Reader.readSize? [48] = some 0 := by decide
  have hcut : cut 10 (13 :: 10 :: rest) = ([13], some rest) := rfl
  have hblock : takeBlock (13 :: 10 :: rest) = some ([], rest) := by
    rw [takeBlock, takeBlockFrom_of_cut hcut]
    rfl
  constructor
  · rw [dechunk_eq, hline]
    dsimp only
    rw [hsize]
    dsimp only
    rw [trailer, hblock]
    rfl
  · rw [afterChunks_eq, hline]
    dsimp only
    rw [hsize]
    dsimp only
    rw [afterTrailer, hblock]
  · rw [chunkItems_eq, hline]
    dsimp only
    rw [hsize]
    dsimp only
    rw [trailerItems, hblock, List.forall_mem_cons, List.forall_mem_singleton]
    have hlast : Body.lastChunk.length = 5 := rfl
    constructor
    · rw [length_taken, List.length_append, List.length_cons, List.length_cons, hlast, Reader.maxSizeDigits]
      omega
    · rw [length_taken, List.length_cons, List.length_cons, Reader.maxSizeDigits]
      omega

/-- **One chunk more.**  A chunk is read back by its length, whatever its bytes are. -/
theorem Coded.chunk {b more content rest : Bytes} (h : Coded more content rest) (hne : b ≠ [])
    (hb : b.length < 16 ^ Reader.maxSizeDigits) : Coded (Body.chunk b ++ more) (b ++ content) rest := by
  obtain ⟨n, hn⟩ : ∃ n, b.length = n + 1 := Nat.exists_eq_succ_of_ne_zero (by simpa using hne)
  have hline : takeLine (Body.chunk b ++ more) =
      some (Body.sizeDigits b.length, b ++ (Body.lineEnd ++ more)) := by
    rw [Body.chunk, List.append_assoc, List.append_assoc, List.append_assoc]
    exact Body.takeLine_sizeDigits b.length _
  have hsize : Reader.readSize? (Body.sizeDigits b.length) = some (n + 1) := by
    rw [Body.readSize?_sizeDigits hb, hn]
  have hfooter : (b ++ (Body.lineEnd ++ more)).drop (n + 1) = Body.lineEnd ++ more := by
    rw [← hn]
    exact List.drop_left
  have hmore : (b ++ (Body.lineEnd ++ more)).drop (n + 3) = more := by
    rw [show n + 3 = (n + 1) + 2 from rfl, ← List.drop_drop, hfooter]
    rfl
  have htake : (b ++ (Body.lineEnd ++ more)).take (n + 1) = b := by
    rw [← hn]
    exact List.take_left
  have hprefix : Reader.footer.isPrefixOf (Body.lineEnd ++ more) = true :=
    List.isPrefixOf_iff_prefix.mpr (List.prefix_append Body.lineEnd more)
  constructor
  · rw [dechunk_eq, hline]
    dsimp only
    rw [hsize]
    dsimp only
    rw [hfooter, hprefix, if_pos rfl, hmore, htake, h.dechunk]
    rfl
  · rw [afterChunks_eq, hline]
    dsimp only
    rw [hsize]
    dsimp only
    rw [hmore]
    exact h.after
  · -- the one item of a chunk that a reader has to hold is the line of its size
    rw [chunkItems_eq, hline]
    dsimp only
    rw [hsize]
    dsimp only
    rw [hfooter, hprefix, if_pos rfl, hmore, List.forall_mem_cons]
    refine ⟨?_, h.short⟩
    have hdigits := length_hex_le hb
    rw [← Body.length_sizeDigits] at hdigits
    have hlength : Body.lineEnd.length = 2 := rfl
    rw [length_taken, Body.chunk]
    simp only [List.length_append, hlength]
    omega

end Whole

/-! ## All chunks of a body

  By induction over the pieces, with an empty piece left out: it would be the end of the chunks. -/

namespace Body

/-- The pieces of a body in chunks, with the end behind them. -/
theorem coded_blocks {blocks : List Bytes} (h : ∀ b ∈ blocks, b.length < 16 ^ Reader.maxSizeDigits)
    (more : Bytes) :
    Whole.Coded ((blocks.filter fun b => !b.isEmpty).flatMap chunk ++ (lastChunk ++ more)) blocks.flatten more := by
  induction blocks with
  | nil => exact Whole.coded_lastChunk more
  | cons b rest ih =>
    rw [List.forall_mem_cons] at h
    have hrest := ih h.2
    cases hb : b.isEmpty with
    | true =>
      -- an empty piece is neither written nor missed
      rw [List.isEmpty_iff.mp hb]
      exact hrest
    | false =>
      have hne : b ≠ [] := List.isEmpty_eq_false_iff.mp hb
      rw [List.filter_cons_of_pos (by rw [hb]; rfl), List.flatMap_cons, List.flatten_cons, List.append_assoc]
      exact hrest.chunk hne h.1

/-- **What a body writes in chunks is read back as its content**, up to where the writing ended. -/
theorem coded_wire {body : Body} (h : ∀ b ∈ body.blocks, b.length < 16 ^ Reader.maxSizeDigits) (more : Bytes) :
    Whole.Coded (body.wire true ++ more) body.content more := by
  have hcoded := coded_blocks h more
  rw [flatten_blocks] at hcoded
  rw [wire, if_pos rfl, List.append_assoc]
  exact hcoded

/-! ## Sending again and again

  What a body has left to send after some sends depends on its source alone, and the framings of the sends before do
  not matter. -/

/-- Sends a body once in each of these framings, one after the other, each time on a new stream. -/
def sendEach (body : Body) : List Bool → List (Except Fault Unit × Stream)
  | [] => []
  | chunked :: framings => body.send chunked {} :: body.spent.sendEach framings

/-- What send number `n` of a body has to send: bytes at hand and pieces all over again, the rest of a file and a
    single iteration once only. -/
def contentAt (body : Body) (n : Nat) : Bytes :=
  match body.source with
  | .whole _ | .pieces _ => body.content
  | .file _ | .once _ => if n = 0 then body.content else []

/-- The pieces that a caller gives have sizes that can be read; a file is read in pieces of its own. -/
def Short (body : Body) : Prop :=
  match body.source with
  | .whole b => b.length < 16 ^ 20
  | .pieces ps | .once ps => ∀ b, .bytes b ∈ ps → b.length < 16 ^ 20
  | .file _ => True

variable {body : Body}

theorem contentAt_zero (body : Body) : body.contentAt 0 = body.content := by
  rw [contentAt]
  split <;> rfl

/-- A later send has to send what is left after the one before. -/
theorem contentAt_succ (body : Body) (n : Nat) : body.contentAt (n + 1) = body.spent.contentAt n := by
  obtain ⟨source, size⟩ := body
  cases source with
  | whole b => rfl
  | pieces ps => rfl
  | file rest => exact (ite_self ([] : Bytes)).symm
  | once ps => exact (ite_self ([] : Bytes)).symm

/-- A source that gives bytes goes on giving bytes when it is used up. -/
theorem Faultless.spent (h : body.Faultless) : body.spent.Faultless := by
  obtain ⟨source, size⟩ := body
  cases source with
  | whole b => exact h
  | pieces ps => exact h
  -- at the end of a file there are no pieces
  | file rest =>
    have hnone : filePieces [] = [] := by rw [filePieces, cutPieces]; rfl
    intro p hp
    rw [show (Body.spent ⟨.file rest, size⟩).script = filePieces [] from rfl, hnone] at hp
    exact absurd hp List.not_mem_nil
  | once ps => exact fun p hp => absurd hp List.not_mem_nil

theorem Short.spent (h : body.Short) : body.spent.Short := by
  obtain ⟨source, size⟩ := body
  cases source with
  | whole b => exact h
  | pieces ps => exact h
  | file rest => trivial
  | once ps => exact fun b hb => absurd hb List.not_mem_nil

/-- A file is read in pieces of a bounded length. -/
theorem length_le_of_mem_cutPieces {more : Nat} {done : Script} {b piece : Bytes}
    (h : .bytes piece ∈ cutPieces more done b) : .bytes piece ∈ done ∨ piece.length ≤ more + 1 := by
  fun_induction cutPieces more done b with
  | case1 done => exact Or.inl (List.mem_reverse.mp h)
  | case2 done b hb hlt ih =>
    rcases ih h with hmem | hle
    · rcases List.mem_cons.mp hmem with heq | hmem
      · rw [Piece.bytes.inj heq]
        exact Or.inr (List.length_take_le _ _)
      · exact Or.inl hmem
    · exact Or.inr hle

/-- Whatever the source, its pieces have sizes that can be read. -/
theorem Short.blocks (h : body.Short) : ∀ b ∈ body.blocks, b.length < 16 ^ Reader.maxSizeDigits := by
  intro b hb
  have hscript : .bytes b ∈ body.script := by
    obtain ⟨p, hp, hsome⟩ := List.mem_filterMap.mp hb
    cases p with
    | fault f => exact absurd hsome (by simp)
    | bytes piece => exact Option.some.inj hsome ▸ hp
  obtain ⟨source, size⟩ := body
  cases source with
  | whole whole =>
    cases whole with
    | nil => exact absurd hscript List.not_mem_nil
    | cons a t =>
      rw [Piece.bytes.inj (List.mem_singleton.mp hscript)]
      exact h
  | pieces ps => exact h b hscript
  | file rest =>
    rcases length_le_of_mem_cutPieces hscript with hmem | hle
    · exact absurd hmem List.not_mem_nil
    · exact Nat.lt_of_le_of_lt hle (by decide)
  | once ps => exact h b hscript

/-- **Each send finds what is left**, and is written whole in its framing. -/
theorem sendEach_getElem? (hbody : body.Faultless) (hshort : body.Short) {framings : List Bool} {n : Nat}
    {chunked : Bool} (h : framings[n]? = some chunked) :
    ∃ s, (body.sendEach framings)[n]? = some (.ok (), s) ∧
      (chunked = false → s.written = body.contentAt n) ∧
      (chunked = true → ∀ more, Whole.Coded (s.written ++ more) (body.contentAt n) more) := by
  induction framings generalizing body n with
  | nil => exact absurd h (by simp)
  | cons first rest ih =>
    cases n with
    | zero =>
      rw [List.getElem?_cons_zero, Option.some.injEq] at h
      obtain ⟨s, hsend, hwritten⟩ := send_written (s := {}) hbody rfl first
      have hwire : s.written = body.wire first := hwritten
      refine ⟨s, ?_, ?_, ?_⟩
      · rw [sendEach, List.getElem?_cons_zero, hsend]
      · intro hfixed
        rw [hwire, h, hfixed, contentAt_zero]
        rfl
      · intro hchunked more
        rw [hwire, h, hchunked, contentAt_zero]
        exact coded_wire hshort.blocks more
    -- the sends before this one have consumed what they consumed in either framing
    | succ n =>
      rw [List.getElem?_cons_succ] at h
      rw [sendEach, List.getElem?_cons_succ, contentAt_succ]
      exact ih hbody.spent hshort.spent h

end Body

/-! ## An answer with such a body

  Reading is done by the reader of answers, so that what is read back does not depend on how the bytes are divided. -/

/-- These bytes are the head of an answer with a chunked body to a request with this method, in upper case. -/
structure Whole.Announces (method : Text) (front : Bytes) (head : Head) : Prop where
  found : head? front = some (head, [])
  fits : ∀ item ∈ heads front, item.length ≤ maxWaiting
  presentable : isPresentable head = true
  bare : isBare method head = false
  chunked : isChunked head = true

theorem Framing.of_announced {method : Text} {front : Bytes} {head : Head} (h : Whole.Announces method front head) :
    (of method head).phase = .chunkSize := by
  rw [of_eq, h.bare, h.chunked]
  rfl

/-- **A body in chunks is read from an answer in any division**, whole, and what follows it is left. -/
theorem Response.read_of_coded {s : Stream} {url : Url} {method : Text} {front b content rest : Bytes} {head : Head}
    (hurl : ∀ c ∈ url.rawHost, isAscii c = true) (hmethod : Header.isToken method = true)
    (hfront : Whole.Announces (upper method) front head) (hcoded : Whole.Coded b content rest)
    (hplain : s.incoming.Plain) (hdata : s.incoming.data = front ++ b) :
    ∃ r s' r', beginRead s url method = (.ok r, s') ∧ (r.attach s' false).read = (.ok content, r') ∧
      r'.unread = rest := by
  have hsound : Inbox.Sound {} s := ⟨hplain, fun h => absurd h Bool.false_ne_true⟩
  have htotal : Inbox.total {} s = front ++ b := hdata
  obtain ⟨hhead, hheads⟩ := Whole.head?_append hfront.found b
  have hfits : ∀ item ∈ Whole.heads (Inbox.total {} s), item.length ≤ maxWaiting := by
    rw [htotal, hheads]
    exact hfront.fits
  rcases Whole.readHead_eq_whole hsound hfits with ⟨head', inbox, s', hread, hs', hfound⟩ | ⟨v, s', _, hnone⟩
  · rw [htotal, hhead, Option.some.injEq, Prod.mk.injEq, List.nil_append] at hfound
    obtain ⟨rfl, hrest⟩ := hfound
    -- the head leaves a reader that stands in front of the chunks
    obtain ⟨r, hofHead, _, hdone, hreader⟩ := ofHead_of_presentable hfront.presentable url (upper method) inbox
    have hphase := Framing.of_announced hfront
    have hitems : ∀ item ∈ (Framing.of (upper method) head).phase.items (inbox.total s'),
        item.length ≤ maxWaiting := by
      rw [hphase, ← hrest]
      intro item hm
      exact Nat.le_trans (hcoded.short item hm) (by decide)
    have hbody : Whole.body (upper method) head (inbox.total s') = some content := by
      rw [← Framing.decode_of, hphase, ← hrest]
      exact hcoded.dechunk
    rcases read_attached hreader hdone hs' hitems with ⟨body, hwant, hok⟩ | ⟨v, hwant, _⟩
    · rw [hbody, Option.some.injEq] at hwant
      subst hwant
      have hinbox : r.reader.inbox = inbox := by rw [hreader]; rfl
      have hstart : r.reader.phase = .chunkSize := by rw [hreader, Reader.start_phase, hphase]
      refine ⟨r, s', (r.attach s' false).read.2, ?_, Prod.ext hok rfl, ?_⟩
      · rw [beginRead, checkRequest_of_token hurl hmethod]
        dsimp only
        rw [hread]
        exact congrArg (·, s') hofHead
      · have hleaves := read_leaves (r := r.attach s' false) (s := s')
          ⟨rfl, rfl, Or.inr ⟨rfl, hdone⟩⟩ (hinbox ▸ hs') (Prod.ext hok rfl)
        rw [hleaves]
        show r.reader.phase.left (r.reader.inbox.total s') = rest
        rw [hstart, hinbox, ← hrest]
        exact hcoded.after
    · rw [hbody] at hwant
      exact absurd hwant (by simp)
  · rw [htotal, hhead] at hnone
    exact absurd hnone (by simp)

namespace Body

/-- **Chunks are read back, for every source and every number of sends.**  Whatever framings a body is sent in
    before, a send in chunks in any place writes what an answer in chunks must hold to be read, in any division,
    as the bytes that a plain send would have written in its place; and nothing behind it is touched. -/
theorem sendEach_read_back {body : Body} (hbody : body.Faultless) (hshort : body.Short) (framings : List Bool)
    {n : Nat} (hn : n < framings.length) :
    ∃ plain coded, (body.sendEach (framings.set n false))[n]? = some (.ok (), plain) ∧
      (body.sendEach (framings.set n true))[n]? = some (.ok (), coded) ∧
      plain.written = body.contentAt n ∧
      ∀ (s : Stream) (url : Url) (method : Text) (front more : Bytes) (head : Head) (pieces : List Bytes),
        (∀ c ∈ url.rawHost, isAscii c = true) → Header.isToken method = true →
        Whole.Announces (upper method) front head → s.incoming = pieces.map Piece.bytes → (∀ b ∈ pieces, b ≠ []) →
        pieces.flatten = front ++ (coded.written ++ more) →
        ∃ r s' r', Response.beginRead s url method = (.ok r, s') ∧
          (r.attach s' false).read = (.ok plain.written, r') ∧ r'.unread = more := by
  have hset (chunked : Bool) : (framings.set n chunked)[n]? = some chunked := List.getElem?_set_self hn
  obtain ⟨plain, hplain, hfixed, _⟩ := sendEach_getElem? hbody hshort (hset false)
  obtain ⟨coded, hcoded, _, hread⟩ := sendEach_getElem? hbody hshort (hset true)
  refine ⟨plain, coded, hplain, hcoded, hfixed rfl, ?_⟩
  intro s url method front more head pieces hurl hmethod hfront hincoming hne hflat
  rw [hfixed rfl]
  refine Response.read_of_coded hurl hmethod hfront (hread rfl more) ?_ ?_
  · rw [hincoming]
    exact Script.plain_map_bytes hne
  · rw [hincoming, Script.data_map_bytes, hflat]

/-- Pieces that can be gone through once, an empty one and one that looks like the end of the chunks among them. -/
def trickyBody : Body := { source := .once [.bytes [97], .bytes [], .bytes [48, 13, 10, 13, 10]] }

/-- The head of an answer in chunks, those pieces in chunks, and the first byte of what follows. -/
def trickyAnswer : Bytes :=
  ("HTTP/1.1 200 OK\r\nTransfer-Encoding: chunked\r\n\r\n" ++ "1\r\na\r\n5\r\n0\r\n\r\n\r\n0\r\n\r\n" ++
    "H").toList.map fun c => c.toNat.toUInt8

/-- The answer with the tricky body, byte by byte. -/
theorem sendEach_read_back_of_tricky :
    ∃ r s' r', Response.beginRead { incoming := (trickyAnswer.map fun b => [b]).map Piece.bytes }
        { scheme := "http".toList, rawHost := "h".toList } "get".toList = (.ok r, s') ∧
      (r.attach s' false).read = (.ok [97, 48, 13, 10, 13, 10], r') ∧ r'.unread = [72] := by
  have hbody : trickyBody.Faultless := by
    intro p hp
    rcases List.mem_cons.mp hp with rfl | hp
    · exact ⟨_, rfl⟩
    · rcases List.mem_cons.mp hp with rfl | hp
      · exact ⟨_, rfl⟩
      · exact ⟨_, List.mem_singleton.mp hp⟩
  have hshort : trickyBody.Short := by
    intro b hb
    rcases List.mem_cons.mp hb with heq | hb
    · rw [Piece.bytes.inj heq]
      decide
    · rcases List.mem_cons.mp hb with heq | hb
      · rw [Piece.bytes.inj heq]
        decide
      · rw [Piece.bytes.inj (List.mem_singleton.mp hb)]
        decide
  obtain ⟨plain, coded, _, hcoded, hplain, hread⟩ := sendEach_read_back hbody hshort [true, false]
    (n := 0) (by decide)
  have hwritten : coded.written = "1\r\na\r\n5\r\n0\r\n\r\n\r\n0\r\n\r\n".toList.map fun c => c.toNat.toUInt8 := by
    have hsend : trickyBody.send true {} = (.ok (), coded) := Option.some.inj hcoded
    have heval : (trickyBody.send true {}).2.written =
        "1\r\na\r\n5\r\n0\r\n\r\n\r\n0\r\n\r\n".toList.map fun c => c.toNat.toUInt8 := by decide +kernel
    rw [hsend] at heval
    exact heval
  have hurl : "h".toList.all isAscii = true := by decide
  have hresult := hread { incoming := (trickyAnswer.map fun b => [b]).map Piece.bytes }
    { scheme := "http".toList, rawHost := "h".toList } "get".toList
    ("HTTP/1.1 200 OK\r\nTransfer-Encoding: chunked\r\n\r\n".toList.map fun c => c.toNat.toUInt8) [72]
    { version := "1.1".toList, status := 200, reason := "OK".toList,
      fields := [{ name := "Transfer-Encoding".toList, value := "chunked".toList }] }
    (trickyAnswer.map fun b => [b]) (List.all_eq_true.mp hurl) (by decide)
    ⟨by decide +kernel, by decide +kernel, by decide +kernel, by decide +kernel, by decide +kernel⟩ rfl ?_ ?_
  · rw [hplain] at hresult
    exact hresult
  · intro b hb
    obtain ⟨c, _, rfl⟩ := List.mem_map.mp hb
    exact List.cons_ne_nil c []
  · rw [hwritten]
    decide +kernel

end Body

end Courier
