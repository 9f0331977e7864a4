/-
  How the bytes of an answer are divided on their way does not matter.

  `Response.fetch` reads a whole answer as a caller does: the head from the stream, then the body from the stream
  that is handed over.  The main result says that on a stream that holds some bytes in any division it gives what
  the reference (`Whole.reading`) makes of the bytes undivided: the same head and body, or a failure of the same
  kind at the same stage.

  The hypothesis is about the size of items only.  A reader holds an incomplete item until the rest of it has come
  and gives up when more than `maxWaiting` bytes wait, so an item beyond that limit is let through when it comes at
  once and refused when it comes in parts.

  Two readings have been compared already, that of a head and that of a body, and both for the total of an inbox and
  its stream.  So this module is about what lies between them.

  1. The request that is answered: the method in upper case and the host are looked at before the answer is, and a
     token and a host in ASCII pass (`Response.checkRequest_of_token`).

  2. The fields of the head go through a second validator, the one for fields that a caller gives.  What it refuses
     is a failure of the answer and not of the request, and it changes nothing of what it lets through
     (`Response.checkHeaders_of_valid`).

  3. The framing.  The reader asks its questions in another order than the reference: a tunnel first, then what has
     no body, then chunks, then a length.  `Framing.of_eq` sorts them, and after that the phase in which the reader
     starts means what the reference says (`Framing.decode_of`, `Framing.items_of`).

  The reference is written without a state: one function cuts heads off the front, one reads chunks, and none of
  them waits.  That it is short enough to be read against the grammar is the point of having it.
-/
import Courier.Proofs.Header.Line
import Courier.Proofs.Response.Body
import Courier.Proofs.Url.Inline

namespace Courier

namespace Response

/-! ## Reading an answer

  The two sides of the statement: what a caller sees of an answer that is read from a stream, and what the reference
  says about the bytes of the stream put together. -/

/-- What the head of a response shows. -/
def shown (r : Response) : Head :=
  { version := r.version, status := r.status, reason := r.reason, fields := r.headers }

/-- Reads an answer from a stream: the head, and then all of the body.  Nothing when it fails for anything
    but the bytes of the answer. -/
def fetch (s : Stream) (url : Url) (method : Text) : Option Reading :=
  match beginRead s url method with
  | (.error (.response _), _) => some .headless
  | (.error _, _) => none
  | (.ok r, s) =>
    match (r.attach s false).read.1 with
    | .ok body => some (.complete r.shown body)
    | .error (.response _) => some (.bodiless r.shown)
    | .error _ => none

end Response

/-- The reading with the version as a response shows it. -/
def Reading.marked : Reading → Reading
  | .headless => .headless
  | .bodiless head => .bodiless { head with version := "HTTP/".toList ++ head.version }
  | .complete head body => .complete { head with version := "HTTP/".toList ++ head.version } body

/-! ## The request that is answered

  Reading looks at the method of the request and at the host of its URL before it looks at the answer.  For a method
  that is a token and a host in ASCII there is nothing to refuse. -/

theorem Url.hostHeader_of_ascii {url : Url} (h : ∀ c ∈ url.rawHost, isAscii c = true) :
    url.hostHeader = .ok url.hostAndPort := by
  have hascii : ∀ c ∈ url.hostAndPort, Narrow.ascii.holds c = true := fun c hc =>
    Narrow.holds_of_isAscii ((mem_hostAndPort hc).elim (h c) isAscii_of_isVisible)
  rw [hostHeader, Narrow.write_of_holds hascii]
  rfl

/-- A token and a host in ASCII are all that reading asks of the request. -/
theorem Response.checkRequest_of_token {url : Url} {method : Text}
    (hurl : ∀ c ∈ url.rawHost, isAscii c = true) (hmethod : Header.isToken method = true) :
    checkRequest url method = .ok (upper method) := by
  have htoken := isToken_upper hmethod
  rw [checkRequest, Url.hostHeader_of_ascii hurl]
  dsimp only
  rw [Narrow.write_of_holds fun c hc => Narrow.holds_of_isAscii
    (isAscii_of_isVisible (isVisible_of_isTokenChar ((isToken_iff.mp htoken).2 c hc)))]
  dsimp only
  rw [if_pos htoken]

/-! ## The fields of the head -/

/-- Fields that may be shown are shown as they are. -/
theorem Response.checkHeaders_of_valid {fields : List Header}
    (h : (fields.all fun f => Header.isName f.name && Header.isValue f.value) = true) :
    checkHeaders fields = .ok fields := by
  have hfield : ∀ f ∈ fields, Header.ofPair f.name f.value = .ok f := fun f hf =>
    Header.ofPair_of_valid (List.all_eq_true.mp h f hf)
  rw [checkHeaders, mapM_eq_map (g := id) fun f hf => by rw [hfield f hf]; rfl, List.map_id]

/-- A field that may not be shown is a failure of the answer. -/
theorem Response.checkHeaders_of_invalid {fields : List Header}
    (h : (fields.all fun f => Header.isName f.name && Header.isValue f.value) = false) :
    ∃ e, checkHeaders fields = .error (.response (.field e)) := by
  induction fields with
  | nil => exact absurd h (by decide)
  | cons f rest ih =>
    rw [List.all_cons] at h
    rw [checkHeaders, List.mapM_cons]
    -- the first such field is blamed
    cases hf : (Header.isName f.name && Header.isValue f.value) with
    | false =>
      obtain ⟨e, he⟩ := Header.ofPair_of_invalid hf
      rw [he]
      exact ⟨e, rfl⟩
    | true =>
      rw [hf, Bool.true_and] at h
      obtain ⟨e, he⟩ := ih h
      rw [checkHeaders] at he
      rw [Header.ofPair_of_valid hf, he]
      exact ⟨e, rfl⟩

/-! ## The framing

  The reader decides once how the body is framed, by the head and the method, and starts in the phase for it.  The
  reference makes the same decision by asking three questions in a row. -/

/-- The phase in which the reader of a body starts. -/
def Framing.phase : Framing → Phase
  | .fixed n => .fixed n n
  | .chunked => .chunkSize
  | .untilEnd => .untilEnd
  | .tunnel => .tunnel

theorem Reader.start_phase (framing : Framing) (persistent : Bool) (inbox : Inbox) :
    (Reader.start framing persistent inbox).phase = framing.phase := by
  cases framing <;> rfl

/-- The framing that the reader chooses, sorted by what the reference asks. -/
theorem Framing.of_eq (method : Text) (head : Head) :
    Framing.of method head =
      if Whole.isBare method head then
        if method = "CONNECT".toList ∧ (200 ≤ head.status && head.status < 300) then .tunnel else .fixed 0
      else if Whole.isChunked head then .chunked
      else match head.field? Head.lengthName with
        | some digits => .fixed (decimalValue digits)
        | none => .untilEnd := by
  rw [of]
  -- the reader asks for a tunnel first, the reference asks for it last
  by_cases hc : method = "CONNECT".toList ∧ (200 ≤ head.status && head.status < 300) = true
  · have hb : Whole.isBare method head = true := by
      rw [Whole.isBare, hc.1, hc.2]
      simp
    rw [if_pos hc, if_pos hb, if_pos hc]
  · rw [if_neg hc]
    by_cases he : head.status = 204 ∨ head.status = 304 ∨ method = "HEAD".toList
    · have hb : Whole.isBare method head = true := by
        rw [Whole.isBare]
        rcases he with he | he | he <;> simp [he]
      rw [if_pos he, if_pos hb, if_neg hc]
    · -- what has a body is none of the answers without one
      have hb : Whole.isBare method head = false := by
        rw [not_or, not_or] at he
        rw [Whole.isBare, beq_eq_false_iff_ne.mpr he.1, beq_eq_false_iff_ne.mpr he.2.1,
          beq_eq_false_iff_ne.mpr he.2.2, Bool.false_or, Bool.false_or, Bool.false_or,
          Bool.and_eq_false_iff]
        rw [Decidable.not_and_iff_or_not, Bool.not_eq_true] at hc
        exact hc.imp_left beq_eq_false_iff_ne.mpr
      rw [if_neg he, hb]
      rfl

/-- The framing that the reader chooses stands for the body that the reference gives. -/
theorem Framing.decode_of (method : Text) (head : Head) (b : Bytes) :
    (Framing.of method head).phase.decode b = Whole.body method head b := by
  rw [of_eq, Whole.body]
  split
  · split
    · rfl
    · show (if 0 ≤ b.length then some (b.take 0) else none) = some []
      rw [if_pos (Nat.zero_le _), List.take_zero]
  · split
    · rfl
    · cases head.field? Head.lengthName <;> rfl

/-- The items of the framing are the items of a chunked body. -/
theorem Framing.items_of (method : Text) (head : Head) (b : Bytes) :
    (Framing.of method head).phase.items b =
      if !Whole.isBare method head && Whole.isChunked head then Whole.chunkItems b else [] := by
  rw [of_eq]
  cases hb : Whole.isBare method head with
  | true =>
    rw [if_pos rfl]
    split <;> rfl
  | false =>
    rw [if_neg Bool.false_ne_true]
    cases hc : Whole.isChunked head with
    | true => rfl
    | false =>
      rw [if_neg Bool.false_ne_true]
      cases head.field? Head.lengthName <;> rfl

/-! ## The whole answer

  Head, framing and body, each held equal to its part of the reference.  A failure of the reading is one of the
  reference at the same stage. -/

/-- A head that may be shown makes a response, with a reader at the beginning of its body. -/
theorem Response.ofHead_of_presentable {head : Head} (h : Whole.isPresentable head = true) (url : Url)
    (method : Text) (inbox : Inbox) :
    ∃ r, ofHead url method head inbox = .ok r ∧
      r.shown = { head with version := "HTTP/".toList ++ head.version } ∧ r.done = false ∧
      r.reader = Reader.start (Framing.of method head) head.persistent inbox := by
  rw [ofHead, checkHeaders_of_valid h]
  exact ⟨_, rfl, rfl, rfl, rfl⟩

theorem Response.ofHead_of_unpresentable {head : Head} (h : Whole.isPresentable head = false) (url : Url)
    (method : Text) (inbox : Inbox) :
    ∃ e, ofHead url method head inbox = .error (.response (.field e)) := by
  obtain ⟨e, he⟩ := checkHeaders_of_invalid h
  refine ⟨e, ?_⟩
  rw [ofHead, he]
  rfl

/-- The body that follows a head, from what came with the head and what is still to come. -/
theorem Response.read_attached {r : Response} {s : Stream} {method : Text} {head : Head} {inbox : Inbox}
    (hr : r.reader = Reader.start (Framing.of method head) head.persistent inbox) (hdone : r.done = false)
    (hs : inbox.Sound s)
    (hsize : ∀ item ∈ (Framing.of method head).phase.items (inbox.total s), item.length ≤ maxWaiting) :
    (∃ body, Whole.body method head (inbox.total s) = some body ∧
      (r.attach s false).read.1 = .ok body) ∨
    (∃ v, Whole.body method head (inbox.total s) = none ∧
      (r.attach s false).read.1 = .error (.response (.malformed v))) := by
  have hrunning : (r.attach s false).Running .fresh s := ⟨rfl, rfl, Or.inr ⟨rfl, hdone⟩⟩
  have hinbox : r.reader.inbox = inbox := by rw [hr]; rfl
  have hphase : r.reader.phase = (Framing.of method head).phase := by rw [hr, Reader.start_phase]
  refine read_pays hrunning (hinbox ▸ hs) ?_ hsize
  constructor
  · intro he
    show s.incoming.data = []
    rw [hs.ended (hinbox ▸ he)]
    rfl
  · show r.reader.phase.isLive = true
    rw [hphase]
    cases Framing.of method head <;> rfl
  · show r.reader.phase.decode (r.reader.inbox.buffer ++ s.incoming.data) = _
    rw [hphase, hinbox]
    exact Framing.decode_of ..
  · show r.reader.phase.items (r.reader.inbox.buffer ++ s.incoming.data) ⊆ _
    rw [hphase, hinbox]
    exact List.Subset.refl _

/-- **Reading does not depend on the division.**  Whatever pieces the bytes of an answer come in, reading
    the answer gives what the bytes give in one piece. -/
theorem Response.fetch_eq_reading {s : Stream} {url : Url} {method : Text} {pieces : List Bytes}
    (hpieces : s.incoming = pieces.map Piece.bytes) (hne : ∀ b ∈ pieces, b ≠ [])
    (hurl : ∀ c ∈ url.rawHost, isAscii c = true) (hmethod : Header.isToken method = true)
    (hsize : ∀ item ∈ Whole.items (upper method) pieces.flatten, item.length ≤ maxWaiting) :
    fetch s url method = some (Whole.reading (upper method) pieces.flatten).marked := by
  have htotal : Inbox.total {} s = pieces.flatten := by
    rw [Inbox.total, hpieces, Script.data_map_bytes]
    rfl
  have hsound : Inbox.Sound {} s :=
    ⟨hpieces ▸ Script.plain_map_bytes hne, fun h => absurd h Bool.false_ne_true⟩
  -- from here on the pieces do not show
  rw [← htotal] at hsize ⊢
  -- the items of an answer are its heads, and then those of its body
  have hheads : ∀ item ∈ Whole.heads (Inbox.total {} s), item.length ≤ maxWaiting :=
    fun item hm => hsize item (List.mem_append_left _ hm)
  rw [fetch, beginRead, checkRequest_of_token hurl hmethod, Whole.reading]
  dsimp only
  rcases Whole.readHead_eq_whole hsound hheads with
    ⟨head, inbox, s', hread, hs', hhead⟩ | ⟨v, s', hread, hhead⟩
  · rw [hread, hhead]
    dsimp only
    cases hp : Whole.isPresentable head with
    | false =>
      obtain ⟨e, he⟩ := ofHead_of_unpresentable hp url (upper method) inbox
      rw [he]
      rfl
    | true =>
      obtain ⟨r, hofHead, hshown, hdone, hreader⟩ := ofHead_of_presentable hp url (upper method) inbox
      rw [hofHead]
      dsimp only
      have hbody : ∀ item ∈ (Framing.of (upper method) head).phase.items (inbox.total s'),
          item.length ≤ maxWaiting := by
        intro item hm
        rw [Framing.items_of] at hm
        refine hsize item (List.mem_append_right _ ?_)
        rw [hhead]
        exact hm
      rcases read_attached hreader hdone hs' hbody with ⟨body, hwant, hok⟩ | ⟨v, hwant, herr⟩
      · rw [hwant, hok, hshown]
        rfl
      · rw [hwant, herr, hshown]
        rfl
  · rw [hread, hhead]
    rfl

/-- An answer after an interim one, in two chunks with an extension and a trailer. -/
def Whole.chunkedAnswer : Bytes :=
  ("HTTP/1.1 100 Continue\r\n\r\nHTTP/1.1 200 OK\r\nTransfer-Encoding: chunked\r\n\r\n" ++
    "3;x\r\nabc\r\n1\r\nd\r\n0\r\nT: v\r\n\r\n").toList.map fun c => c.toNat.toUInt8

/-- The answer in chunks, byte by byte: every place in it is a boundary. -/
theorem Response.fetch_of_single_bytes :
    fetch { incoming := (Whole.chunkedAnswer.map fun b => [b]).map Piece.bytes }
        { scheme := "http".toList, rawHost := "h".toList } "get".toList =
      some (.complete
        { version := "HTTP/1.1".toList, status := 200, reason := "OK".toList,
          fields := [{ name := "Transfer-Encoding".toList, value := "chunked".toList }] }
        [97, 98, 99, 100]) := by
  have hurl : "h".toList.all isAscii = true := by decide
  rw [fetch_eq_reading rfl (fun b hb => ?_) (List.all_eq_true.mp hurl) (by decide) (by decide +kernel)]
  · decide +kernel
  · obtain ⟨c, _, rfl⟩ := List.mem_map.mp hb
    exact List.cons_ne_nil c []

end Courier
