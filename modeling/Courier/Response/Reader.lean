/-
  The incremental reader of a response.

  The reader consumes what has arrived and asks for more when an item is not complete.  It never asks
  again once the end of the stream has come: then what is incomplete is a violation.  While it waits,
  more than `maxWaiting` bytes of one incomplete item are a violation too.

  `readHead` skips interim heads and returns the head of the answer; `Reader.next` returns the body piece
  by piece, as the pieces arrive.  Both end because every read makes what is still to arrive smaller,
  and the end of the stream comes at most once.
-/
import Courier.Response.Head
import Courier.Stream.Basic

namespace Courier

/-- The most bytes that may wait for the rest of their item. -/
def maxWaiting : Nat := 102400

/-- Why a read of a response fails: the bytes, or the connection. -/
inductive ReadFailure
  | violation (v : Violation)
  | fault (f : Fault)
  deriving DecidableEq, Repr

/-- What is still to arrive, counted so that every read makes it less. -/
def Inbox.pending (inbox : Inbox) (s : Stream) : Nat :=
  if inbox.ended then 0 else s.incoming.weight + 1

/-- Reads more for an incomplete item. -/
def Inbox.fill (inbox : Inbox) (s : Stream) : Except ReadFailure Inbox × Stream :=
  if maxWaiting < inbox.buffer.length then (.error (.violation .tooLong), s)
  else if inbox.ended then (.error (.violation .closedEarly), s)
  else match s.read with
    | (.ok data, s) => (.ok (inbox.receive data), s)
    | (.error f, s) => (.error (.fault f), s)

theorem Inbox.pending_fill_lt {inbox inbox' : Inbox} {s s' : Stream}
    (h : inbox.fill s = (.ok inbox', s')) : inbox'.pending s' < inbox.pending s := by
  unfold fill at h
  split at h
  · simp at h
  split at h
  · simp at h
  rename_i hended
  split at h
  · rename_i data t hread
    simp only [Prod.mk.injEq, Except.ok.injEq] at h
    obtain ⟨rfl, rfl⟩ := h
    by_cases hd : data = []
    · subst hd; simp [receive, pending, hended]
    · have := Stream.weight_read_lt hread hd
      have he : data.isEmpty = false := by simp [hd]
      simp [receive, pending, hended, he]; omega
  · simp at h

/-- Reading more moves bytes and makes none. -/
theorem Inbox.remaining_fill {inbox inbox' : Inbox} {s s' : Stream}
    (h : inbox.fill s = (.ok inbox', s')) :
    inbox'.buffer.length + s'.incoming.size = inbox.buffer.length + s.incoming.size := by
  unfold fill at h
  split at h
  · simp at h
  split at h
  · simp at h
  split at h
  · rename_i data t hread
    simp only [Prod.mk.injEq, Except.ok.injEq] at h
    obtain ⟨rfl, rfl⟩ := h
    have := Stream.size_read hread
    by_cases hd : data = []
    · subst hd; simp [receive] at this ⊢; omega
    · have he : data.isEmpty = false := by simp [hd]
      simp [receive, he]; omega
  · simp at h

/-! ## The head -/

/-- Whether the first byte of an unfinished head cannot begin one. -/
def startsWithControl (buffer : Bytes) : Bool := buffer.head?.any (· < 33)

/-- Reads the head of the answer; interim heads before it are skipped. -/
def readHead (inbox : Inbox) (s : Stream) : Except ReadFailure (Head × Inbox) × Stream :=
  match hb : takeBlock inbox.buffer with
  | some (lines, rest) =>
    match Head.ofLines lines with
    | .error v => (.error (.violation v), s)
    | .ok head =>
      if !head.isInterim then (.ok (head, { inbox with buffer := rest }), s)
      else if head.status = 101 then (.error (.violation .unaskedUpgrade), s)
      else
        have : rest.length < inbox.buffer.length := length_lt_of_takeBlock hb
        readHead { inbox with buffer := rest } s
  | none =>
    if startsWithControl inbox.buffer then (.error (.violation .controlAtStart), s)
    else if inbox.buffer.isEmpty && inbox.ended then (.error (.violation .closedBeforeHead), s)
    else match hf : inbox.fill s with
      | (.error e, s) => (.error e, s)
      | (.ok inbox', s') =>
        have : inbox'.pending s' < inbox.pending s := Inbox.pending_fill_lt hf
        readHead inbox' s'
termination_by inbox.pending s + (inbox.buffer.length + s.incoming.size)
decreasing_by
  · simp only [Inbox.pending]
    omega
  · have := Inbox.remaining_fill hf
    omega

/-! ## The body -/

/-- Where the reader of a body stands. -/
inductive Phase
  | fixed (total remaining : Nat)
  | untilEnd
  /-- before the line of a chunk size -/
  | chunkSize
  /-- inside a chunk, with one byte and this many more to come -/
  | chunkData (more : Nat)
  /-- after a chunk, with this much of its footer to come -/
  | chunkFooter (expected : Bytes)
  /-- after the last chunk -/
  | trailer
  /-- after the body; the connection may carry more -/
  | finished
  /-- after the body; nothing more may come -/
  | closing
  | tunnel
  | failed
  deriving DecidableEq, Repr

/-- The reader of a body. -/
structure Reader where
  inbox : Inbox
  phase : Phase
  persistent : Bool
  deriving DecidableEq, Repr

/-- What the reader hands out. -/
inductive Event
  | data (b : Bytes)
  | finished
  deriving DecidableEq, Repr

/-- The outcome of one step on the bytes that are there. -/
inductive Step
  | event (e : Event) (r : Reader)
  /-- the reader needs more bytes -/
  | waiting (r : Reader)
  | violation (v : Violation)

namespace Reader

/-- The reader of a body with a framing. -/
def start (framing : Framing) (persistent : Bool) (inbox : Inbox) : Reader :=
  let phase := match framing with
    | .fixed n => .fixed n n
    | .chunked => .chunkSize
    | .untilEnd => .untilEnd
    | .tunnel => .tunnel
  { inbox, phase, persistent }

/-- The reader in another phase, with these bytes left. -/
def goTo (r : Reader) (phase : Phase) (buffer : Bytes) : Reader :=
  { r with phase, inbox := { r.inbox with buffer } }

/-- The reader after the end of its body. -/
def finish (r : Reader) (buffer : Bytes) : Reader :=
  r.goTo (if r.persistent then .finished else .closing) buffer

/-- Waits for more, unless the stream has ended with nothing left over. -/
def waitOr (r : Reader) (v : Violation) : Step :=
  if r.inbox.buffer.isEmpty && r.inbox.ended then .violation v else .waiting r

/-- The line end after the bytes of a chunk. -/
def footer : Bytes := [13, 10]

/-- The most digits of a chunk size. -/
def maxSizeDigits : Nat := 20

/-- A digit of base sixteen. -/
def isHexByte (b : UInt8) : Bool := isHexDigit (Char.ofNat b.toNat)

/-- Reads the line of a chunk size: digits, then an extension or blanks. -/
def readSize? (line : Bytes) : Option Nat :=
  let digits := line.takeWhile isHexByte
  let rest := line.dropWhile isHexByte
  let extended := rest.head? = some 59 && !rest.contains 10
  if 1 ≤ digits.length && digits.length ≤ maxSizeDigits && (extended || rest.all Head.isPaddingByte) then
    some (hexValue (ofLatin1 digits))
  else none

/-- Takes bytes of the current chunk, of which one and `more` are to come. -/
def takeChunk (r : Reader) (more : Nat) : Step :=
  let buffer := r.inbox.buffer
  if buffer.isEmpty then (r.goTo (.chunkData more) buffer).waitOr .shortChunks
  else
    let data := buffer.take (more + 1)
    let phase := match more + 1 - data.length with
      | 0 => .chunkFooter footer
      | left + 1 => .chunkData left
    .event (.data data) (r.goTo phase (buffer.drop (more + 1)))

/-- Takes the trailer after the last chunk. -/
def takeTrailer (r : Reader) : Step :=
  match takeBlock r.inbox.buffer with
  | none => (r.goTo .trailer r.inbox.buffer).waitOr .shortChunks
  | some (lines, rest) =>
    match Head.readCheckedFields lines with
    | .error v => .violation v
    | .ok _ => .event .finished (r.finish rest)

/-- Takes the line of a chunk size, and the first bytes of the chunk. -/
def takeSize (r : Reader) : Step :=
  match takeLine r.inbox.buffer with
  | none => (r.goTo .chunkSize r.inbox.buffer).waitOr .shortChunks
  | some (line, rest) =>
    match readSize? line with
    | none => .violation (.chunkHeader (line ++ footer))
    | some 0 => (r.goTo .trailer rest).takeTrailer
    | some (n + 1) => (r.goTo (.chunkData n) rest).takeChunk n

/-- Takes what is there of a chunk's footer, and goes on when it is complete. -/
def takeFooter (r : Reader) (expected : Bytes) : Step :=
  let buffer := r.inbox.buffer
  let found := buffer.take expected.length
  if found != expected.take found.length then .violation (.chunkFooter found expected)
  else
    let left := expected.drop found.length
    let r := r.goTo (.chunkFooter left) (buffer.drop expected.length)
    if left.isEmpty then r.takeSize else r.waitOr .shortChunks

/-- One step on the bytes that are there. -/
def step (r : Reader) : Step :=
  let buffer := r.inbox.buffer
  match r.phase with
  | .fixed _ 0 => .event .finished (r.finish buffer)
  | .fixed total (more + 1) =>
    if buffer.isEmpty then r.waitOr (.shortBody (total - (more + 1)) total)
    else
      let data := buffer.take (more + 1)
      .event (.data data) (r.goTo (.fixed total (more + 1 - data.length)) (buffer.drop (more + 1)))
  | .untilEnd =>
    if !buffer.isEmpty then .event (.data buffer) (r.goTo .untilEnd [])
    else if r.inbox.ended then .event .finished (r.finish [])
    else .waiting r
  | .chunkSize => r.takeSize
  | .chunkData more => r.takeChunk more
  | .chunkFooter expected => r.takeFooter expected
  | .trailer => r.takeTrailer
  | .finished =>
    if !buffer.isEmpty then .event .finished r
    else if r.inbox.ended then .event .finished (r.goTo .closing [])
    else .waiting r
  | .closing =>
    if !buffer.isEmpty then .violation .dataAfterEnd
    else if r.inbox.ended then .event .finished r
    else .waiting r
  | .tunnel => .event .finished r
  | .failed => .violation .afterFailure

/-! ## What a step keeps -/

/-- A step of this reader neither takes back the end of the stream nor makes bytes up; what it hands out
    is not empty and comes out of the buffer. -/
def Keeps (r : Reader) : Step → Prop
  | .waiting r' =>
    r'.inbox.ended = r.inbox.ended ∧ r'.inbox.buffer.length ≤ r.inbox.buffer.length
  | .event (.data b) r' =>
    b ≠ [] ∧ r'.inbox.buffer.length + b.length ≤ r.inbox.buffer.length
  | .event .finished r' => r'.inbox.buffer.length ≤ r.inbox.buffer.length
  | .violation _ => True

theorem keeps_goTo {r : Reader} {phase : Phase} {buffer : Bytes} {st : Step}
    (hb : buffer.length ≤ r.inbox.buffer.length) (h : (r.goTo phase buffer).Keeps st) : r.Keeps st := by
  match st with
  | .waiting r' => exact ⟨h.1, Nat.le_trans h.2 hb⟩
  | .event (.data b) r' => exact ⟨h.1, Nat.le_trans h.2 hb⟩
  | .event .finished r' => exact Nat.le_trans h hb
  | .violation _ => trivial

theorem keeps_waitOr (r : Reader) (v : Violation) : r.Keeps (r.waitOr v) := by
  unfold waitOr
  split
  · trivial
  · exact ⟨rfl, Nat.le_refl _⟩

theorem keeps_takeChunk (r : Reader) (more : Nat) : r.Keeps (r.takeChunk more) := by
  unfold takeChunk
  dsimp only
  split
  · exact keeps_goTo (Nat.le_refl _) (keeps_waitOr _ _)
  · rename_i hb
    have hb : r.inbox.buffer ≠ [] := by simpa using hb
    refine ⟨by simp [hb], ?_⟩
    simp only [goTo, List.length_drop, List.length_take]
    omega

theorem keeps_takeTrailer (r : Reader) : r.Keeps r.takeTrailer := by
  unfold takeTrailer
  split
  · exact keeps_goTo (Nat.le_refl _) (keeps_waitOr _ _)
  · rename_i lines rest hb
    split
    · trivial
    · exact Nat.le_of_lt (length_lt_of_takeBlock hb)

theorem keeps_takeSize (r : Reader) : r.Keeps r.takeSize := by
  unfold takeSize
  split
  · exact keeps_goTo (Nat.le_refl _) (keeps_waitOr _ _)
  · rename_i line rest hb
    have hrest := Nat.le_of_lt (length_lt_of_takeLine hb)
    split
    · trivial
    · exact keeps_goTo hrest (keeps_takeTrailer _)
    · exact keeps_goTo hrest (keeps_takeChunk _ _)

theorem keeps_takeFooter (r : Reader) (expected : Bytes) : r.Keeps (r.takeFooter expected) := by
  unfold takeFooter
  dsimp only
  have hdrop : (r.inbox.buffer.drop expected.length).length ≤ r.inbox.buffer.length := by simp
  split
  · trivial
  · split
    · exact keeps_goTo hdrop (keeps_takeSize _)
    · exact keeps_goTo hdrop (keeps_waitOr _ _)

theorem keeps_step (r : Reader) : r.Keeps r.step := by
  unfold step
  dsimp only
  split
  · exact Nat.le_refl _
  · split
    · exact keeps_waitOr _ _
    · rename_i hb
      have hb : r.inbox.buffer ≠ [] := by simpa using hb
      refine ⟨by simp [hb], ?_⟩
      simp only [goTo, List.length_drop, List.length_take]
      omega
  · split
    · rename_i hb
      have hb : r.inbox.buffer ≠ [] := by simpa using hb
      exact ⟨hb, by simp [goTo]⟩
    · split
      · simp [Keeps, finish, goTo]
      · exact ⟨rfl, Nat.le_refl _⟩
  · exact keeps_takeSize r
  · exact keeps_takeChunk r _
  · exact keeps_takeFooter r _
  · exact keeps_takeTrailer r
  · split
    · exact Nat.le_refl _
    · split
      · simp [Keeps, goTo]
      · exact ⟨rfl, Nat.le_refl _⟩
  · split
    · trivial
    · split
      · exact Nat.le_refl _
      · exact ⟨rfl, Nat.le_refl _⟩
  · exact Nat.le_refl _
  · trivial

/-! ## Reading on -/

/-- The reader after a violation. -/
def fail (r : Reader) : Reader := { r with phase := .failed }

/-- The next event, reading from the stream as long as it takes. -/
def next (r : Reader) (s : Stream) : Except ReadFailure Event × Reader × Stream :=
  match hw : r.step with
  | .event e r => (.ok e, r, s)
  | .violation v => (.error (.violation v), r.fail, s)
  | .waiting waiting =>
    match h : waiting.inbox.fill s with
    | (.error (.violation v), s) => (.error (.violation v), waiting.fail, s)
    | (.error (.fault f), s) => (.error (.fault f), waiting, s)
    | (.ok inbox, s') =>
      have : inbox.pending s' < r.inbox.pending s := by
        have := Inbox.pending_fill_lt h
        have hk : r.Keeps (.waiting waiting) := hw ▸ keeps_step r
        simpa [Inbox.pending, hk.1] using this
      next { waiting with inbox } s'
termination_by r.inbox.pending s

/-- The bytes that can still be handed out at most. -/
def remaining (r : Reader) (s : Stream) : Nat := r.inbox.buffer.length + s.incoming.size

/-- What the reader hands out is not empty, and is handed out once. -/
theorem remaining_next {r r' : Reader} {s s' : Stream} {b : Bytes}
    (h : r.next s = (.ok (.data b), r', s')) : b ≠ [] ∧ r'.remaining s' + b.length ≤ r.remaining s := by
  induction hn : r.inbox.pending s using Nat.strongRecOn generalizing r s with
  | ind n ih =>
    subst hn
    have hk := keeps_step r
    rw [next] at h
    split at h
    · rename_i e r1 hs
      simp only [Prod.mk.injEq, Except.ok.injEq] at h
      obtain ⟨rfl, rfl, rfl⟩ := h
      rw [hs] at hk
      exact ⟨hk.1, by have := hk.2; unfold remaining; omega⟩
    · simp at h
    · rename_i waiting hs
      rw [hs] at hk
      split at h
      · simp at h
      · simp at h
      · rename_i inbox s1 hf
        have hp : inbox.pending s1 < r.inbox.pending s := by
          have := Inbox.pending_fill_lt hf
          simpa [Inbox.pending, hk.1] using this
        have hr := Inbox.remaining_fill hf
        have := ih _ hp h rfl
        refine ⟨this.1, Nat.le_trans this.2 ?_⟩
        have := hk.2
        unfold remaining
        dsimp only
        omega

end Reader

end Courier
