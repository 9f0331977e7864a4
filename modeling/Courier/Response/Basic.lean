/-
  Responses: a head that has been read, and a body that is still on its stream.

  `beginRead` reads the head and leaves the body.  Once a stream is attached, the body is handed out piece
  by piece through cursors: several may be open at once, and they share the stream, so each byte is handed
  out once.  The stream is closed when the body has come to its end; a failure in between leaves it open
  for the caller to close.
-/
import Courier.Response.Reader
import Courier.Header.Fields
import Courier.Failure
import Courier.Text.Charset

namespace Courier

/-- A response. -/
structure Response where
  url : Url
  version : Text
  status : Nat
  reason : Text
  headers : List Header
  reader : Reader
  /-- The stream that the body is on, once it is attached. -/
  stream : Option Stream := none
  /-- Whether the request asked for the head alone. -/
  isHead : Bool := false
  /-- Whether nothing more is to be handed out. -/
  done : Bool := false
  deriving Repr

namespace Response

/-! ## Reading the head -/

/-- A failed read as a failure of the request. -/
def failureOf : ReadFailure → Failure
  | .violation v => .response (.malformed v)
  | .fault f => if f.kind = .remoteProtocol then .response (.reported f.message) else .fault f

/-- Checks what the reader must know of the request: a host that can be written, and a method that is a
    token in upper case.  Returns the method in upper case. -/
def checkRequest (url : Url) (method : Text) : Except Failure Text := do
  match url.hostHeader with
  | .error e => .error (.unwritable e)
  | .ok _ =>
    let method := upper method
    match Narrow.ascii.write method with
    | .error e => .error (.unwritable e)
    | .ok _ => if Header.isToken method then .ok method else .error .illegalMethod

/-- Checks the fields of a head. -/
def checkHeaders (fields : List Header) : Except Failure (List Header) :=
  fields.mapM fun h =>
    match Header.ofPair h.name h.value with
    | .ok h => .ok h
    | .error e => .error (.response (.field e))

/-- The response to a head. -/
def ofHead (url : Url) (method : Text) (head : Head) (inbox : Inbox) : Except Failure Response := do
  let headers ← checkHeaders head.fields
  .ok {
    url
    version := "HTTP/".toList ++ head.version
    status := head.status
    reason := head.reason
    headers
    reader := Reader.start (Framing.of method head) head.persistent inbox }

/-- Reads the head of the answer to a request. -/
def beginRead (s : Stream) (url : Url) (method : Text) : Except Failure Response × Stream :=
  match checkRequest url method with
  | .error e => (.error e, s)
  | .ok method =>
    match readHead {} s with
    | (.error e, s) => (.error (failureOf e), s)
    | (.ok (head, inbox), s) => (ofHead url method head inbox, s)

/-! ## What the head says -/

/-- Whether the status is one of a redirect. -/
def isRedirect (r : Response) : Bool := 300 ≤ r.status && r.status ≤ 399

/-- The name of the field of the content type. -/
def typeName : Text := "content-type".toList

/-- The media type in lower case, plain text when there is none. -/
def contentType (r : Response) : Text :=
  let value := (Header.valueOf? r.headers typeName).getD []
  let value := if value.isEmpty then "text/plain".toList else value
  lower (trimBlank (beforeMark ';' value))

/-- The label of the charset: the first charset parameter with a value, without quotes. -/
def charset (r : Response) : Text :=
  let parameters := (((Header.valueOf? r.headers typeName).getD []).splitOn ';').tail
  let label? (parameter : Text) : Option Text :=
    let value := trimBlank (afterMark '=' parameter)
    if lower (trimBlank (beforeMark '=' parameter)) = "charset".toList && !value.isEmpty then
      some (trim (fun c => c.toNat == 34) value)
    else none
  (parameters.findSome? label?).getD "utf-8".toList

/-- The response for the eye. -/
def summary (r : Response) : Text :=
  "<Response [".toList ++ decimal r.status ++ ' ' :: r.reason ++ "] ".toList ++ r.url.text ++ ['>']

/-! ## The body -/

/-- Hands the stream over for reads of the body. -/
def attach (r : Response) (s : Stream) (isHead : Bool) : Response :=
  { r with stream := some s, isHead }

/-- Ends the response and closes its stream. -/
def close (r : Response) : Response := { r with done := true, stream := r.stream.map Stream.close }

/-- An iteration over the body. -/
inductive Cursor
  | fresh
  | running
  | spent
  deriving DecidableEq, Repr

/-- A failed read inside an iteration. -/
def iterationFailureOf (e : ReadFailure) : Failure :=
  match failureOf e with
  | .fault f => if f.kind = .iterationEnd then .iterationEnded else .fault f
  | e => e

/-- Goes on with an iteration on a stream: the next bytes, or nothing at the end of the body. -/
def resume (r : Response) (s : Stream) : Except Failure (Option Bytes) × Response :=
  if r.isHead then (.ok none, r.close)
  else match r.reader.next s with
    | (.ok (.data b), reader, s) => (.ok (some b), { r with reader, stream := some s })
    | (.ok .finished, reader, s) => (.ok none, { r with reader, stream := some s }.close)
    | (.error e, reader, s) =>
      let r := { r with reader, stream := some s }
      (.error (iterationFailureOf e), if r.done then r.close else r)

/-- Goes on with an iteration, and says where it stands then. -/
def advance (r : Response) (s : Stream) : Except Failure (Option Bytes) × Cursor × Response :=
  match r.resume s with
  | (.ok (some b), r) => (.ok (some b), .running, r)
  | (.ok none, r) => (.ok none, .spent, r)
  | (.error e, r) => (.error e, .spent, r)

/-- The next bytes of an iteration, nothing at its end.  An iteration that ended or failed stays so. -/
def next (r : Response) (cursor : Cursor) : Except Failure (Option Bytes) × Cursor × Response :=
  match cursor, r.stream with
  | .spent, _ => (.ok none, .spent, r)
  | _, none => (.ok none, .spent, r)
  | .fresh, some s => if r.done then (.ok none, .spent, r) else r.advance s
  | .running, some s => r.advance s

/-- The bytes that the body can still hand out at most. -/
def remaining (r : Response) : Nat :=
  match r.stream with
  | none => 0
  | some s => r.reader.remaining s

theorem remaining_resume_lt {r r' : Response} {s : Stream} {b : Bytes} (hs : r.stream = some s)
    (h : r.resume s = (.ok (some b), r')) : r'.remaining + b.length ≤ r.remaining ∧ b ≠ [] := by
  unfold resume at h
  split at h
  · simp at h
  · split at h
    · rename_i hn
      simp only [Prod.mk.injEq, Except.ok.injEq, Option.some.injEq] at h
      obtain ⟨rfl, rfl⟩ := h
      have := Reader.remaining_next hn
      simp only [remaining, hs]
      exact ⟨this.2, this.1⟩
    · simp at h
    · simp at h

theorem remaining_advance_lt {r r' : Response} {s : Stream} {cursor : Cursor} {b : Bytes}
    (hs : r.stream = some s) (h : r.advance s = (.ok (some b), cursor, r')) :
    r'.remaining < r.remaining := by
  unfold advance at h
  split at h
  · rename_i b' r2 hr
    simp only [Prod.mk.injEq, Except.ok.injEq, Option.some.injEq] at h
    obtain ⟨rfl, _, rfl⟩ := h
    have := remaining_resume_lt hs hr
    have hb : 0 < b'.length := List.length_pos_iff.2 this.2
    omega
  · simp at h
  · simp at h

theorem remaining_next_lt {r r' : Response} {cursor cursor' : Cursor} {b : Bytes}
    (h : r.next cursor = (.ok (some b), cursor', r')) : r'.remaining < r.remaining := by
  unfold next at h
  split at h
  · simp at h
  · simp at h
  · split at h
    · simp at h
    · exact remaining_advance_lt ‹_› h
  · exact remaining_advance_lt ‹_› h

/-- Runs an iteration to its end: the pieces, in reverse after those given. -/
def drainFrom (r : Response) (cursor : Cursor) (pieces : List Bytes) :
    Except Failure (List Bytes) × Response :=
  match h : r.next cursor with
  | (.error e, _, r) => (.error e, r)
  | (.ok none, _, r) => (.ok pieces.reverse, r)
  | (.ok (some b), cursor, r') =>
    have : r'.remaining < r.remaining := remaining_next_lt h
    drainFrom r' cursor (b :: pieces)
termination_by r.remaining

/-- All pieces of a new iteration. -/
def chunks (r : Response) : Except Failure (List Bytes) × Response := r.drainFrom .fresh []

/-- All bytes of a new iteration. -/
def read (r : Response) : Except Failure Bytes × Response :=
  match r.chunks with
  | (.ok pieces, r) => (.ok pieces.flatten, r)
  | (.error e, r) => (.error e, r)

/-- All of a new iteration as text. -/
def text (r : Response) : Except Failure Text × Response :=
  match r.read with
  | (.ok data, r) => (.ok (Charset.readLabelled r.charset data), r)
  | (.error e, r) => (.error e, r)

/-- Runs an iteration up to a number of bytes: the pieces in reverse, how many bytes they are, and
    whether more came. -/
def drainUpTo (r : Response) (cursor : Cursor) (limit : Nat) (pieces : List Bytes) (size : Nat) :
    Except Failure (List Bytes × Nat × Bool) × Response :=
  match h : r.next cursor with
  | (.error e, _, r) => (.error e, r)
  | (.ok none, _, r) => (.ok (pieces, size, false), r)
  | (.ok (some b), cursor, r') =>
    if limit - size < b.length then (.ok (b.take (limit - size) :: pieces, limit, true), r')
    else
      have : r'.remaining < r.remaining := remaining_next_lt h
      drainUpTo r' cursor limit (b :: pieces) (size + b.length)
termination_by r.remaining

/-- The first bytes of the body, at most `limit` of them, and whether there were more. -/
def readUpTo (r : Response) (limit : Nat) : Except Failure (Bytes × Bool) × Response :=
  match r.drainUpTo .fresh limit [] 0 with
  | (.ok (pieces, _, truncated), r) => (.ok (pieces.reverse.flatten, truncated), r)
  | (.error e, r) => (.error e, r)

end Response

end Courier
