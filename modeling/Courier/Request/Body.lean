/-
  Request bodies, and how they are written to a stream.

  A body whose bytes are at hand, or that is a list of pieces, is sent whole every time.  A file is read on
  from where it stands, and an iteration runs once, so a second send of those finds nothing.  In chunked
  form every piece that is not empty becomes a chunk, and an empty chunk ends the body.
-/
import Courier.Stream.Basic
import Courier.Number.Integer
import Courier.Text.Utf8

namespace Courier

/-- Where the bytes of a body come from. -/
inductive BodySource
  /-- bytes at hand -/
  | whole (b : Bytes)
  /-- pieces that can be gone through again and again -/
  | pieces (ps : Script)
  /-- what is left of a file -/
  | file (rest : Bytes)
  /-- pieces that can be gone through once -/
  | once (ps : Script)
  deriving DecidableEq, Repr

/-- A body, and its size when it is known beforehand. -/
structure Body where
  source : BodySource := .whole []
  size : Option Int := none
  deriving DecidableEq, Repr

/-- What a caller gives for a body. -/
inductive Payload
  | nothing
  | text (s : Text)
  | bytes (b : Bytes)
  /-- what is left of a file -/
  | file (rest : Bytes)
  /-- pieces that can be gone through again and again -/
  | list (ps : Script)
  /-- pieces that can be gone through once -/
  | iterator (ps : Script)
  /-- a body that the caller made, with the size that the caller says it has -/
  | ready (body : Body)
  deriving DecidableEq, Repr

namespace Body

/-- No body. -/
def empty : Body := {}

/-- A body of bytes. -/
def ofBytes (b : Bytes) : Body := { source := .whole b, size := some b.length }

/-- A body of text. -/
def ofText (s : Text) : Body := ofBytes (utf8 s)

/-- The body of a payload: only what is at hand as a whole has a size that is known beforehand. -/
def ofPayload : Payload → Body
  | .nothing => .empty
  | .text s => .ofText s
  | .bytes b => .ofBytes b
  | .file rest => { source := .file rest }
  | .list ps => { source := .pieces ps }
  | .iterator ps => { source := .once ps }
  | .ready body => body

/-- How many bytes are read from a file at once. -/
def pieceSize : Nat := 65536

/-- Bytes cut into pieces of one and `more` bytes, in reverse after those given. -/
def cutPieces (more : Nat) (done : Script) (b : Bytes) : Script :=
  if h : b = [] then done.reverse
  else
    have : (b.drop (more + 1)).length < b.length := by
      have := List.length_pos_iff.2 h
      simp only [List.length_drop]; omega
    cutPieces more (.bytes (b.take (more + 1)) :: done) (b.drop (more + 1))
termination_by b.length

/-- The pieces in which a file is read. -/
def filePieces (b : Bytes) : Script := cutPieces (pieceSize - 1) [] b

/-- What a source hands out now. -/
def script (body : Body) : Script :=
  match body.source with
  | .whole [] => []
  | .whole b => [.bytes b]
  | .pieces ps => ps
  | .file rest => filePieces rest
  | .once ps => ps

/-- The body after it was sent. -/
def spent (body : Body) : Body :=
  match body.source with
  | .whole _ | .pieces _ => body
  | .file _ => { body with source := .file [] }
  | .once _ => { body with source := .once [] }

/-! ## Framing -/

/-- The line end of chunks. -/
def lineEnd : Bytes := [13, 10]

/-- The digits of a chunk size. -/
def sizeDigits (n : Nat) : Bytes := (hex n).map fun c => UInt8.ofNat c.toNat

/-- A chunk. -/
def chunk (b : Bytes) : Bytes := sizeDigits b.length ++ lineEnd ++ b ++ lineEnd

/-- The end of a chunked body. -/
def lastChunk : Bytes := 48 :: lineEnd ++ lineEnd

/-- What is written for a piece: nothing for an empty one in chunked form. -/
def frame? (chunked : Bool) : Piece → Option Piece
  | .fault f => some (.fault f)
  | .bytes b =>
    if !chunked then some (.bytes b) else if b.isEmpty then none else some (.bytes (chunk b))

/-- What is written for a whole body, write by write. -/
def frames (body : Body) (chunked : Bool) : Script :=
  body.script.filterMap (frame? chunked) ++ if chunked then [.bytes lastChunk] else []

/-- Writes pieces one after the other, up to the first fault. -/
def writeAll (s : Stream) : Script → Except Fault Unit × Stream
  | [] => (.ok (), s)
  | .fault f :: _ => (.error f, s)
  | .bytes b :: rest =>
    match s.write b with
    | (.ok (), s) => writeAll s rest
    | (.error f, s) => (.error f, s)

/-- Sends a body. -/
def send (body : Body) (chunked : Bool) (s : Stream) : Except Fault Unit × Stream :=
  writeAll s (body.frames chunked)

end Body

end Courier
