/-
  Streams of bytes to and from a server.

  What a server will send is a script: pieces that arrive one after the other, or a fault.  A read takes
  from the current piece only, so the pieces are the boundaries at which data can arrive; an empty piece
  and the end of the script read as the end of the stream.  Every connect, read and write is asked for with
  the timeout of the hop, in seconds; an absent one never strikes.

  A stream also remembers what was asked of it (`Call`): what was written and whether it is closed are
  read off that record.  Closing twice is closing once.
-/
import Courier.Stream.Fault
import Courier.Number.Binary64

namespace Courier

/-- The timeouts of one hop. -/
structure Timeouts where
  connect : Option Binary64 := none
  read : Option Binary64 := none
  write : Option Binary64 := none
  deriving DecidableEq, Repr

/-- The same timeout for everything. -/
def Timeouts.all (t : Binary64) : Timeouts := { connect := some t, read := some t, write := some t }

/-- What arrives in one piece. -/
inductive Piece
  | bytes (b : Bytes)
  | fault (f : Fault)
  deriving DecidableEq, Repr

/-- What a server sends, in order. -/
abbrev Script := List Piece

/-- How much there is to read of a script: every read of it makes this smaller. -/
def Script.weight : Script → Nat
  | [] => 0
  | .bytes b :: rest => b.length + 1 + Script.weight rest
  | .fault _ :: rest => 1 + Script.weight rest

/-- The number of bytes in a script. -/
def Script.size : Script → Nat
  | [] => 0
  | .bytes b :: rest => b.length + Script.size rest
  | .fault _ :: rest => Script.size rest

/-- What is asked of the network. -/
inductive Call
  | connect (host : Text) (port : Int) (timeout : Option Binary64)
  | secure (host : Text) (timeout : Option Binary64) (verified : Bool)
  | write (data : Bytes) (timeout : Option Binary64)
  | read (limit : Int) (timeout : Option Binary64)
  | close
  deriving DecidableEq, Repr

/-- The bytes that a call writes. -/
def Call.payload : Call → Bytes
  | .write data _ => data
  | _ => []

/-- A stream. -/
structure Stream where
  host : Text := []
  port : Option Int := none
  timeouts : Timeouts := {}
  /-- What is still to arrive. -/
  incoming : Script := []
  /-- After this many further writes, writing fails. -/
  writeFault : Option (Nat × Fault) := none
  /-- What was asked of the stream so far. -/
  calls : List Call := []
  /-- Whether the connection came about at all. -/
  connected : Bool := true
  deriving Repr

namespace Stream

/-- Everything written so far. -/
def written (s : Stream) : Bytes := s.calls.flatMap Call.payload

/-- Whether the stream was closed. -/
def closed (s : Stream) : Bool := s.calls.contains .close

/-- The number of bytes that were never handed out. -/
def unread (s : Stream) : Nat := s.incoming.size

/-- Records a call. -/
def note (s : Stream) (c : Call) : Stream := { s with calls := s.calls ++ [c] }

/-- The most bytes that a read asks for. -/
def readSize : Nat := 65536

/-- The first bytes of a piece and what is left of it; a negative limit leaves that many bytes. -/
def takePiece (limit : Int) (b : Bytes) : Bytes × Bytes :=
  let n := if limit < 0 then b.length - limit.natAbs else limit.toNat
  (b.take n, b.drop n)

/-- Takes from a script as one read does. -/
def takeScript (limit : Int) : Script → Except Fault Bytes × Script
  | [] => (.ok [], [])
  | .fault f :: rest => (.error f, rest)
  | .bytes b :: rest =>
    let (data, left) := takePiece limit b
    (.ok data, if left.isEmpty then rest else .bytes left :: rest)

/-- Reads up to a number of bytes. -/
def readUpTo (s : Stream) (limit : Int) : Except Fault Bytes × Stream :=
  let (data, incoming) := takeScript limit s.incoming
  (data, { (s.note (.read limit s.timeouts.read)) with incoming })

/-- Reads what arrives next; nothing at the end of the stream. -/
def read (s : Stream) : Except Fault Bytes × Stream := s.readUpTo readSize

/-- Writes data as it is, also when it is empty. -/
def writeRaw (s : Stream) (data : Bytes) : Except Fault Unit × Stream :=
  match s.writeFault with
  | some (0, f) => (.error f, s)
  | some (n + 1, f) =>
    (.ok (), { (s.note (.write data s.timeouts.write)) with writeFault := some (n, f) })
  | none => (.ok (), s.note (.write data s.timeouts.write))

/-- Writes data; nothing is asked of the network when there is none. -/
def write (s : Stream) (data : Bytes) : Except Fault Unit × Stream :=
  if data.isEmpty then (.ok (), s) else s.writeRaw data

/-- Closes the stream. -/
def close (s : Stream) : Stream := if s.closed then s else s.note .close

/-! ## Laws -/

theorem written_note (s : Stream) (c : Call) : (s.note c).written = s.written ++ c.payload := by
  simp [note, written]

theorem closed_close (s : Stream) : s.close.closed = true := by
  unfold close
  split
  · assumption
  · simp [closed, note]

theorem close_close (s : Stream) : s.close.close = s.close := by
  rw [close, if_pos (closed_close s)]

theorem length_takePiece (b : Bytes) : (takePiece readSize b).1.length + (takePiece readSize b).2.length
    = b.length := by
  simp only [takePiece, List.length_take, List.length_drop]
  omega

/-- A read that hands out bytes leaves less to read. -/
theorem weight_takeScript_lt {script rest : Script} {data : Bytes}
    (h : takeScript readSize script = (.ok data, rest)) (hne : data ≠ []) :
    rest.weight < script.weight := by
  match script with
  | [] => simp [takeScript, Ne.symm hne] at h
  | .fault f :: t => simp [takeScript] at h
  | .bytes b :: t =>
    have hl := length_takePiece b
    simp only [takeScript, Prod.mk.injEq, Except.ok.injEq] at h
    obtain ⟨rfl, rfl⟩ := h
    have hd : 0 < (takePiece readSize b).1.length := List.length_pos_iff.2 hne
    split
    · simp [Script.weight]
    · simp [Script.weight]; omega

theorem weight_read_lt {s s' : Stream} {data : Bytes} (h : s.read = (.ok data, s')) (hne : data ≠ []) :
    s'.incoming.weight < s.incoming.weight := by
  unfold read readUpTo at h
  simp only [Prod.mk.injEq] at h
  obtain ⟨h1, rfl⟩ := h
  exact weight_takeScript_lt (Prod.ext h1 rfl) hne

theorem size_takeScript {script rest : Script} {data : Bytes}
    (h : takeScript readSize script = (.ok data, rest)) : data.length + rest.size = script.size := by
  match script with
  | [] => simp [takeScript] at h; simp [h]
  | .fault f :: t => simp [takeScript] at h
  | .bytes b :: t =>
    have hl := length_takePiece b
    simp only [takeScript, Prod.mk.injEq, Except.ok.injEq] at h
    obtain ⟨rfl, rfl⟩ := h
    split
    · rename_i he
      have he : (takePiece readSize b).2 = [] := by simpa using he
      simp only [he, List.length_nil] at hl
      simp [Script.size]; omega
    · simp [Script.size]; omega

/-- A read hands out bytes of the script once. -/
theorem size_read {s s' : Stream} {data : Bytes} (h : s.read = (.ok data, s')) :
    data.length + s'.incoming.size = s.incoming.size := by
  unfold read readUpTo at h
  simp only [Prod.mk.injEq] at h
  obtain ⟨h1, rfl⟩ := h
  exact size_takeScript (Prod.ext h1 rfl)

end Stream

end Courier
