/-
  The head of a response: status line and fields, as read from the lines of its block.

  A field line that begins with a space or a tab continues the one before.  A field is a token, a colon
  at once, and a value whose inner characters are neither zero nor line controls.  Content-Length must be
  one number of at most twenty digits, repeated equally or not at all; the only transfer coding is
  chunked, given once.

  The head and the method of the request say how the body is framed on the connection (`Framing.of`).  Some
  responses have no body whatever their fields say.  Otherwise the chunked coding is stronger than a length,
  and without either the body goes on to the end of the stream.
-/
import Courier.Response.Violation
import Courier.Response.Inbox
import Courier.Text.Narrow

namespace Courier

/-- The head of a response. -/
structure Head where
  version : Text
  status : Nat
  reason : Text
  fields : List Header
  deriving DecidableEq, Repr

namespace Head

/-! ## The status line -/

/-- A byte of a reason: neither zero nor a line control. -/
def isReasonByte (b : UInt8) : Bool := b != 0 && (b < 10 || 13 < b)

/-- A decimal digit. -/
def isDigitByte (b : UInt8) : Bool := 48 ≤ b && b ≤ 57

/-- How a status line begins. -/
def versionMark : Bytes := [72, 84, 84, 80, 47]

/-- Reads a status line: version, status and reason. -/
def readStatusLine? (line : Bytes) : Option (Text × Nat × Text) :=
  if !versionMark.isPrefixOf line then none
  else match line.drop 5 with
    | major :: 46 :: minor :: 32 :: a :: b :: c :: rest =>
      if [major, minor, a, b, c].all isDigitByte then
        let version := ofLatin1 [major, 46, minor]
        let status := decimalValue (ofLatin1 [a, b, c])
        match rest with
        | [] => some (version, status, [])
        | 32 :: reason =>
          if reason.all isReasonByte then some (version, status, ofLatin1 reason) else none
        | _ => none
      else none
    | _ => none

/-! ## Fields -/

/-- A space or a tab. -/
def isPaddingByte (b : UInt8) : Bool := b == 32 || b == 9

/-- Takes in a line after the lines so far, which stand in reverse with the last one apart: a line that
    begins with padding continues the last one, with a space for the blanks at its front. -/
def joinLine (lines : List Bytes × Bytes) (line : Bytes) : List Bytes × Bytes :=
  if line.head?.any isPaddingByte then (lines.1, lines.2 ++ 32 :: line.dropWhile isPaddingByte)
  else (lines.2 :: lines.1, line)

/-- Joins continuation lines to the line that they continue. -/
def unfoldLines (lines : List Bytes) : Except Violation (List Bytes) :=
  match lines with
  | [] => .ok []
  | line :: rest =>
    if line.head?.any isPaddingByte then .error .leadingContinuation
    else
      let joined := rest.foldl joinLine ([], line)
      .ok (joined.2 :: joined.1).reverse

/-- Reads the line of a field. -/
def readField? (line : Bytes) : Option Header :=
  match cut 58 line with
  | (_, none) => none
  | (name, some value) =>
    let value := trim isPaddingByte value
    if Header.isToken (ofLatin1 name) && value.all isReasonByte then
      some { name := ofLatin1 name, value := ofLatin1 value }
    else none

/-- Reads field lines. -/
def readFields (lines : List Bytes) : Except Violation (List Header) := do
  (← unfoldLines lines).mapM fun line =>
    match readField? line with
    | some h => .ok h
    | none => .error (.headerLine line)

/-! ## Framing fields -/

/-- The name of the length field, in lower case. -/
def lengthName : Text := "content-length".toList

/-- The name of the coding field, in lower case. -/
def codingName : Text := "transfer-encoding".toList

/-- The name of the connection field, in lower case. -/
def connectionName : Text := "connection".toList

/-- The one transfer coding. -/
def chunkedName : Text := "chunked".toList

/-- The most digits of a length. -/
def maxLengthDigits : Nat := 20

/-- The ASCII lower case of a text. -/
def asciiLower (s : Text) : Text := s.map Char.toLower

/-- The length that a value gives: all its parts between commas are the same number. -/
def readLength (value : Text) : Except Violation Text :=
  match ((value.splitOn ',').map (trim Header.isPadding)).eraseDups with
  | [digits] =>
    if !digits.isEmpty && digits.all Char.isDigit && digits.length ≤ maxLengthDigits then .ok digits
    else .error .badLength
  | _ => .error .conflictingLengths

/-- What checking the framing fields has seen: the length, the coding, the fields in reverse. -/
structure Checked where
  length : Option Text := none
  coded : Bool := false
  fields : List Header := []

/-- Checks one field. -/
def Checked.add (seen : Checked) (h : Header) : Except Violation Checked :=
  let name := asciiLower h.name
  if name = lengthName then do
    let digits ← readLength h.value
    match seen.length with
    | none =>
      .ok { seen with length := some digits, fields := { h with value := digits } :: seen.fields }
    | some before => if before = digits then .ok seen else .error .conflictingLengths
  else if name = codingName then
    if seen.coded then .error .repeatedCoding
    else
      let value := asciiLower h.value
      if value = chunkedName then
        .ok { seen with coded := true, fields := { h with value } :: seen.fields }
      else .error .unknownCoding
  else .ok { seen with fields := h :: seen.fields }

/-- Checks the framing fields and brings them to their normal form; a repeated equal length is
    dropped. -/
def checkFields (fields : List Header) : Except Violation (List Header) := do
  let seen ← fields.foldlM Checked.add {}
  .ok seen.fields.reverse

/-- Reads the lines of fields, checked. -/
def readCheckedFields (lines : List Bytes) : Except Violation (List Header) := do
  checkFields (← readFields lines)

/-! ## Heads -/

/-- Reads the lines of a head. -/
def ofLines : List Bytes → Except Violation Head
  | [] => .error .noStatusLine
  | first :: rest =>
    match readStatusLine? first with
    | none => .error (.statusLine first)
    | some (version, status, reason) => do
      let fields ← readCheckedFields rest
      if status < 100 then .error (.interimStatus status)
      else .ok { version, status, reason, fields }

/-- An interim head, which announces another one. -/
def isInterim (head : Head) : Bool := head.status < 200

/-- The value of a field by its lower-case name. -/
def field? (head : Head) (name : Text) : Option Text :=
  (head.fields.find? fun h => asciiLower h.name == name).map Header.value

/-- Whether the connection may stay open after this response. -/
def persistent (head : Head) : Bool :=
  let options := (head.fields.filter fun h => asciiLower h.name == connectionName).flatMap fun h =>
    (h.value.splitOn ',').map fun o => asciiLower (trim Header.isPadding o)
  !options.contains "close".toList && !(head.version == "1.0".toList || head.version.head? == some '0')

end Head

/-! ## Framing -/

/-- The framing of a body. -/
inductive Framing
  | fixed (length : Nat)
  | chunked
  | untilEnd
  /-- the connection has become a tunnel -/
  | tunnel
  deriving DecidableEq, Repr

/-- The framing of the answer to a request with this method, in upper case. -/
def Framing.of (method : Text) (head : Head) : Framing :=
  let succeeded := 200 ≤ head.status && head.status < 300
  if method = "CONNECT".toList ∧ succeeded then .tunnel
  else if head.status = 204 ∨ head.status = 304 ∨ method = "HEAD".toList then .fixed 0
  else if (head.field? Head.codingName).isSome then .chunked
  else match head.field? Head.lengthName with
    | some digits => .fixed (decimalValue digits)
    | none => .untilEnd

end Courier
