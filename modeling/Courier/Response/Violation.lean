/-
  Violations of the protocol in what a server sends, and the errors of reading a response.
-/
import Courier.Header.Basic
import Courier.Stream.Fault

namespace Courier

/-- What is wrong with the bytes of a response. -/
inductive Violation
  | controlAtStart
  | noStatusLine
  | statusLine (line : Bytes)
  | headerLine (line : Bytes)
  | leadingContinuation
  | conflictingLengths
  | badLength
  | repeatedCoding
  | unknownCoding
  | interimStatus (status : Nat)
  | unaskedUpgrade
  | chunkHeader (line : Bytes)
  | chunkFooter (found expected : Bytes)
  | shortBody (received expected : Nat)
  | shortChunks
  | tooLong
  | closedEarly
  | closedBeforeHead
  | dataAfterEnd
  | afterFailure
  deriving DecidableEq, Repr

/-- The message of a violation. -/
def Violation.message : Violation → Text
  | .controlAtStart => "illegal request line".toList
  | .noStatusLine => "no response line received".toList
  | .statusLine line => "illegal status line: ".toList ++ quotedBuffer line
  | .headerLine line => "illegal header line: ".toList ++ quotedBuffer line
  | .leadingContinuation => "continuation line at start of headers".toList
  | .conflictingLengths => "conflicting Content-Length headers".toList
  | .badLength => "bad Content-Length".toList
  | .repeatedCoding => "multiple Transfer-Encoding headers".toList
  | .unknownCoding => "Only Transfer-Encoding: chunked is supported".toList
  | .interimStatus status =>
    "InformationalResponse status_code should be in range [100, 200), not ".toList ++ decimal status
  | .unaskedUpgrade =>
    "Received server _SWITCH_UPGRADE event without a pending proposal".toList
  | .chunkHeader line => "illegal chunk header: ".toList ++ quotedBuffer line
  | .chunkFooter found expected =>
    "malformed chunk footer: ".toList ++ quotedBuffer found ++ " (expected ".toList ++
      quotedBytes expected ++ [')']
  | .shortBody received expected =>
    "peer closed connection without sending complete message body (received ".toList ++
      decimal received ++ " bytes, expected ".toList ++ decimal expected ++ [')']
  | .shortChunks =>
    ("peer closed connection without sending complete message body " ++
      "(incomplete chunked read)").toList
  | .tooLong => "Receive buffer too long".toList
  | .closedEarly => "peer unexpectedly closed connection".toList
  | .closedBeforeHead =>
    ("can" ++ String.singleton (Char.ofNat 39) ++ "t handle event type ConnectionClosed when " ++
      "role=SERVER and state=SEND_RESPONSE").toList
  | .dataAfterEnd => "Got data when expecting EOF".toList
  | .afterFailure =>
    ("Can" ++ String.singleton (Char.ofNat 39) ++
      "t receive data when peer state is ERROR").toList

/-- Why a response could not be read. -/
inductive ResponseError
  /-- the bytes violate the protocol -/
  | malformed (v : Violation)
  /-- the connection reports that the other side violated the protocol -/
  | reported (message : Text)
  /-- a field of the head is refused -/
  | field (e : HeaderError)
  deriving DecidableEq, Repr

/-- The message of an error. -/
def ResponseError.message : ResponseError → Text
  | .malformed v => "Malformed response: ".toList ++ v.message
  | .reported message => "Malformed response: ".toList ++ message
  | .field e => "Bad response header: ".toList ++ e.message

end Courier
