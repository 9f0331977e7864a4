/-
  Faults: failures that come from outside, from a connect, a read, a write or the source of a body.

  A fault has the name and the message it is reported with, the family it belongs to, and the family of
  the fault that caused it, if any.  Everything else in this library that depends on a fault depends on
  its families only.

  Faults are raised by the libraries below this one, and reach it as a name and a message.  The family follows
  from the name alone (`FaultKind.ofName`), and so does the wording of the few that word their message
  themselves (`Fault.wording`).
-/
import Courier.Text.Quoted

namespace Courier

/-- Families of faults. -/
inductive FaultKind
  /-- a failed handshake or certificate -/
  | security
  /-- a host name that could not be looked up -/
  | lookup
  | timeout
  | redirectLimit
  | url
  | protocol
  /-- a violation of the protocol by the other side -/
  | remoteProtocol
  | connection
  /-- a stop of the program, which is no failure of the request -/
  | abort
  /-- the end of an iteration -/
  | iterationEnd
  | other
  deriving DecidableEq, Repr

/-- A failure from outside. -/
structure Fault where
  name : Text
  kind : FaultKind
  message : Text
  cause : Option FaultKind := none
  deriving DecidableEq, Repr

/-! ## Faults as they are raised -/

/-- The families by the names of their faults; a name that is not here belongs to the last family. -/
def FaultKind.members : List (FaultKind × List String) :=
  [(.security, ["SSLError", "SSLCertVerificationError", "SSLEOFError", "SSLZeroReturnError"]),
   (.lookup, ["gaierror"]),
   (.timeout, ["TimeoutError", "TimeoutException", "PoolTimeout", "ConnectTimeout", "ReadTimeout", "WriteTimeout"]),
   (.redirectLimit, ["TooManyRedirects"]),
   (.url, ["UnknownScheme", "BadUrl"]),
   (.protocol, ["InvalidHeader", "BadResponse", "ProtocolError", "LocalProtocolError", "RemoteProtocolError"]),
   (.connection, ["NetworkError", "ConnectError", "ReadError", "WriteError", "ProxyError", "ConnectionError",
     "ConnectionRefusedError", "ConnectionResetError", "ConnectionAbortedError", "BrokenPipeError"]),
   (.abort, ["KeyboardInterrupt", "SystemExit", "GeneratorExit", "BaseException"]),
   (.iterationEnd, ["StopIteration"])]

/-- Names that stand for another one. -/
def Fault.aliases : List (String × String) :=
  [("CertificateError", "SSLCertVerificationError"), ("socket.timeout", "TimeoutError"),
   ("IOError", "OSError"), ("EnvironmentError", "OSError")]

/-- The name that a fault is reported with: without the library that it is from. -/
def Fault.reportedName (name : Text) : Text :=
  match aliases.find? fun entry => entry.1.toList == name with
  | some entry => entry.2.toList
  | none => (cutLast '.' name).2

/-- The family of a fault.  Two names say which library they are from: a violation by the other side that the
    reader of responses found, and a failed connect of a client that this library is none of. -/
def FaultKind.ofName (name : Text) : FaultKind :=
  if name = "h11.RemoteProtocolError".toList then .remoteProtocol
  else if name = "httpx.ConnectError".toList then .other
  else
    let reported := Fault.reportedName name
    ((members.find? fun family => family.2.any fun member => member.toList == reported).map (·.1)).getD .other

/-- The message of a fault that was raised with a text: most show the text as it is. -/
def Fault.wording (name message : Text) : Text :=
  if FaultKind.ofName name = .security then '(' :: quoted message ++ [',', ')']
  else if FaultKind.ofName name = .redirectLimit then "Too many redirects".toList
  else if name = "UnknownScheme".toList then "Unknown scheme: ".toList ++ message
  else if name = "KeyError".toList then quoted message
  else message

/-- The fault that is raised under a name and with a text. -/
def Fault.raised (name message : Text) : Fault :=
  { name := reportedName name, kind := .ofName name, message := wording name message }

/-- A fault that was raised because of another one. -/
def Fault.causedBy (f cause : Fault) : Fault := { f with cause := some cause.kind }

/-- The names of the faults that are this library's own. -/
def Fault.ownNames : List String :=
  ["HopwireError", "UnknownScheme", "BadUrl", "TooManyRedirects", "InvalidHeader", "BadResponse", "InvalidCookie"]

/-- The text of a fault of this library's own; others word theirs as they like. -/
def Fault.ownText? (f : Fault) : Option Text :=
  if ownNames.any fun own => own.toList == f.name then some f.message else none

end Courier
