/-
  Failures of a request, and the categories that they are reported in.

  A failure is either one that this library finds or a fault from outside.  Its category is decided in a
  fixed order: security and look-up come first, also as the cause of a fault, because connections wrap
  them; then timeouts, the redirect limit, URLs, the protocol, the network.
-/
import Courier.Url.Parse
import Courier.Cookie.Origin
import Courier.Response.Violation

namespace Courier

/-- Why a request fails. -/
inductive Failure
  | header (e : HeaderError)
  | url (e : Url.Error)
  | unknownScheme (scheme : Text)
  | tooManyRedirects
  | response (e : ResponseError)
  | hostName (e : Idna.Error)
  | unwritable (e : Unwritable)
  | illegalMethod
  | noAnswer (host : Text)
  | cookieOrigin (e : OriginError)
  /-- the connection ended an iteration that was not its own -/
  | iterationEnded
  | fault (f : Fault)
  deriving DecidableEq, Repr

/-- The name that a failure is reported with. -/
def Failure.name : Failure → Text
  | .header _ => "InvalidHeader".toList
  | .url _ => "BadUrl".toList
  | .unknownScheme _ => "UnknownScheme".toList
  | .tooManyRedirects => "TooManyRedirects".toList
  | .response _ => "BadResponse".toList
  | .hostName e => e.name
  | .unwritable _ => "UnicodeEncodeError".toList
  | .illegalMethod => "LocalProtocolError".toList
  | .noAnswer _ => "ConnectError".toList
  | .cookieOrigin _ => "ValueError".toList
  | .iterationEnded => "RuntimeError".toList
  | .fault f => f.name

/-- The message of a failure. -/
def Failure.message : Failure → Text
  | .header e => e.message
  | .url e => e.message
  | .unknownScheme scheme => "Unknown scheme: ".toList ++ scheme
  | .tooManyRedirects => "Too many redirects".toList
  | .response e => e.message
  | .hostName e => e.message
  | .unwritable e => e.message
  | .illegalMethod => "Illegal method characters".toList
  | .cookieOrigin e => e.message
  | .noAnswer host => "No scripted response for ".toList ++ host
  | .iterationEnded => "generator raised StopIteration".toList
  | .fault f => f.message

/-- Categories of failures. -/
inductive Category
  | timeout
  | security
  | connection
  | lookup
  | protocol
  | invalidUrl
  | tooManyRedirects
  | unknown
  | none
  deriving DecidableEq, Repr

namespace Category

/-- The name of a category. -/
def name : Category → Text
  | .timeout => "TIMEOUT".toList
  | .security => "SSL_ERROR".toList
  | .connection => "CONNECTION_ERROR".toList
  | .lookup => "DNS_ERROR".toList
  | .protocol => "PROTOCOL_ERROR".toList
  | .invalidUrl => "INVALID_URL".toList
  | .tooManyRedirects => "TOO_MANY_REDIRECTS".toList
  | .unknown => "UNKNOWN_ERROR".toList
  | .none => "NONE".toList

/-- What a user is told. -/
def reason : Category → Text
  | .timeout => "Network timeout during request".toList
  | .security => "TLS/certificate issue".toList
  | .connection => "Network connectivity issue".toList
  | .lookup => "DNS resolution failure".toList
  | .protocol => "Malformed HTTP message".toList
  | .invalidUrl => "Unsupported or malformed URL".toList
  | .tooManyRedirects => "Redirect limit exceeded".toList
  | .unknown => "Network error during request".toList
  | .none => []

/-- All categories. -/
def all : List Category :=
  [.timeout, .security, .connection, .lookup, .protocol, .invalidUrl, .tooManyRedirects, .unknown,
    .none]

/-- The category of a name. -/
def ofName? (s : Text) : Option Category := all.find? fun c => c.name == s

/-- What a user is told of a category name: nothing without a name, and a common line for a name that is
    none. -/
def reasonOfName : Option Text → Text
  | .none => []
  | some s =>
    match ofName? s with
    | some c => c.reason
    | .none => "Request failed due to network error".toList

end Category

/-- The category of a fault by its own family. -/
def FaultKind.category : FaultKind → Category
  | .security => .security
  | .lookup => .lookup
  | .timeout => .timeout
  | .redirectLimit => .tooManyRedirects
  | .url => .invalidUrl
  | .protocol | .remoteProtocol => .protocol
  | .connection => .connection
  | .abort | .iterationEnd | .other => .unknown

/-- The category of a fault: security and look-up count also as its cause. -/
def Fault.category (f : Fault) : Category :=
  if f.kind = .security ∨ f.cause = some .security then .security
  else if f.kind = .lookup ∨ f.cause = some .lookup then .lookup
  else f.kind.category

/-- The category of a failure. -/
def Failure.category : Failure → Category
  | .header _ | .response _ | .illegalMethod => .protocol
  | .url _ | .unknownScheme _ => .invalidUrl
  | .tooManyRedirects => .tooManyRedirects
  | .noAnswer _ => .connection
  | .hostName _ | .unwritable _ | .cookieOrigin _ | .iterationEnded => .unknown
  | .fault f => f.category

/-- Whether a failure stops the program and is no answer to a request. -/
def Failure.isAbort : Failure → Bool
  | .fault f => f.kind == .abort
  | _ => false

end Courier
