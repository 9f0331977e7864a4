/-
  A hop: everything that one request of a journey needs for its head.

  The caller's own fields come first, then the cookies that go with the target, then a length when the body
  has a known size and the caller framed it in no other way.  Chunked framing is only what the caller asks
  for.  After a redirect the hop is made anew for its target; when the body was dropped, the caller's framing
  fields go with it.
-/
import Courier.Cookie.Exchange
import Courier.Header.Fields
import Courier.Request.Body
import Courier.Failure

namespace Courier

/-- One request of a journey, without its method and body. -/
structure Hop where
  url : Url
  isChunked : Bool
  isHead : Bool
  hostname : Text
  /-- The query with its mark. -/
  query : Text
  headers : List Header
  callerHeaders : List Header
  timeouts : Timeouts
  deriving Repr

namespace Hop

/-- The name of the coding field. -/
def codingName : Text := "transfer-encoding".toList

/-- The name of the length field. -/
def lengthName : Text := "content-length".toList

/-- The length field of a body, when it has a known size. -/
def lengthFields (body : Body) : List Header :=
  match body.size with
  | some n => [{ name := "Content-Length".toList, value := decimalInt n }]
  | none => []

/-- Whether the caller asks for chunked framing: the first coding field is not empty. -/
def asksChunked (headers : List Header) : Bool :=
  (Header.valueOf? headers codingName).any fun v => !v.isEmpty

/-- The name of the host that a URL leads to. -/
def hostnameOf (url : Url) : Except Failure Text :=
  match url.host with
  | .ok [] => .ok "localhost".toList
  | .ok host => .ok host
  | .error e => .error (.hostName e)

/-- Makes a hop. -/
def build (method : Text) (headers : List Header) (query : Query) (timeouts : Timeouts)
    (jar : Option Jar) (url : Url) (body : Body) : Except Failure Hop := do
  let hostname ← hostnameOf url
  let isChunked := asksChunked headers
  let cookies := match jar with
    | none => []
    | some jar => jar.fieldsFor hostname url.requestPath url.isSecure
  let length :=
    if isChunked || Header.contains headers lengthName then [] else lengthFields body
  .ok {
    url, isChunked, hostname, timeouts
    isHead := lower method == "head".toList
    query := url.combineQuery query
    headers := headers ++ cookies ++ length
    callerHeaders := headers }

/-- Whether a field frames the body. -/
def isFraming (h : Header) : Bool := h.hasName lengthName || h.hasName codingName

/-- The hop after a redirect. -/
def forRedirect (hop : Hop) (jar : Option Jar) (url : Url) (method : Text) (body : Body)
    (bodyDropped : Bool) : Except Failure Hop :=
  let headers :=
    if bodyDropped then hop.callerHeaders.filter fun h => !isFraming h else hop.callerHeaders
  build method headers .absent hop.timeouts jar url body

/-- The request line. -/
def requestLine (hop : Hop) (method : Text) : Text :=
  method ++ ' ' :: hop.url.requestPath ++ hop.query ++ " HTTP/1.1\r\n".toList

/-- The line of the host, unless the hop has a host field of its own. -/
def hostLine (hop : Hop) : Except Failure Text :=
  if Header.contains hop.headers "host".toList then .ok []
  else match hop.url.hostHeader with
    | .ok host => .ok ("Host: ".toList ++ host ++ ['\r', '\n'])
    | .error e => .error (.unwritable e)

/-- The head of a request as text. -/
def preludeText (hop : Hop) (method : Text) : Except Failure Text := do
  let host ← hop.hostLine
  .ok (hop.requestLine method ++ host ++ hop.headers.flatMap Header.line ++ ['\r', '\n'])

/-- The head of a request. -/
def prelude (hop : Hop) (method : Text) : Except Failure Bytes := do
  let text ← hop.preludeText method
  match Narrow.latin1.write text with
  | .ok b => .ok b
  | .error e => .error (.unwritable e)

end Hop

end Courier
