/-
  URLs in their canonical form, and the texts that are read off them.

  Every component is kept as it is written on the wire: percent-encoded, the scheme in lower case, a
  host name in its ASCII form, an address without its brackets, a port only when it is not the default
  of the scheme.  A query or a fragment that is present and empty differs from an absent one.
-/
import Courier.Idna.Label
import Courier.Text.Narrow

namespace Courier

/-- A URL in canonical form. -/
structure Url where
  scheme : Text := []
  userinfo : Text := []
  rawHost : Text := []
  port : Option Int := none
  path : Text := []
  query : Option Text := none
  fragment : Option Text := none
  deriving DecidableEq, Repr

namespace Url

/-- The host as it stands in an authority: an address of version six between brackets. -/
def bracketedHost (u : Url) : Text :=
  if u.rawHost.contains ':' then '[' :: u.rawHost ++ [']'] else u.rawHost

/-- The port as it stands in an authority. -/
def portText (u : Url) : Text :=
  match u.port with
  | none => []
  | some n => ':' :: decimalInt n

/-- Host and port. -/
def hostAndPort (u : Url) : Text := u.bracketedHost ++ u.portText

/-- User information, host and port. -/
def authority (u : Url) : Text :=
  (if u.userinfo.isEmpty then [] else u.userinfo ++ ['@']) ++ u.hostAndPort

/-- The whole URL as text. -/
def text (u : Url) : Text :=
  (if u.scheme.isEmpty then [] else u.scheme ++ [':']) ++
    (if u.authority.isEmpty then [] else '/' :: '/' :: u.authority) ++
    u.path ++
    (match u.query with | none => [] | some q => '?' :: q) ++
    (match u.fragment with | none => [] | some f => '#' :: f)

/-- Whether the URL has a scheme and a host. -/
def isAbsolute (u : Url) : Bool := !u.scheme.isEmpty && !u.rawHost.isEmpty

/-- Whether the scheme asks for a secured connection. -/
def isSecure (u : Url) : Bool := u.scheme == "https".toList

/-- The path, a slash when it is empty. -/
def rootedPath (u : Url) : Text := if u.path.isEmpty then ['/'] else u.path

/-- The request target: the path, and the query when there is one. -/
def target (u : Url) : Text :=
  u.rootedPath ++ (match u.query with | none => [] | some q => '?' :: q)

/-- The path of a request: the target up to the query. -/
def requestPath (u : Url) : Text := beforeMark '?' u.target

/-- The query without its mark, empty when there is none. -/
def queryText (u : Url) : Text := u.query.getD []

/-- The host for the eye: an ASCII form of an international name is decoded. -/
def host (u : Url) : Except Idna.Error Text :=
  if Idna.asciiMark.isPrefixOf u.rawHost then do
    let points ← Idna.decode u.rawHost
    .ok (points.map Char.ofNat)
  else .ok u.rawHost

/-- The value of a host header: host and port, which must be ASCII. -/
def hostHeader (u : Url) : Except Unwritable Text := do
  let _ ← Narrow.ascii.write u.hostAndPort
  .ok u.hostAndPort

end Url

end Courier
