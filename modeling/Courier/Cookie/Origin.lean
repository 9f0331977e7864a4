/-
  Where a cookie comes from: the host, the path and the port of the response's URL.

  The URL may be any text with a scheme.  The host is in lower case and without a port, and a bare name
  gets the ending of local hosts where a cookie needs a domain.
-/
import Courier.Url.Split
import Courier.Text.Percent
import Courier.Text.Case
import Courier.Number.Integer

namespace Courier

/-- Why a text is no origin. -/
inductive OriginError
  | noScheme (url : Text)
  | unsplittable (e : Url.SplitError)
  deriving DecidableEq, Repr

/-- The message of an error. -/
def OriginError.message : OriginError → Text
  | .noScheme url => "unknown url type: ".toList ++ quoted url
  | .unsplittable e => e.message

/-- The origin of a cookie. -/
structure Origin where
  /-- The host in lower case without its port. -/
  host : Text
  /-- The path of the URL as it is written. -/
  rawPath : Text
  /-- Host and port of a URL with an authority. -/
  endpoint : Option Text
  deriving DecidableEq, Repr

namespace Origin

/-- The URL without angle brackets and without a URL mark around it. -/
def unwrap (s : Text) : Text :=
  let s := trimBlank s
  let s := if s.head? = some '<' ∧ s.getLast? = some '>' then trimBlank (s.drop 1).dropLast else s
  if "URL:".toList.isPrefixOf s then trimBlank (s.drop 4) else s

/-- The text without a colon and digits at its end. -/
def dropPort (s : Text) : Text :=
  match cutLast ':' s with
  | (some host, port) => if !port.isEmpty && port.all Char.isDigit then host else s
  | (none, _) => s

/-- Reads an origin from a URL text. -/
def read (url : Text) : Except OriginError Origin :=
  let unwrapped := unwrap url
  let (main, fragment) := match cutLast '#' unwrapped with
    | (some before, after) => (before, after)
    | (none, whole) => (whole, [])
  let full := if fragment.isEmpty then main else main ++ '#' :: fragment
  let scheme := main.takeWhile fun c => c != '/' && c != ':'
  match main.drop scheme.length with
  | ':' :: rest =>
    if scheme.isEmpty then .error (.noScheme full)
    else match Url.split [] full with
      | .error e => .error (.unsplittable e)
      | .ok parts =>
        let endpoint := match rest with
          | '/' :: '/' :: r => some (percentDecode (r.takeWhile fun c => !Url.endsAuthority c))
          | _ => none
        .ok { host := lower (dropPort parts.authority), rawPath := parts.path, endpoint }
  | _ => .error (.noScheme full)

/-- The host as a domain: a bare name is a local host. -/
def domain (o : Origin) : Text :=
  if !o.host.contains '.' then o.host ++ ".local".toList else o.host

/-- Marks that stay in an escaped path. -/
def pathMarks : Text := "%/;:@&=+$,!~*()".toList ++ [Char.ofNat 39]

/-- Writes the digits of escapes in upper case. -/
def upperEscapes (done : Text) : Text → Text
  | '%' :: a :: b :: rest =>
    if isHexDigit a && isHexDigit b then
      upperEscapes (b.toUpper :: a.toUpper :: '%' :: done) rest
    else upperEscapes ('%' :: done) (a :: b :: rest)
  | c :: rest => upperEscapes (c :: done) rest
  | [] => done.reverse

/-- A path with what is invalid in it escaped, and all escapes in upper case. -/
def escapePath (path : Text) : Text := upperEscapes [] (percentEncode (safeWith pathMarks) path)

/-- The escaped path, which begins with a slash. -/
def path (o : Origin) : Text :=
  let path := escapePath o.rawPath
  if path.head? = some '/' then path else '/' :: path

/-- The path that a cookie without one gets: up to the last slash, which counts for later versions. -/
def defaultPath (o : Origin) (version : Int) : Text :=
  let folder := (cutLast '/' o.path).1.getD o.path
  let folder := if version = 0 then folder else folder ++ ['/']
  if folder.isEmpty then ['/'] else folder

/-- The port as text: the one written, or the common one; nothing for one that is no number. -/
def port? (endpoint : Text) : Option Text :=
  match cut ':' endpoint with
  | (_, none) => some "80".toList
  | (_, some port) => if (readInteger? port).isSome then some port else none

end Origin

end Courier
