/-
  Reading a URL text.

  A text is cut at its delimiters, and then every part is checked and brought to canonical form: the
  host by its kind (address, name in ASCII, international name), the port as a number, the path without
  dot segments, and every part percent-encoded with its own set of safe characters.  Escapes that are
  already there stay as they are.
-/
import Courier.Url.Basic
import Courier.Url.Split
import Courier.Number.Integer
import Courier.Text.Percent
import Courier.Text.Case

namespace Courier

namespace Url

/-- The most characters that a URL, or one of its components, may have. -/
def maxLength : Nat := 65536

/-- What is wrong with a URL text. -/
inductive Defect
  | tooLong
  | unprintable (c : Char) (position : Nat)
  | port (text : Text)
  | address4 (host : Text)
  | address6 (host : Text)
  | name (host : Text)
  | rootlessPath
  | doubleSlash
  | leadingColon
  | componentTooLong (component : Text)
  deriving DecidableEq, Repr

/-- The message of a defect. -/
def Defect.message : Defect → Text
  | .tooLong => "URL too long".toList
  | .unprintable c position =>
    "Invalid non-printable ASCII character in URL, ".toList ++ quoted [c] ++
      " at position ".toList ++ decimal position ++ ['.']
  | .port text => "Invalid port: ".toList ++ quoted text
  | .address4 host => "Invalid IPv4 address: ".toList ++ quoted host
  | .address6 host => "Invalid IPv6 address: ".toList ++ quoted host
  | .name host => "Invalid IDNA hostname: ".toList ++ quoted host
  | .rootlessPath =>
    "For absolute URLs, path must be empty or begin with ".toList ++ quoted ['/']
  | .doubleSlash =>
    "Relative URLs cannot have a path starting with ".toList ++ quoted ['/', '/']
  | .leadingColon => "Relative URLs cannot have a path starting with ".toList ++ quoted [':']
  | .componentTooLong component =>
    "URL component ".toList ++ quoted component ++ " too long".toList

/-! ## Safe characters -/

/-- Printable ASCII without the given characters. -/
def printableExcept (marks : Text) (c : Char) : Bool :=
  32 < c.toNat && c.toNat < 127 && !marks.contains c

/-- Marks that are escaped in a query. -/
def queryMarks : Text := [34, 35, 60, 62].map Char.ofNat

/-- Marks that are escaped in a path. -/
def pathMarks : Text := queryMarks ++ [63, 96, 123, 125].map Char.ofNat

/-- Marks that are escaped in user information. -/
def userinfoMarks : Text := pathMarks ++ [47, 59, 61, 64, 91, 92, 93, 94, 124].map Char.ofNat

/-- Marks that are escaped in a fragment. -/
def fragmentMarks : Text := [34, 60, 62, 96].map Char.ofNat

/-- Marks that stay in a host name. -/
def hostMarks : Text :=
  "!$&()*+,;=".toList ++ [39, 34, 96, 123, 125, 37, 124, 92].map Char.ofNat

/-! ## Parts -/

/-- A text cut by the grammar of URLs: what is absent and what is empty differ. -/
structure Cuts where
  scheme : Text
  authority : Text
  path : Text
  query : Option Text
  fragment : Option Text

/-- Cuts a URL text at its delimiters. -/
def cutText (s : Text) : Cuts :=
  let (scheme, s) := match cut ':' s with
    | (name, some rest) =>
      if name.isEmpty || (name.head?.any Char.isAlpha && name.all isSchemeChar) then (name, rest)
      else ([], s)
    | (_, none) => ([], s)
  let (authority, s) := match s with
    | '/' :: '/' :: r => (r.takeWhile fun c => !endsAuthority c, r.dropWhile fun c => !endsAuthority c)
    | s => ([], s)
  let (s, fragment) := cut '#' s
  let (path, query) := cut '?' s
  { scheme, authority, path, query, fragment }

/-- User information, host and port text of an authority. -/
def cutAuthority (authority : Text) : Text × Text × Text :=
  let (userinfo, rest) := match cutLast '@' authority with
    | (some u, r) => (u, r)
    | (none, r) => ([], r)
  let (host, rest) := match rest.head?, cutLast ']' rest with
    | some '[', (some inside, after) => (inside ++ [']'], after)
    | _, _ => (rest.takeWhile fun c => c != ':' && c != '@', rest.dropWhile fun c => c != ':' && c != '@')
  (userinfo, host, match rest with | ':' :: port => port | port => port)

/-- The canonical form of a host. -/
def readHost (host : Text) : Except Defect Text :=
  if host.isEmpty then .ok []
  else if looksNumeric host then
    if isAddress4 host then .ok host else .error (.address4 host)
  else if host.head? = some '[' ∧ host.getLast? = some ']' ∧ 2 ≤ host.length then
    let inside := host.tail.dropLast
    if isAddress6 inside then .ok inside else .error (.address6 host)
  else if host.all isAscii then .ok (percentEncode (safeWith hostMarks) (lower host))
  else match Idna.encode (lower host) with
    | .ok name => .ok name
    | .error _ => .error (.name host)

/-- The default port of a scheme, written in lower case. -/
def defaultPort? (scheme : Text) : Option Int :=
  [("ftp", 21), ("http", 80), ("https", 443), ("ws", 80), ("wss", 443)].findSome? fun (name, port) =>
    if name.toList = scheme then some port else none

/-- The port that a port text names, nothing for the default of the scheme. -/
def readPort (scheme text : Text) : Except Defect (Option Int) :=
  if text.isEmpty then .ok none
  else match readInteger? text with
    | none => .error (.port text)
    | some n => .ok (if defaultPort? scheme = some n then none else some n)

/-- Drops single-dot segments, and double-dot ones with the segment before; the result is in reverse. -/
def foldSegments (done : List Text) : List Text → List Text
  | [] => done
  | s :: rest =>
    if s = ['.'] then foldSegments done rest
    else if s = ['.', '.'] then foldSegments (if done.isEmpty || done == [[]] then done else done.tail) rest
    else foldSegments (s :: done) rest

/-- A path without dot segments. -/
def foldPath (path : Text) : Text :=
  if path.contains '.' then
    ['/'].intercalate (foldSegments [] (path.splitOn '/')).reverse
  else path

/-- Checks that a path can stand after what is before it. -/
def checkPath (hasScheme hasAuthority : Bool) (path : Text) : Except Defect Unit :=
  if hasAuthority then
    if path.isEmpty || path.head? == some '/' then .ok () else .error .rootlessPath
  else if hasScheme then .ok ()
  else if ['/', '/'].isPrefixOf path then .error .doubleSlash
  else if path.head? = some ':' then .error .leadingColon
  else .ok ()

/-- Brings parts to canonical form. -/
def ofCuts (cuts : Cuts) : Except Defect Url := do
  let (userinfo, host, port) := cutAuthority cuts.authority
  let scheme := lower cuts.scheme
  let userinfo := percentEncode (printableExcept userinfoMarks) userinfo
  let rawHost ← readHost host
  let port ← readPort cuts.scheme port
  let hasScheme := !scheme.isEmpty
  let hasAuthority := !userinfo.isEmpty || !rawHost.isEmpty || port.isSome
  checkPath hasScheme hasAuthority cuts.path
  let path := if hasScheme || hasAuthority then foldPath cuts.path else cuts.path
  .ok {
    scheme, userinfo, rawHost, port
    path := percentEncode (printableExcept pathMarks) path
    query := cuts.query.map (percentEncode (printableExcept queryMarks))
    fragment := cuts.fragment.map (percentEncode (printableExcept fragmentMarks)) }

/-- An ASCII character that is not printable. -/
def isUnprintableAscii (c : Char) : Bool := c.toNat < 32 || c.toNat == 127

/-- Reads a URL text. -/
def read (s : Text) : Except Defect Url :=
  if maxLength < s.length then .error .tooLong
  else match s.dropWhile fun c => !isUnprintableAscii c with
    | c :: _ => .error (.unprintable c (s.takeWhile fun c => !isUnprintableAscii c).length)
    | [] => ofCuts (cutText s)

/-- The URL with another scheme, read anew from its components. -/
def withScheme (u : Url) (scheme : Text) : Except Defect Url :=
  let tooLong := [("authority", u.authority), ("path", u.path), ("query", u.query.getD []),
    ("fragment", u.fragment.getD [])].find? fun (_, value) => maxLength < value.length
  match tooLong with
  | some (name, _) => .error (.componentTooLong name.toList)
  | none =>
    ofCuts { scheme, authority := u.authority, path := u.path, query := u.query,
             fragment := u.fragment }

/-! ## References -/

/-- Why a URL could not be had. -/
inductive Error
  | unreadable (text : Text) (defect : Defect)
  | unresolvable (location : Text)
  deriving DecidableEq, Repr

/-- The message of an error. -/
def Error.message : Error → Text
  | .unreadable text defect => "Bad URL: ".toList ++ text ++ ": ".toList ++ defect.message
  | .unresolvable location => "Bad redirection: ".toList ++ location

/-- Reads the URL of a request. -/
def parse (s : Text) : Except Error Url :=
  match read s with
  | .ok u => .ok u
  | .error defect => .error (.unreadable s defect)

/-- The URL that a reference means against a base, nothing when any step fails. -/
def resolve? (base : Url) (location : Text) : Option Url := do
  let target ← (read location).toOption
  let joined ← (resolveText base.text target.text).toOption
  (read joined).toOption

/-- Resolves the location of a redirect.  Schemes that the rules of references do not know borrow those
    of `http` for the time of the resolution. -/
def join (base : Url) (location : Text) : Except Error Url :=
  let result : Option Url :=
    if isOneOf relativeSchemes base.scheme then base.resolve? location
    else do
      let target ← (read location).toOption
      if target.isAbsolute then some target
      else
        let borrowed ← (base.withScheme "http".toList).toOption
        let joined ← borrowed.resolve? location
        (joined.withScheme base.scheme).toOption
  match result with
  | some u => .ok u
  | none => .error (.unresolvable location)

end Url

end Courier
