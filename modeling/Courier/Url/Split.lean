/-
  Cutting a URL text into its five parts by its delimiters alone, and putting parts together.

  This is the lenient grammar that references are resolved in: nothing is decoded or checked, except
  that brackets must match, stand around the whole host and hold a version six address, and that a host
  outside ASCII must not hold characters that stand for delimiters in compatibility form.
-/
import Courier.Url.Address
import Courier.Text.Quoted
import Courier.Text.Ranges

namespace Courier.Url

/-- The five parts of a URL text; absent and empty are the same. -/
structure Parts where
  scheme : Text
  authority : Text
  path : Text
  query : Text
  fragment : Text
  deriving DecidableEq, Repr

/-- Why a text cannot be cut. -/
inductive SplitError
  | badBrackets
  | futureAddress
  | noAddress (host : Text)
  | bracketedAddress4
  | compatibility (authority : Text)
  deriving DecidableEq, Repr

/-- The message of a failed cut. -/
def SplitError.message : SplitError → Text
  | .badBrackets => "Invalid IPv6 URL".toList
  | .futureAddress => "IPvFuture address is invalid".toList
  | .noAddress host => quoted host ++ " does not appear to be an IPv4 or IPv6 address".toList
  | .bracketedAddress4 => "An IPv4 address cannot be in brackets".toList
  | .compatibility authority =>
    "netloc ".toList ++ Char.ofNat 39 :: authority ++ Char.ofNat 39 ::
      " contains invalid characters under NFKC normalization".toList

/-! ## Schemes -/

/-- A character of a scheme. -/
def isSchemeChar (c : Char) : Bool := c.isAlphanum || c == '+' || c == '-' || c == '.'

/-- Schemes whose references are resolved against a base. -/
def relativeSchemes : List String :=
  ["", "ftp", "http", "gopher", "nntp", "imap", "wais", "file", "https", "shttp", "mms", "prospero",
   "rtsp", "rtspu", "sftp", "svn", "svn+ssh", "ws", "wss"]

/-- Schemes whose URLs have an authority. -/
def authoritySchemes : List String :=
  ["", "ftp", "http", "gopher", "nntp", "telnet", "imap", "wais", "file", "mms", "https", "shttp",
   "snews", "prospero", "rtsp", "rtspu", "rsync", "svn", "svn+ssh", "sftp", "nfs", "git",
   "git+ssh", "ws", "wss"]

/-- Schemes whose last path segment has parameters after a semicolon. -/
def parameterSchemes : List String :=
  ["", "ftp", "hdl", "prospero", "http", "imap", "https", "shttp", "rtsp", "rtspu", "sip",
   "sips", "mms", "sftp", "tel"]

/-- Whether a scheme is one of a list. -/
def isOneOf (names : List String) (scheme : Text) : Bool := names.any fun n => n.toList == scheme

/-- The scheme and the rest; without a scheme the given one stands. -/
def splitScheme (given : Text) (s : Text) : Text × Text :=
  match cut ':' s with
  | (name, some rest) =>
    if name.head?.any Char.isAlpha && name.all isSchemeChar then (name.map Char.toLower, rest)
    else (given, s)
  | (_, none) => (given, s)

/-! ## Authorities -/

/-- Characters that stand for a delimiter in compatibility form. -/
def compatibilityDelimiters : Rows := Rows.read
  "2047,2049 2100,2101 2105,2106 2a74 fe13 fe16 fe55,fe56 fe5f fe6b ff03 ff0f ff1a ff1f,ff20"

/-- A host literal of a version to come: a letter, hexadecimal digits, a dot, and more. -/
def isFutureAddress (s : Text) : Bool :=
  match cut '.' (s.drop 1) with
  | (version, some rest) => !version.isEmpty && version.all isHexDigit && !rest.isEmpty
  | (_, none) => false

/-- Checks the text between brackets. -/
def checkBracketed (host : Text) : Except SplitError Unit :=
  if host.head? = some 'v' then
    if isFutureAddress host then .ok () else .error .futureAddress
  else if isAddress4 host then .error .bracketedAddress4
  else if isAddress6 host then .ok ()
  else .error (.noAddress host)

/-- The host that the brackets of an authority must hold: nothing may stand between the user information
    and the opening bracket, and only a port after the closing one.  When the user information alone has
    brackets, it is the host without its port. -/
def hostInBrackets (authority : Text) : Except SplitError Text :=
  match cut '[' (cutLast '@' authority).2 with
  | (host, none) => .ok (beforeMark ':' host)
  | (before, some bracketed) =>
    let (host, after) := cut ']' bracketed
    let isPort := (after.getD []).head?.all (· == ':')
    if before.isEmpty && isPort then .ok host else .error .badBrackets

/-- Checks the brackets of an authority. -/
def checkBrackets (authority : Text) : Except SplitError Unit :=
  match authority.contains '[', authority.contains ']' with
  | false, false => .ok ()
  | true, true =>
    match hostInBrackets authority with
    | .error e => .error e
    | .ok host => checkBracketed host
  | _, _ => .error .badBrackets

/-- Checks an authority for characters in compatibility form. -/
def checkCompatibility (authority : Text) : Except SplitError Unit :=
  if authority.all isAscii then .ok ()
  else if authority.any fun c => compatibilityDelimiters.contains c.toNat then
    .error (.compatibility authority)
  else .ok ()

/-! ## Cutting and putting together -/

/-- Whether a character ends an authority. -/
def endsAuthority (c : Char) : Bool := c == '/' || c == '?' || c == '#'

/-- Control characters and the space, dropped in front of a URL. -/
def isControlOrSpace (c : Char) : Bool := c.toNat ≤ 32

/-- Tab and line ends, dropped everywhere in a URL. -/
def isLineControl (c : Char) : Bool := c == '\t' || c == '\n' || c == '\r'

/-- The text without what a URL text may carry but does not mean. -/
def cleanText (s : Text) : Text := (s.dropWhile isControlOrSpace).filter fun c => !isLineControl c

/-- Cuts a URL text; `given` is the scheme of a text without one. -/
def split (given : Text) (s : Text) : Except SplitError Parts := do
  let (scheme, rest) := splitScheme given (cleanText s)
  let (authority, rest) := match rest with
    | '/' :: '/' :: r => (r.takeWhile fun c => !endsAuthority c, r.dropWhile fun c => !endsAuthority c)
    | r => ([], r)
  checkBrackets authority
  let (rest, fragment) := cut '#' rest
  let (path, query) := cut '?' rest
  checkCompatibility authority
  .ok { scheme, authority, path, query := query.getD [], fragment := fragment.getD [] }

/-- Puts parts together.  An authority is written when there is one; an empty one is written when the
    scheme wants it, but not in front of a path that begins with two slashes, which then reads as one. -/
def Parts.text (p : Parts) : Text :=
  let needsAuthority := !p.authority.isEmpty ||
    (!p.scheme.isEmpty && isOneOf authoritySchemes p.scheme && !(List.isPrefixOf ['/', '/'] p.path))
  let path :=
    if needsAuthority then
      let rooted := if p.path.isEmpty || p.path.head? == some '/' then p.path else '/' :: p.path
      '/' :: '/' :: p.authority ++ rooted
    else p.path
  (if p.scheme.isEmpty then [] else p.scheme ++ [':']) ++ path ++
    (if p.query.isEmpty then [] else '?' :: p.query) ++
    (if p.fragment.isEmpty then [] else '#' :: p.fragment)

/-! ## Resolving a reference -/

/-- The path and the parameters after the semicolon of its last segment, where the scheme has them. -/
def splitParameters (scheme path : Text) : Text × Text :=
  if isOneOf parameterSchemes scheme then
    match cutLast '/' path with
    | (folder, last) =>
      match cut ';' last with
      | (_, none) => (path, [])
      | (name, some parameters) =>
        ((match folder with | some f => f ++ '/' :: name | none => name), parameters)
  else (path, [])

/-- Drops dot segments and steps back over the segment before a double dot; the result is in reverse. -/
def walkSegments (done : List Text) : List Text → List Text
  | [] => done
  | s :: rest =>
    if s = ['.', '.'] then walkSegments done.tail rest
    else if s = ['.'] then walkSegments done rest
    else walkSegments (s :: done) rest

/-- The path that a relative path leads to from a base path. -/
def mergePaths (base path : Text) : Text :=
  let folders := base.splitOn '/'
  let folders := if folders.getLast? == some [] then folders else folders.dropLast
  let own := path.splitOn '/'
  let segments :=
    if path.head? = some '/' then own
    else
      let all := folders ++ own
      all.take 1 ++ (all.tail.dropLast.filter fun s => !s.isEmpty) ++ all.tail.getLast?.toList
  let walked := walkSegments [] segments
  let last := segments.getLastD []
  let walked := if last = ['.'] ∨ last = ['.', '.'] then [] :: walked else walked
  let merged := ['/'].intercalate walked.reverse
  if merged.isEmpty then ['/'] else merged

/-- A path with its parameters. -/
def withParameters (path parameters : Text) : Text :=
  if parameters.isEmpty then path else path ++ ';' :: parameters

/-- The text that a reference means when it is read against a base. -/
def resolveText (base reference : Text) : Except SplitError Text :=
  if base.isEmpty then .ok reference
  else if reference.isEmpty then .ok base
  else do
    let b ← split [] base
    let r ← split b.scheme reference
    if r.scheme != b.scheme || !isOneOf relativeSchemes r.scheme then .ok reference
    else if isOneOf authoritySchemes r.scheme && !r.authority.isEmpty then
      let (path, parameters) := splitParameters r.scheme r.path
      .ok ({ r with path := withParameters path parameters }).text
    else
      let authority := if isOneOf authoritySchemes r.scheme then b.authority else r.authority
      let (path, parameters) := splitParameters r.scheme r.path
      let (basePath, baseParameters) := splitParameters b.scheme b.path
      if path.isEmpty && parameters.isEmpty then
        let query := if r.query.isEmpty then b.query else r.query
        .ok ({ r with authority, path := withParameters basePath baseParameters, query }).text
      else
        .ok ({ r with authority, path := withParameters (mergePaths basePath path) parameters }).text

end Courier.Url
