/-
  Reading a Set-Cookie value.

  The value is cut at semicolons; the first part is the cookie's name and value, the others are
  attributes.  Of an attribute given twice the first counts, except that the last Max-Age counts, and it
  wins over Expires.  Attributes that are not known are kept as they are.  An attribute that needs a value
  and has none, a Max-Age or a version that is no number, and a spoiled date make the value useless.

  A cookie that is already expired is not made: it names the stored cookie to be removed.
-/
import Courier.Cookie.Basic
import Courier.Cookie.Date
import Courier.Cookie.Origin
import Courier.Number.Binary64

namespace Courier.SetCookie

/-- What a value says about the attributes of its cookie. -/
structure Attributes where
  version : Option Text := none
  expires : Option Int := none
  hasMaxAge : Bool := false
  domain : Option Text := none
  path : Option Text := none
  /-- A port attribute, with or without a value. -/
  port : Option (Option Text) := none
  secure : Option Switch := none
  discard : Option Switch := none
  comment : Option (Option Text) := none
  commentUrl : Option (Option Text) := none
  rest : List (Text × Option Text) := []

/-- One part of a value: a key, and a value if there is an equals sign. -/
def readPart (part : Text) : Text × Option Text :=
  let (key, value) := cut '=' (trimBlank part)
  (trimBlank key, value.map trimBlank)

/-- The text without a double quote at its front and one at its end. -/
def stripQuotes (s : Text) : Text :=
  let s := if s.head? = some (Char.ofNat 34) then s.tail else s
  if s.getLast? = some (Char.ofNat 34) then s.dropLast else s

/-- The value of a switch attribute. -/
def switchOf : Option Text → Switch
  | none => .on
  | some s => .value s

/-- Puts an unknown attribute: in the place of an equal key, or at the end. -/
def putRest (rest : List (Text × Option Text)) (key : Text) (value : Option Text) :
    List (Text × Option Text) :=
  if rest.any fun e => e.1 == key then rest.map fun e => if e.1 == key then (key, value) else e
  else rest ++ [(key, value)]

/-- Takes an Expires attribute. -/
def Attributes.addExpires (a : Attributes) (now : Int) (value : Option Text) : Option Attributes :=
  match value.map fun v => CookieDate.read now (stripQuotes v) with
  | some .spoiled => none
  | some (.instant t) => some (if a.expires.isSome || a.hasMaxAge then a else { a with expires := some t })
  | some .unreadable | none => some a

/-- Takes one attribute; nothing when it makes the value useless. -/
def Attributes.add (a : Attributes) (now : Int) (key : Text) (value : Option Text) :
    Option Attributes :=
  let name := lower key
  if name = "version".toList then
    if a.version.isSome then some a else value.map fun v => { a with version := some (stripQuotes v) }
  else if name = "expires".toList then a.addExpires now value
  else if name = "max-age".toList then do
    let seconds ← readInteger? (← value)
    some { a with expires := some (now + seconds), hasMaxAge := true }
  else if name = "domain".toList then
    if a.domain.isSome then some a else value.map fun v => { a with domain := some (lower v) }
  else if name = "path".toList then
    if a.path.isSome then some a else value.map fun v => { a with path := some v }
  else if name = "port".toList then
    some (if a.port.isSome then a else { a with port := some value })
  else if name = "secure".toList then
    some (if a.secure.isSome then a else { a with secure := some (switchOf value) })
  else if name = "discard".toList then
    some (if a.discard.isSome then a else { a with discard := some (switchOf value) })
  else if name = "comment".toList then
    some (if a.comment.isSome then a else { a with comment := some value })
  else if name = "commenturl".toList then
    some (if a.commentUrl.isSome then a else { a with commentUrl := some value })
  else some { a with rest := putRest a.rest key value }

/-- The attributes of the parts after the first; parts without a key are skipped. -/
def readAttributes (now : Int) (parts : List Text) : Option Attributes :=
  ((parts.map readPart).filter fun p => !p.1.isEmpty).foldlM
    (fun a p => a.add now p.1 p.2) ({} : Attributes)

/-- What a value comes to. -/
inductive Reading
  | cookie (c : Cookie)
  /-- an expired cookie, which removes the stored one -/
  | expired (key : Cookie.Key)
  | useless
  deriving DecidableEq, Repr

/-- The path of a cookie, and whether it was given. -/
def pathOf (a : Attributes) (origin : Origin) (version : Int) : Text × Bool :=
  match a.path with
  | some (c :: p) => (Origin.escapePath (c :: p), true)
  | _ => (origin.defaultPath version, false)

/-- The domain of a cookie: a given one begins with a dot. -/
def domainOf (a : Attributes) (origin : Origin) : Text :=
  match a.domain with
  | none => origin.domain
  | some d => if d.head? = some '.' then d else '.' :: d

/-- The port of a cookie, and whether it was given; nothing when the origin has no port to take. -/
def portOf? (a : Attributes) (origin : Origin) : Option (Option Text × Bool) :=
  match a.port with
  | none => some (none, false)
  | some (some p) => some (some (p.filter fun c => !isBlank c), true)
  | some none => origin.endpoint.map fun e => (Origin.port? e, false)

/-- Makes the cookie. -/
def make (now : Int) (origin : Origin) (name value : Text) (a : Attributes) : Option Reading := do
  let version ← readInteger? (a.version.getD ['0'])
  let (path, pathSpecified) := pathOf a origin version
  let domain := domainOf a origin
  let (port, portSpecified) ← portOf? a origin
  if a.expires.any (· ≤ now) then some (.expired ⟨domain, path, name⟩)
  else
    let expires ← match a.expires with
      | none => some none
      | some t => (Binary64.ofInt t).toInt?.map some
    some (.cookie {
      name := percentDecode name
      value := some (percentDecode value)
      domain := lower domain
      domainSpecified := a.domain.isSome
      domainInitialDot := a.domain.any fun d => d.head? == some '.'
      path, pathSpecified
      secure := a.secure.getD .off
      expires
      discard := if a.expires.isNone then .on else a.discard.getD .off
      version := if version = 1 then 0 else version
      port, portSpecified
      comment := a.comment.getD none
      commentUrl := a.commentUrl.getD none
      versioned := version == 1
      rest := a.rest })

/-- Why a value cannot be read at all. -/
inductive Error
  | noPair (raw : Text)
  | origin (e : OriginError)
  deriving DecidableEq, Repr

/-- The message of an error. -/
def Error.message : Error → Text
  | .noPair raw => "Unparseable cookie: ".toList ++ quoted raw
  | .origin e => e.message

/-- Whether a value begins with a name before an equals sign. -/
def hasPair (raw : Text) : Bool :=
  match cut '=' (beforeMark ';' raw) with
  | (name, some _) => name.any fun c => !isBlank c
  | (_, none) => false

/-- Reads a value that came from a URL. -/
def read (now : Int) (url raw : Text) : Except Error Reading :=
  if !hasPair raw then .error (.noPair raw)
  else match Origin.read url with
    | .error e => .error (.origin e)
    | .ok origin =>
      match raw.splitOn ';' with
      | [] => .ok .useless
      | first :: parts =>
        let (name, value) := readPart first
        let reading? := do make now origin name (value.getD []) (← readAttributes now parts)
        .ok (reading?.getD .useless)

end Courier.SetCookie
