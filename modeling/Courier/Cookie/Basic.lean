/-
  Cookies.
-/
import Courier.Text.Percent
import Courier.Text.Case

namespace Courier

/-- A switch of a cookie: absent, present, or written with a value. -/
inductive Switch
  | off
  | on
  | value (s : Text)
  deriving DecidableEq, Repr

/-- Whether a switch counts as set: an empty value does not. -/
def Switch.isSet : Switch → Bool
  | .off => false
  | .on => true
  | .value s => !s.isEmpty

/-- A cookie. -/
structure Cookie where
  name : Text
  value : Option Text
  domain : Text
  domainSpecified : Bool
  domainInitialDot : Bool
  path : Text
  pathSpecified : Bool
  secure : Switch := .off
  expires : Option Int := none
  discard : Switch := .on
  version : Int := 0
  port : Option Text := none
  portSpecified : Bool := false
  comment : Option Text := none
  commentUrl : Option Text := none
  /-- Whether the cookie gave its version as one. -/
  versioned : Bool := false
  /-- The unknown attributes. -/
  rest : List (Text × Option Text) := []
  deriving DecidableEq, Repr

namespace Cookie

/-- A cookie as a caller sets it. -/
def ofCaller (name : Text) (value : Option Text) (domain path : Text) : Cookie :=
  { name, value
    domain := lower domain
    domainSpecified := !domain.isEmpty
    domainInitialDot := domain.head? == some '.'
    path
    pathSpecified := !path.isEmpty
    rest := [("HttpOnly".toList, none)] }

/-- What identifies a stored cookie. -/
structure Key where
  domain : Text
  path : Text
  name : Text
  deriving DecidableEq, Repr

/-- The key of a cookie. -/
def key (c : Cookie) : Key := ⟨c.domain, c.path, c.name⟩

/-- Marks that a cookie keeps in a request. -/
def keptMarks : Text := "!$&()*+,".toList ++ [Char.ofNat 39]

/-- Name and value in a request. -/
def pairText (c : Cookie) : Text :=
  percentEncode (safeWith keptMarks) c.name ++ '=' ::
    percentEncode (safeWith keptMarks) (c.value.getD [])

/-- The domain without its leading dots. -/
def bareDomain (c : Cookie) : Text := trimLeft (· == '.') c.domain

/-- Whether a cookie goes with a request: its domain occurs in the host name, its path, if it gave one,
    begins the path, and a secure one wants a secure request. -/
def goesWith (c : Cookie) (hostname path : Text) (secure : Bool) : Bool :=
  !c.bareDomain.isEmpty && hasInfix c.bareDomain hostname &&
    (!c.pathSpecified || c.path.isPrefixOf path) && (!c.secure.isSet || secure)

end Cookie

end Courier
