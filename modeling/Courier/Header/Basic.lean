/-
  Header fields: a name, a value, and the line that carries them.

  A name is a token and a value is printable Latin-1 with tabs; one line feed at the very end of either
  is let through.  A line is cut at its first colon, and the value loses the spaces and tabs around it.
-/
import Courier.Text.Quoted
import Courier.Text.Case

namespace Courier

/-- A header field. -/
structure Header where
  name : Text
  value : Text
  deriving DecidableEq, Repr

/-- Why a header field is refused. -/
inductive HeaderError
  | noColon (line : Text)
  | badName (name : Text)
  | badValue (name value : Text)
  deriving DecidableEq, Repr

/-- The message of a refusal. -/
def HeaderError.message : HeaderError → Text
  | .noColon line => "Header line has no colon: ".toList ++ quoted line
  | .badName name => "Invalid header name: ".toList ++ quoted name
  | .badValue name value =>
    "Invalid header value for ".toList ++ name ++ ": ".toList ++ quoted value

namespace Header

/-! ## Alphabets -/

/-- The marks that a token may hold besides letters and digits. -/
def tokenMarks : Text := "!#$%&*+-.^_|~".toList ++ [39, 96].map Char.ofNat

/-- A character of a token. -/
def isTokenChar (c : Char) : Bool := c.isAlphanum || tokenMarks.contains c

/-- A token: one or more token characters. -/
def isToken (s : Text) : Bool := !s.isEmpty && s.all isTokenChar

/-- A character of a value: tab, printable ASCII, and the upper half of Latin-1. -/
def isValueChar (c : Char) : Bool :=
  c == '\t' || (32 ≤ c.toNat && c.toNat ≤ 126) || (128 ≤ c.toNat && c.toNat ≤ 255)

/-- The text without one line feed at its end. -/
def dropLineFeed (s : Text) : Text := if s.getLast? = some '\n' then s.dropLast else s

/-- A name that a field may have. -/
def isName (s : Text) : Bool := isToken (dropLineFeed s)

/-- A value that a field may have. -/
def isValue (s : Text) : Bool := (dropLineFeed s).all isValueChar

/-- Spaces and tabs, which stand around a value on its line. -/
def isPadding (c : Char) : Bool := c == ' ' || c == '\t'

/-! ## Reading and writing -/

/-- A field from its name and its value. -/
def ofPair (name value : Text) : Except HeaderError Header :=
  if !isName name then .error (.badName name)
  else if !isValue value then .error (.badValue name value)
  else .ok { name, value }

/-- The line without its line end. -/
def dropLineEnd (line : Text) : Text :=
  if ['\r', '\n'].isSuffixOf line then line.dropLast.dropLast else line

/-- Reads the line of a field. -/
def parse (line : Text) : Except HeaderError Header :=
  match cut ':' (dropLineEnd line) with
  | (_, none) => .error (.noColon line)
  | (name, some value) => ofPair name (trim isPadding value)

/-- The field as a line, without a line end. -/
def text (h : Header) : Text := h.name ++ ':' :: ' ' :: h.value

/-- The field as a line of a head. -/
def line (h : Header) : Text := h.text ++ ['\r', '\n']

/-- Whether a field has a name, whatever the case. -/
def hasName (h : Header) (name : Text) : Bool := lower h.name == lower name

end Header

end Courier
