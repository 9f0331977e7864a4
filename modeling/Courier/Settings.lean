/-
  Settings of an agent, and how they are read from the environment.

  Every variable has its own field; a text that is no number leaves its field at the default, and so does a
  limit below its least value.  A timeout that is not positive means no timeout.
-/
import Courier.Stream.Basic
import Courier.Number.Integer
import Courier.Text.Case

namespace Courier

/-- Settings of an agent. -/
structure Settings where
  connectTimeout : Option Binary64 := some (Binary64.ofInt 10)
  readTimeout : Option Binary64 := some (Binary64.ofInt 30)
  writeTimeout : Option Binary64 := some (Binary64.ofInt 30)
  maxRedirects : Int := 5
  userAgent : Text := "hopwire/0.1.0".toList
  verify : Bool := true
  maxBodyBytes : Int := 16777216
  logLevel : Option Text := none
  deriving DecidableEq, Repr

/-- The values of the variables of an environment. -/
abbrev Environment := Text → Option Text

namespace Settings

/-- The name of a variable. -/
def variableName (name : String) : Text := "HOPWIRE_".toList ++ name.toList

/-- The level of logging that an environment names. -/
def levelOf (env : Environment) : Option Text := env (variableName "LOG_LEVEL")

/-- A whole number that is at least `least`, else the default. -/
def limitOf (least default : Int) (value : Option Text) : Int :=
  match value.bind readInteger? with
  | some n => if least ≤ n then n else default
  | none => default

/-- A timeout: a positive number, or none for any other number. -/
def timeoutOf (default : Option Binary64) (value : Option Text) : Option Binary64 :=
  match value.bind Binary64.read? with
  | some x => if x.isPositive then some x else none
  | none => default

/-- The words that turn a switch on. -/
def onWords : List String := ["1", "true", "yes", "on"]

/-- A switch: on for one of four words, off for any other. -/
def switchOf (default : Bool) (value : Option Text) : Bool :=
  match value with
  | none => default
  | some s => onWords.any fun w => w.toList == lower (trimBlank s)

/-- A text that is not empty. -/
def textOf (value : Option Text) : Option Text := value.filter fun s => !s.isEmpty

/-- The settings of an environment. -/
def ofEnvironment (env : Environment) : Settings :=
  let d : Settings := {}
  { connectTimeout := timeoutOf d.connectTimeout (env (variableName "CONNECT_TIMEOUT"))
    readTimeout := timeoutOf d.readTimeout (env (variableName "READ_TIMEOUT"))
    writeTimeout := timeoutOf d.writeTimeout (env (variableName "WRITE_TIMEOUT"))
    maxRedirects := limitOf 0 d.maxRedirects (env (variableName "MAX_REDIRECTS"))
    userAgent := (env (variableName "USER_AGENT")).getD d.userAgent
    verify := switchOf d.verify (env (variableName "VERIFY_SSL"))
    maxBodyBytes := limitOf 1 d.maxBodyBytes (env (variableName "MAX_BODY_BYTES"))
    logLevel := textOf (levelOf env) }

/-- The timeouts of every hop. -/
def timeouts (s : Settings) : Timeouts :=
  { connect := s.connectTimeout, read := s.readTimeout, write := s.writeTimeout }

end Settings

end Courier
