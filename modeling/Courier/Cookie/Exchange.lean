/-
  Cookies between a jar and the messages of a connection: the Cookie fields of a request, and the
  Set-Cookie values of a response.

  A value without a domain gets the host name as its domain.  Values that hold no cookie are skipped and
  do not disturb the others.  Whether a cookie is expired is a matter of the moment at which its value is read, so
  the clock is read once for every value (`Clock`); that it goes forward is assumed nowhere.
-/
import Courier.Cookie.Jar
import Courier.Cookie.SetCookie
import Courier.Header.Basic
import Courier.Log

namespace Courier

/-- The Cookie fields of a request; a cookie that makes no field is left out. -/
def Jar.fieldsFor (jar : Jar) (hostname path : Text) (secure : Bool) : List Header :=
  (jar.select hostname path secure).filterMap fun c =>
    (Header.parse ("Cookie: ".toList ++ c.pairText)).toOption

/-- Whether a value gives a domain, or holds the text of one. -/
def mentionsDomain (raw : Text) : Bool := hasInfix "domain=".toList (lower raw)

/-- A value with a domain: the host name if it has none. -/
def withDomain (hostname raw : Text) : Text :=
  if mentionsDomain raw then raw else raw ++ "; Domain=".toList ++ hostname

/-- What a clock shows, in seconds: the value at place `i` is read at the moment `clock i`. -/
abbrev Clock := Nat → Int

/-- A clock that stands. -/
def Clock.still (now : Int) : Clock := fun _ => now

/-- The clock for the values after the first. -/
def Clock.later (clock : Clock) : Clock := fun i => clock (i + 1)

/-- A jar while values are taken in: how many were stored, and what happened. -/
structure Intake where
  jar : Jar
  stored : Nat := 0
  log : List Log.Record := []

/-- The intake with one more line in its log. -/
def Intake.note (intake : Intake) (message : Text) : Intake :=
  { intake with log := intake.log ++ [Log.event "http.cookies" message] }

/-- Takes in one value. -/
def Intake.add (now : Int) (hostname url : Text) (intake : Intake) (raw : Text) :
    Except OriginError Unit × Intake :=
  match SetCookie.read now url (withDomain hostname raw) with
  | .error (.origin e) => (.error e, intake)
  | .error e =>
    (.ok (), intake.note
      ("Ignoring unparseable cookie from ".toList ++ hostname ++ ": ".toList ++ e.message))
  | .ok reading =>
    let dropped : Text := "Dropped expired cookie from ".toList ++ hostname ++ ": ".toList ++ quoted raw
    match reading with
    | .cookie c => (.ok (), { intake with jar := intake.jar.insert c, stored := intake.stored + 1 })
    | .expired key => (.ok (), { intake with jar := intake.jar.erase key }.note dropped)
    | .useless => (.ok (), intake.note dropped)

/-- Takes in values in order, up to the first that fails. -/
def Intake.addAll (clock : Clock) (hostname url : Text) (intake : Intake) :
    List Text → Except OriginError Unit × Intake
  | [] => (.ok (), intake)
  | raw :: rest =>
    match intake.add (clock 0) hostname url raw with
    | (.ok (), intake) => addAll clock.later hostname url intake rest
    | (.error e, intake) => (.error e, intake)

/-- The URL of a host whose response came without one. -/
def urlOfHost (hostname : Text) : Text := "http://".toList ++ hostname ++ ['/']

/-- Takes the Set-Cookie values of a response into a jar. -/
def Jar.ingest (jar : Jar) (clock : Clock) (hostname : Text) (url : Option Text) (values : List Text) :
    Except OriginError Unit × Intake :=
  Intake.addAll clock hostname (url.getD (urlOfHost hostname)) { jar } values

end Courier
