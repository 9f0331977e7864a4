/-
  Logging: levels, records, and which records are written.

  Records are written to one sink: the first set-up attaches the one that it is given, and setting up again only
  changes the level.  A record is written when it belongs to the library's own tree of loggers, has a positive
  level, and its level reaches the one that is set; level zero leaves the decision to the surrounding program,
  which wants warnings.
-/
import Courier.Text.Case
import Courier.Number.Integer

namespace Courier.Log

/-- The names of levels, the preferred name of each level first. -/
def levelNames : List (String × Int) :=
  [("CRITICAL", 50), ("ERROR", 40), ("WARNING", 30), ("INFO", 20), ("DEBUG", 10), ("NOTSET", 0),
   ("FATAL", 50), ("WARN", 30)]

/-- The level of warnings. -/
def warning : Int := 30

/-- The level of the library's own records. -/
def debug : Int := 10

/-- A level as a caller gives it. -/
inductive Given
  | absent
  | number (n : Int)
  | name (s : Text)
  deriving DecidableEq, Repr

/-- The level of a name, warnings for a name that is none. -/
def levelOfName (name : Text) : Int :=
  let name := upper (trimBlank name)
  (levelNames.findSome? fun (n, level) => if n.toList = name then some level else none).getD warning

/-- The level that is meant: the given one, else the one of the environment, else warnings. -/
def resolve (environment : Option Text) : Given → Int
  | .number n => n
  | .name (c :: s) => levelOfName (c :: s)
  | _ =>
    match environment with
    | some (c :: s) => levelOfName (c :: s)
    | _ => warning

/-- The name of a level. -/
def levelName (level : Int) : Text :=
  match levelNames.find? fun e => e.2 == level with
  | some (name, _) => name.toList
  | none => "Level ".toList ++ decimalInt level

/-- Something that happened. -/
structure Record where
  logger : Text
  level : Int
  message : Text
  deriving DecidableEq, Repr

/-- The root of the library's tree of loggers. -/
def root : Text := "hopwire".toList

/-- The logger of a part of the library. -/
def loggerOf (part : String) : Text := root ++ '.' :: part.toList

/-- A record of the library's own. -/
def event (part : String) (message : Text) : Record := ⟨loggerOf part, debug, message⟩

/-- Whether a logger is the root or below it. -/
def isOwn (logger : Text) : Bool := logger == root || (root ++ ['.']).isPrefixOf logger

/-- Where records can be written to. -/
inductive Sink
  /-- the error output of the program -/
  | errorOutput
  /-- a stream that the caller gives -/
  | given (number : Nat)
  deriving DecidableEq, Repr

/-- Logging as it is set up: a level, and the sink that is attached. -/
structure State where
  level : Int := 0
  sink : Option Sink := none
  deriving DecidableEq, Repr

/-- Sets a level, and attaches the sink if there is none yet. -/
def State.setUp (st : State) (level : Int) (sink : Sink) : State :=
  { level, sink := st.sink.getD sink }

/-- How many sinks are attached. -/
def State.sinks (st : State) : Nat := st.sink.toList.length

/-- The level that a record must reach. -/
def State.threshold (st : State) : Int := if st.level = 0 then warning else st.level

/-- Whether a record is written to the sink that is attached. -/
def State.writes (st : State) (r : Record) : Bool :=
  isOwn r.logger && 0 < r.level && st.threshold ≤ r.level

/-- A record as a line. -/
def Record.line (r : Record) : Text :=
  levelName r.level ++ ' ' :: r.logger ++ ": ".toList ++ r.message ++ ['\n']

/-- What is written of some records to a sink: nothing, unless it is the one that is attached. -/
def State.text (st : State) (sink : Sink) (rs : List Record) : Text :=
  if st.sink = some sink then (rs.filter st.writes).flatMap Record.line else []

end Courier.Log
