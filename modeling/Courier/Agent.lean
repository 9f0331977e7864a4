/-
  The agent: requests with shared cookies and common settings.

  `prepare` makes the first hop of a request, `send` runs its journey and leaves the body of the answer on its
  stream, and `request` reads the body up to a limit and closes the stream.  `perform` is what a caller sees of
  that: a failure is an answer too, with its category, and only a stop of the program goes through.  The cookies
  of every answer stay with the agent.
-/
import Courier.Request.Journey

namespace Courier

/-- The timeouts that a request asks for. -/
inductive TimeoutChoice
  | settings
  | all (t : Binary64)
  | each (t : Timeouts)
  deriving DecidableEq, Repr

/-- A request as a caller makes it. -/
structure Request where
  url : Text
  method : Text := "GET".toList
  headers : List (Scalar × Scalar) := []
  body : Payload := .nothing
  query : Query := .absent
  timeout : TimeoutChoice := .settings
  maxRedirects : Option Int := none
  deriving Repr

/-- An answer that was read. -/
structure Reply where
  status : Nat
  headers : List (Text × Text)
  text : Text
  content : Bytes
  url : Text
  truncated : Bool
  bytesRead : Nat
  limit : Nat
  deriving Repr

/-- What a caller is told of a request that failed. -/
structure FailureReport where
  url : Text
  message : Text
  type : Text
  category : Text
  reason : Text
  deriving DecidableEq, Repr

/-- What a caller gets for a request. -/
inductive Report
  | reply (r : Reply)
  | failure (f : FailureReport)
  deriving Repr

/-- An agent. -/
structure Agent where
  settings : Settings
  dispatcher : Dispatcher
  network : Network
  jar : Jar := {}

/-- What a request did: its result, the agent after it, the streams it opened, and what happened. -/
structure Done (α : Type) where
  result : Except Failure α
  agent : Agent
  streams : List Stream
  log : List Log.Record

namespace Agent

/-- The agent of some settings. -/
def ofSettings (settings : Settings) (network : Network) : Agent :=
  { settings, dispatcher := .ofSettings settings, network }

/-- Logging after an agent was made: settings that name a level set it up. -/
def setUpLog (settings : Settings) (env : Environment) (st : Log.State) : Log.State :=
  match settings.logLevel with
  | some (c :: s) => st.setUp (Log.resolve (Settings.levelOf env) (.name (c :: s))) .errorOutput
  | _ => st

/-- The timeouts of a request. -/
def timeoutsFor (a : Agent) (r : Request) : Timeouts :=
  match r.timeout with
  | .settings => a.settings.timeouts
  | .all t => .all t
  | .each t => t

/-- How many redirects a request may follow. -/
def budgetFor (a : Agent) (r : Request) : Int :=
  match r.maxRedirects with
  | some n => max 0 n
  | none => a.settings.maxRedirects

/-- The name of the field that names the agent. -/
def userAgentName : Text := "user-agent".toList

/-- The fields of a request: the caller's, and the agent's name unless the caller gives one. -/
def headersFor (a : Agent) (r : Request) : Except HeaderError (List Header) := do
  let headers ← Header.ofPairs r.headers
  if a.settings.userAgent.isEmpty || Header.contains headers userAgentName then .ok headers
  else
    let own ← Header.ofPair "User-Agent".toList a.settings.userAgent
    .ok (headers ++ [own])

/-- The first hop of a request. -/
def prepare (a : Agent) (r : Request) : Except Failure Hop :=
  match Url.parse r.url with
  | .error e => .error (.url e)
  | .ok url =>
    match a.headersFor r with
    | .error e => .error (.header e)
    | .ok headers => Hop.build r.method headers r.query (a.timeoutsFor r) (some a.jar) url (.ofPayload r.body)

/-- Runs a request; the body of the answer stays on its stream. -/
def send (a : Agent) (clocks : Journey.Clocks) (r : Request) : Done Response :=
  match a.prepare r with
  | .error e => ⟨.error e, a, [], []⟩
  | .ok hop =>
    let arrival := Journey.run a.dispatcher clocks { network := a.network, jar := some a.jar }
      { hop, method := r.method, body := .ofPayload r.body, budget := a.budgetFor r }
    let j := arrival.journey
    ⟨arrival.result, { a with network := j.network, jar := j.jar.getD a.jar }, j.streams, j.log⟩

/-- The limit of a body when the settings give none. -/
def defaultLimit : Nat := 16777216

/-- The most bytes of a body that are kept. -/
def limit (a : Agent) : Nat :=
  if a.settings.maxBodyBytes ≤ 0 then defaultLimit else a.settings.maxBodyBytes.toNat

/-- Reads a response up to the limit, and closes it. -/
def readReply (a : Agent) (r : Response) : Except Failure Reply × Option Stream :=
  let (read, r) := r.readUpTo a.limit
  let r := r.close
  (read.map fun (content, truncated) =>
    { status := r.status
      headers := Header.joined r.headers
      text := Charset.readLabelled r.charset content
      content
      url := r.url.text
      truncated
      bytesRead := content.length
      limit := a.limit },
   r.stream)

/-- What the log says of a failed request. -/
def failed (r : Request) (e : Failure) : Log.Record :=
  Log.event "agent"
    ("Request to ".toList ++ r.url ++ " failed: ".toList ++ e.message ++ " (".toList ++
      e.category.name ++ [')'])

/-- Runs a request and reads its answer. -/
def request (a : Agent) (clocks : Journey.Clocks) (r : Request) : Done Reply :=
  let sent := a.send clocks r
  let (result, last) : Except Failure Reply × Option Stream :=
    match sent.result with
    | .error e => (.error e, none)
    | .ok response => sent.agent.readReply response
  let log := match result with
    | .error e => if e.isAbort then sent.log else sent.log ++ [failed r e]
    | .ok _ => sent.log
  ⟨result, sent.agent, sent.streams ++ last.toList, log⟩

/-- The report of a failure of a request. -/
def report (r : Request) (e : Failure) : FailureReport :=
  { url := r.url, message := e.message, type := e.name, category := e.category.name, reason := e.category.reason }

/-- Runs a request and gives its answer, or the report of its failure; a stop of the program is no answer. -/
def perform (a : Agent) (clocks : Journey.Clocks) (r : Request) : Done Report :=
  let done := a.request clocks r
  let result : Except Failure Report :=
    match done.result with
    | .ok reply => .ok (.reply reply)
    | .error e => if e.isAbort then .error e else .ok (.failure (report r e))
  ⟨result, done.agent, done.streams, done.log⟩

end Agent

end Courier
