/-
  Journeys: a request, and the redirects that it is sent on by.

  A hop connects, writes its head, reads the head of the answer and takes in its cookies.  A redirect with a
  location leads to the next hop: after 301, 302 and 303 the body, which the server still expects, is sent,
  and the journey goes on with GET and no body; after any other it goes on with the same method and body, and
  nothing of the body is sent.  Any other answer ends the journey: the body is sent, and the stream stays
  open for the body of the answer.  A redirect when the budget is used up is a failure.

  Every stream of a journey but the last one of a successful journey is closed.  `hop` makes one hop, and `run`
  goes on from hop to hop.  A budget that is below zero is never used up: such a journey goes on as long as
  servers redirect it, and no measure bounds its hops.
-/
import Courier.Request.Dispatch
import Courier.Response.Basic

namespace Courier

/-- What a hop is to do: its head, method and body, and how many redirects may follow. -/
structure Leg where
  hop : Hop
  method : Text
  body : Body
  budget : Int
  deriving Repr

/-- Where a redirect leads. -/
structure Redirect where
  url : Url
  method : Text
  body : Body
  bodyDropped : Bool
  deriving Repr

/-- What a hop comes to. -/
inductive Outcome
  | final (r : Response)
  | redirect (next : Redirect)
  deriving Repr

/-- A hop after it was run: its outcome, its stream unless a response has it, the jar, the body as far as it
    was consumed, and what happened. -/
structure LegResult where
  outcome : Except Failure Outcome
  stream : Stream
  jar : Option Jar
  body : Body
  log : List Log.Record := []

/-- The name of the field that says where a redirect leads. -/
def locationName : Text := "location".toList

/-- The name of the field that sets a cookie. -/
def setCookieName : Text := "set-cookie".toList

/-- The statuses after which the journey goes on with GET and without a body. -/
def becomesGet (status : Nat) : Bool := status == 301 || status == 302 || status == 303

/-- Where a response says that it leads. -/
def Response.location? (r : Response) : Option Text := Header.valueOf? r.headers locationName

/-- Takes the cookies of a response into the jar, if there is one. -/
def takeCookies (clock : Clock) (jar : Option Jar) (hop : Hop) (r : Response) :
    Except Failure Unit × Option Jar × List Log.Record :=
  match jar with
  | none => (.ok (), none, [])
  | some jar =>
    match jar.ingest clock hop.hostname (some hop.url.text) (Header.valuesOf r.headers setCookieName) with
    | (.ok (), intake) => (.ok (), some intake.jar, intake.log)
    | (.error e, intake) => (.error (.cookieOrigin e), some intake.jar, intake.log)

/-- What a hop does about a response. -/
inductive Verdict
  /-- a redirect that the budget does not allow -/
  | exhausted
  | unresolvable (e : Url.Error)
  /-- a redirect that goes on with GET and no body -/
  | rewrite (url : Url)
  /-- a redirect that goes on with the same method and body -/
  | replay (url : Url)
  | final
  deriving Repr

namespace Leg

/-- Judges a response: the budget counts before the location is looked at. -/
def verdict (leg : Leg) (r : Response) : Verdict :=
  if !r.isRedirect then .final
  else if leg.budget == 0 then .exhausted
  else match r.location? with
    | none => .final
    | some location =>
      match Url.join leg.hop.url location with
      | .error e => .unresolvable e
      | .ok url => if becomesGet r.status then .rewrite url else .replay url

/-- Goes on, or finishes.  Returns the outcome, the stream and the body as far as it was consumed.

    When the send of a body fails, the journey ends there and nothing sends the body again; of a file or an
    iteration the result then says that all of it was consumed, also of the pieces behind the one that failed. -/
def settle (leg : Leg) (r : Response) (s : Stream) : Except Failure Outcome × Stream × Body :=
  match leg.verdict r with
  | .exhausted => (.error .tooManyRedirects, s, leg.body)
  | .unresolvable e => (.error (.url e), s, leg.body)
  | .rewrite url =>
    match leg.body.send leg.hop.isChunked s with
    | (.error f, s) => (.error (.fault f), s, leg.body.spent)
    | (.ok (), s) => (.ok (.redirect ⟨url, "GET".toList, .empty, true⟩), s.close, leg.body.spent)
  | .replay url => (.ok (.redirect ⟨url, leg.method, leg.body, false⟩), s.close, leg.body)
  | .final =>
    match leg.body.send leg.hop.isChunked s with
    | (.error f, s) => (.error (.fault f), s, leg.body.spent)
    | (.ok (), s) => (.ok (.final (r.attach s leg.hop.isHead)), s, leg.body.spent)

/-- Writes the head and reads the head of the answer. -/
def ask (leg : Leg) (s : Stream) : Except Failure Response × Stream :=
  match leg.hop.prelude leg.method with
  | .error e => (.error e, s)
  | .ok head =>
    match s.write head with
    | (.error f, s) => (.error (.fault f), s)
    | (.ok (), s) => Response.beginRead s leg.hop.url leg.method

/-- What the log says of an answer. -/
def answered (leg : Leg) (r : Response) : Log.Record :=
  Log.event "http.redirects" (leg.method ++ ' ' :: leg.hop.url.text ++ " -> ".toList ++ decimal r.status)

/-- Runs a hop on its stream. -/
def run (leg : Leg) (clock : Clock) (jar : Option Jar) (s : Stream) : LegResult :=
  match leg.ask s with
  | (.error e, s) => { outcome := .error e, stream := s, jar, body := leg.body }
  | (.ok r, s) =>
    match takeCookies clock jar leg.hop r with
    | (.error e, jar, log) =>
      { outcome := .error e, stream := s, jar, body := leg.body, log := leg.answered r :: log }
    | (.ok (), jar, log) =>
      let (outcome, s, body) := leg.settle r s
      { outcome, stream := s, jar, body, log := leg.answered r :: log }

end Leg

/-- A journey, as far as it has come: the streams of its hops, the network and the jar, and what happened. -/
structure Journey where
  network : Network
  jar : Option Jar
  streams : List Stream := []
  log : List Log.Record := []

/-- A journey at its end. -/
structure Arrival where
  result : Except Failure Response
  journey : Journey
  /-- The body of the last hop, as far as it was consumed; a body whose send failed counts as consumed. -/
  body : Body

instance : Nonempty Arrival := ⟨⟨.error .tooManyRedirects, { network := ⟨[], none, none, none⟩, jar := none }, {}⟩⟩

namespace Journey

/-- The journey after connecting. -/
def opened (j : Journey) (o : Opening) : Journey :=
  { j with network := o.network, log := j.log ++ o.log }

/-- The journey with a stream that it is done with. -/
def leave (j : Journey) (s : Stream) : Journey := { j with streams := j.streams ++ [s] }

/-- The journey after a hop, without its stream. -/
def after (j : Journey) (r : LegResult) : Journey := { j with jar := r.jar, log := j.log ++ r.log }

/-- What the log says of a redirect. -/
def redirected (leg : Leg) (next : Redirect) : Log.Record :=
  Log.event "http.redirects"
    ("Redirecting ".toList ++ leg.method ++ ' ' :: leg.hop.url.text ++ " -> ".toList ++ next.method ++
      ' ' :: next.url.text)

/-- The journey after a hop that it was redirected by. -/
def turn (j : Journey) (leg : Leg) (r : LegResult) (next : Redirect) : Journey :=
  { (j.after r).leave r.stream with log := (j.after r).log ++ [redirected leg next] }

/-- What a hop leads to: the end of the journey, or the next leg. -/
inductive Progress
  | arrived (a : Arrival)
  | onward (j : Journey) (leg : Leg)

/-- What follows from a hop that was run on its stream. -/
def follow (j : Journey) (leg : Leg) (r : LegResult) : Progress :=
  match r.outcome with
  | .error e => .arrived ⟨.error e, (j.after r).leave r.stream.close, r.body⟩
  | .ok (.final response) => .arrived ⟨.ok response, j.after r, r.body⟩
  | .ok (.redirect next) =>
    match leg.hop.forRedirect r.jar next.url next.method next.body next.bodyDropped with
    | .error e => .arrived ⟨.error e, j.turn leg r next, r.body⟩
    | .ok hop =>
      .onward (j.turn leg r next)
        { hop, method := next.method, body := next.body, budget := leg.budget - 1 }

/-- What the clock shows on a journey: `clocks k` is the clock for the answer to hop `k`. -/
abbrev Clocks := Nat → Clock

/-- Clocks that stand. -/
def Clocks.still (now : Int) : Clocks := fun _ => .still now

/-- The clocks of the hops after the first. -/
def Clocks.later (clocks : Clocks) : Clocks := fun k => clocks (k + 1)

/-- Makes one hop: connects, and runs the leg on the stream. -/
def hop (d : Dispatcher) (clock : Clock) (j : Journey) (leg : Leg) : Progress :=
  let o := d.connect j.network leg.hop
  let j' := j.opened o
  match o.result, o.stream with
  | .error e, none => .arrived ⟨.error e, j', leg.body⟩
  | .error e, some s => .arrived ⟨.error e, j'.leave s, leg.body⟩
  | .ok (), none => .arrived ⟨.error (.noAnswer leg.hop.hostname), j', leg.body⟩
  | .ok (), some s => j'.follow leg (leg.run clock j.jar s)

/-- Runs the hops from a leg on. -/
def run (d : Dispatcher) (clocks : Clocks) (j : Journey) (leg : Leg) : Arrival :=
  match j.hop d (clocks 0) leg with
  | .arrived a => a
  | .onward j leg => j |>.run d clocks.later leg
partial_fixpoint

end Journey

end Courier
