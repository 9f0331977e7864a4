/-
  Opening the connection of a hop: the scheme of its URL chooses the transport.

  A plain transport connects to the host, a secured one makes a handshake after that within the same timeout,
  and a scripted one hands out the next answer without any network.  A failed handshake closes the connection
  again.  What the network does is given: its answers in order, which may go on without an end, and the faults
  with which connecting or the handshake fail, once or always.
-/
import Courier.Request.Hop
import Courier.Settings

namespace Courier

/-- What a server will do on one connection, or the fault with which the connection fails. -/
structure Answer where
  script : Script
  writeFault : Option (Nat × Fault) := none
  connectFault : Option Fault := none
  secureFault : Option Fault := none
  deriving DecidableEq, Repr

/-- The network: the answers to come, and the faults with which every connection fails. -/
structure Network where
  answers : List Answer
  /-- The answers after those, when there is no end of them. -/
  endless : Option (Nat → Answer) := none
  connectFault : Option Fault := none
  secureFault : Option Fault := none

namespace Network

/-- The next answer, and the network after it. -/
def next? (net : Network) : Option (Answer × Network) :=
  match net.answers, net.endless with
  | a :: rest, _ => some (a, { net with answers := rest })
  | [], some f => some (f 0, { net with endless := some fun i => f (i + 1) })
  | [], none => none

/-- A fault of the network's own, or of its next answer, which is then used up. -/
def strike? (net : Network) (always : Option Fault) (once : Answer → Option Fault) :
    Option (Fault × Network) :=
  match always with
  | some f => some (f, net)
  | none => net.next?.bind fun (a, rest) => (once a).map fun f => (f, rest)

end Network

/-- How a scheme is served. -/
inductive Transport
  | scripted
  | plain
  | secured
  deriving DecidableEq, Repr

/-- The transports of the schemes, and whether certificates are verified. -/
structure Dispatcher where
  routes : List (Text × Transport)
  verify : Bool := true
  deriving Repr

namespace Dispatcher

/-- The routes of an agent that was given no others. -/
def standardRoutes : List (Text × Transport) :=
  [("http".toList, .plain), ("https".toList, .secured), ("test".toList, .scripted)]

/-- The dispatcher of some settings. -/
def ofSettings (s : Settings) : Dispatcher := { routes := standardRoutes, verify := s.verify }

/-- The dispatcher with all given schemes served by the script. -/
def withScripted (d : Dispatcher) (schemes : List Text) : Dispatcher :=
  { d with routes := schemes.map (·, .scripted) ++ d.routes }

end Dispatcher

namespace Transport

/-- The port where a transport connects when the URL names none. -/
def defaultPort : Transport → Int
  | .secured => 443
  | _ => 80

/-- The port to connect to; port zero counts as none. -/
def portFor (t : Transport) (port : Option Int) : Int :=
  match port with
  | some 0 | none => t.defaultPort
  | some n => n

/-- The stream of the next answer, with the calls that opened it. -/
def answered (net : Network) (s : Stream) : Except Failure Unit × Option Stream × Network :=
  match net.next? with
  | none => (.error (.noAnswer s.host), none, net)
  | some (a, rest) => (.ok (), some { s with incoming := a.script, writeFault := a.writeFault }, rest)

/-- Opens a stream.  A stream that did not come about, or was closed again, comes with the failure. -/
def openStream (t : Transport) (verify : Bool) (net : Network) (host : Text) (port : Option Int)
    (timeouts : Timeouts) : Except Failure Unit × Option Stream × Network :=
  let s : Stream := { host, port, timeouts }
  match t with
  | .scripted => answered net s
  | t =>
    let s := s.note (.connect host (t.portFor port) timeouts.connect)
    match net.strike? net.connectFault Answer.connectFault with
    | some (f, net) => (.error (.fault f), some { s with connected := false }, net)
    | none =>
      if t = .plain then answered net s
      else
        let s := s.note (.secure host timeouts.connect verify)
        match net.strike? net.secureFault Answer.secureFault with
        | some (f, net) => (.error (.fault f), some s.close, net)
        | none => answered net s

end Transport

/-- The port that the log shows. -/
def shownPort (scheme : Text) (port : Option Int) : Text :=
  match port with
  | some 0 | none =>
    if scheme = "http".toList then "80".toList
    else if scheme = "https".toList then "443".toList else []
  | some n => decimalInt n

/-- What came of connecting: the stream if there is one, and the network after it. -/
structure Opening where
  result : Except Failure Unit
  stream : Option Stream
  network : Network
  log : List Log.Record

/-- Connects a hop. -/
def Dispatcher.connect (d : Dispatcher) (net : Network) (hop : Hop) : Opening :=
  match d.routes.lookup hop.url.scheme with
  | none => ⟨.error (.unknownScheme hop.url.scheme), none, net, []⟩
  | some t =>
    let (result, stream, net) := t.openStream d.verify net hop.hostname hop.url.port hop.timeouts
    ⟨result, stream, net, [Log.event "http.transport"
      ("Connecting ".toList ++ hop.url.scheme ++ "://".toList ++ hop.hostname ++ ':' ::
        shownPort hop.url.scheme hop.url.port)]⟩

end Courier
