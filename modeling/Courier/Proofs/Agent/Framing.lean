/-
  Where a request ends.

  Three places decide about the end of a request, and none of them looks at another: whether a size is known is
  settled when a payload becomes a body, whether a length is sent when a hop is built, and how many bytes are sent
  when the body is written.  A receiver needs the three to agree.

  1. **What it means to agree**: a receiver can tell where the request ends when what follows the head is nothing,
     or as many bytes as the one framing field of the head says (`Leg.Delimited`).  The other case is a head that
     frames nothing with bytes behind it (`Leg.Unmarked`), which no receiver can take for a part of the request.

  2. **One leg** (`Leg.Unframed`): all that frames the body in the head is the length of the body that the leg has,
     and that body is the one of the request or none.  From this follows how its payload goes out
     (`Leg.Unframed.framed`).  Bytes at hand are written at once, all of them or none, behind a length that is
     theirs.  A file, a list and an iteration have no size, and nothing is sent in chunks unless the caller asks for
     it, so they go out as they are, behind a head that does not say that anything follows it.

  3. **All legs** (`Journey.unframed_of_reaches`): `Leg.Unframed` holds of the first leg of a request whose caller
     frames nothing, because what an agent adds to the fields of a caller is its own name.  A redirect keeps it: the
     next hop is built from what is left of the caller's fields, for the same body or for none.  So by induction it
     holds of every leg of every journey, whatever the servers answer.

  A list is the smallest payload that shows the second case: one piece of it stands behind a head without a length
  (`Agent.not_delimited_of_list`).
-/
import Courier.Proofs.Agent.Closing
import Courier.Proofs.Journey.Requests

namespace Courier

/-! ## What a receiver can tell

  The receiver sees one connection and has to find the end of the request in it.  It knows the head, and of the
  fields only those that frame a body matter. -/

/-- A receiver can tell where the request of a leg ends: what follows the head is nothing, or as many bytes as the
    one framing field of the head says. -/
def Leg.Delimited (leg : Leg) (mute : Prop) (written : Bytes) : Prop :=
  ∃ sent, leg.Wrote mute written sent ∧
    (sent = [] ∨
      leg.hop.headFields.filter Hop.isFraming =
        [{ name := "Content-Length".toList, value := decimal sent.length }])

/-- The head of a leg frames nothing, and what follows it is a beginning of this content as it is. -/
def Leg.Unmarked (leg : Leg) (mute : Prop) (content written : Bytes) : Prop :=
  leg.hop.headFields.filter Hop.isFraming = [] ∧ ∃ sent, leg.Wrote mute written sent ∧ sent <+: content

/-- How what is written for a leg is framed, by the payload of the request, when a leg that is mute writes nothing.
    Nothing is said of a ready body, whose size is what its maker says. -/
def Payload.Framed (payload : Payload) (leg : Leg) (mute : Prop) (written : Bytes) : Prop :=
  match payload with
  | .nothing | .text _ | .bytes _ => leg.Delimited mute written
  | .file rest => leg.Unmarked mute rest written
  | .list ps | .iterator ps => leg.Unmarked mute ps.data written
  | .ready _ => True

/-! ## One leg

  What is written for a leg is known from the leg itself, whatever its stream does. -/

/-- The caller of a leg frames nothing, and the hop was built for the body of the leg: that of the request, or
    none. -/
structure Leg.Unframed (body : Body) (leg : Leg) : Prop where
  caller : ∀ f ∈ leg.hop.callerHeaders, Hop.isFraming f = false
  framing : leg.hop.headFields.filter Hop.isFraming = Hop.lengthFields leg.body
  isChunked : leg.hop.isChunked = false
  body : leg.body = body ∨ leg.body = .empty

namespace Leg

variable {leg : Leg} {body : Body} {mute : Prop} {written sent : Bytes}

/-- A hop that was built from fields that frame nothing frames the body of its leg and nothing else. -/
theorem unframed_of_built {method : Text} {headers : List Header} {query : Query} {timeouts : Timeouts}
    {jar : Option Jar} {url : Url} (h : Hop.Built method headers query timeouts jar url leg.body leg.hop)
    (hfree : ∀ f ∈ headers, Hop.isFraming f = false) (hbody : leg.body = body ∨ leg.body = .empty) :
    leg.Unframed body := by
  refine ⟨?_, h.asks.framing hfree, ?_, hbody⟩
  · rw [h.callerHeaders]
    exact hfree
  · rw [h.isChunked]
    exact (Hop.ownLength_of_unframed hfree leg.body).1

theorem Unframed.isPrefix (h : leg.Unframed body) (hsent : sent = [] ∨ leg.body.Sends leg.hop.isChunked sent) :
    sent <+: body.content := by
  rcases hsent with rfl | hsends
  · exact List.nil_prefix
  · rw [h.isChunked] at hsends
    rcases h.body with hsame | hempty
    · exact hsame ▸ hsends.isPrefix
    · have hnone : sent <+: Body.empty.content := hempty ▸ hsends.isPrefix
      exact (List.prefix_nil.mp hnone) ▸ List.nil_prefix

theorem Unframed.unmarked (h : leg.Unframed body) (hsize : body.size = none) (hwrote : leg.Wrote mute written sent)
    (hsent : sent = [] ∨ leg.body.Sends leg.hop.isChunked sent) : leg.Unmarked mute body.content written := by
  have hnone : leg.body.size = none := by
    rcases h.body with hsame | hempty
    · rw [hsame, hsize]
    · rw [hempty]
      rfl
  refine ⟨?_, sent, hwrote, h.isPrefix hsent⟩
  rw [h.framing, Hop.lengthFields, hnone]

/-- Bytes at hand come with their length. -/
theorem Unframed.delimited {b : Bytes} (h : leg.Unframed (.ofBytes b)) (hwrote : leg.Wrote mute written sent)
    (hsent : sent = [] ∨ leg.body.Sends leg.hop.isChunked sent) : leg.Delimited mute written := by
  refine ⟨sent, hwrote, ?_⟩
  rcases h.body with hsame | hempty
  · rcases hsent with hnone | hsends
    · exact Or.inl hnone
    · rw [h.isChunked, hsame] at hsends
      rcases Body.eq_of_sends_ofBytes hsends with hnone | hall
      · exact Or.inl hnone
      · -- the length in the head was made from this very body
        right
        rw [h.framing, hsame, hall]
        rfl
  · -- a redirect has dropped the body
    have hdropped : leg.Unframed .empty := ⟨h.caller, h.framing, h.isChunked, Or.inl hempty⟩
    exact Or.inl (List.prefix_nil.mp (hdropped.isPrefix hsent))

/-- **One leg.**  What is written for it is framed as its payload is. -/
theorem Unframed.framed {payload : Payload} (h : leg.Unframed (.ofPayload payload))
    (hwrote : leg.Wrote mute written sent)
    (hsent : sent = [] ∨ leg.body.Sends leg.hop.isChunked sent) : payload.Framed leg mute written := by
  cases payload with
  | nothing => exact ⟨sent, hwrote, Or.inl (List.prefix_nil.mp (h.isPrefix hsent))⟩
  -- bytes at hand
  | text s => exact h.delimited hwrote hsent
  | bytes b => exact h.delimited hwrote hsent
  -- no size
  | file rest => exact h.unmarked rfl hwrote hsent
  | list ps => exact h.unmarked rfl hwrote hsent
  | iterator ps => exact h.unmarked rfl hwrote hsent
  | ready body => trivial

end Leg

/-! ## All legs

  The property of a leg is kept by every redirect, and holds of the first one when the fields of the caller frame
  nothing. -/

/-- **A redirect frames nothing either**: the next hop is built from what is left of the caller's fields, for the
    same body or none. -/
theorem Journey.unframed_of_reaches {d : Dispatcher} {clocks : Clocks} {j j' : Journey} {leg leg' : Leg} {k : Nat}
    {body : Body} (hstart : leg.Unframed body) (h : Reaches d clocks j leg k j' leg') : leg'.Unframed body := by
  induction h with
  | start => exact hstart
  | onward before step ih =>
    obtain ⟨s, r, next, hstep⟩ := onward_inv step
    refine Leg.unframed_of_built (built_of_step hstep) ?caller ?body
    case caller =>
      intro f hf
      split at hf
      · exact ih.caller f (List.mem_filter.mp hf).1
      · exact ih.caller f hf
    case body =>
      -- a rewrite goes on without a body, a replay with the same one
      rw [hstep.body]
      rcases Leg.next?_status hstep.follows with ⟨_, _, hempty, _⟩ | ⟨_, _, hsame, _⟩
      · exact Or.inr hempty
      · rw [hsame]
        exact ih.body

namespace Agent

variable {a : Agent} {r : Request} {hop : Hop} {caller headers : List Header}

/-- What a prepared hop was built from. -/
theorem of_prepare (h : a.prepare r = .ok hop) :
    ∃ url headers, Url.parse r.url = .ok url ∧ a.headersFor r = .ok headers ∧
      Hop.build r.method headers r.query (a.timeoutsFor r) (some a.jar) url (.ofPayload r.body) = .ok hop := by
  rw [prepare] at h
  split at h
  · exact absurd h (by simp)
  · rename_i url hurl
    split at h
    · exact absurd h (by simp)
    · rename_i headers hheaders
      exact ⟨url, headers, hurl, hheaders, h⟩

/-- To the fields of the caller an agent adds no more than its own name. -/
theorem mem_headersFor (hcaller : Header.ofPairs r.headers = .ok caller) (h : a.headersFor r = .ok headers)
    {f : Header} (hf : f ∈ headers) : f ∈ caller ∨ f.name = "User-Agent".toList := by
  rw [headersFor] at h
  obtain ⟨caller', hsame, h⟩ := exists_of_bind_eq_ok h
  rw [hcaller, Except.ok.injEq] at hsame
  subst hsame
  split at h
  · rw [Except.ok.injEq] at h
    exact Or.inl (h ▸ hf)
  · obtain ⟨own, hown, h⟩ := exists_of_bind_eq_ok h
    rw [← Except.ok.inj h] at hf
    rcases List.mem_append.mp hf with hf | hf
    · exact Or.inl hf
    · obtain ⟨_, _, hfield⟩ := Header.of_ofPair hown
      rw [List.mem_singleton.mp hf, hfield]
      exact Or.inr rfl

theorem isFraming_of_mem_headersFor (hcaller : Header.ofPairs r.headers = .ok caller)
    (hfree : ∀ f ∈ caller, Hop.isFraming f = false) (h : a.headersFor r = .ok headers) :
    ∀ f ∈ headers, Hop.isFraming f = false := by
  intro f hf
  rcases mem_headersFor hcaller h hf with hf | hname
  · exact hfree f hf
  · rw [Hop.isFraming, Header.hasName, Header.hasName, hname]
    decide

/-- **Where the requests of a journey end.**  For a request that an agent prepares and whose caller gives neither a
    length nor a coding, on every hop of every journey that it sets out on: with no payload, a text or bytes, the
    receiver can tell where the request ends, because what follows the head is nothing or as many bytes as the one
    length in it says; with a file, a list or an iteration the head has neither length nor coding, and what follows
    it is a beginning of the payload as it is. -/
theorem framed_of_prepare (hcaller : Header.ofPairs r.headers = .ok caller)
    (hlength : Header.contains caller Hop.lengthName = false)
    (hcoding : Header.contains caller Hop.codingName = false) (hprepare : a.prepare r = .ok hop)
    (d : Dispatcher) (clocks : Journey.Clocks) (network : Network) (jar : Option Jar) (budget : Int) (k : Nat)
    (j : Journey) (leg : Leg) (s : Stream)
    (hreach : Journey.Reaches d clocks { network, jar } { hop, method := r.method, body := .ofPayload r.body, budget }
      k j leg)
    (hstream : (j.hop d (clocks k) leg).streams = j.streams ++ [s]) :
    r.body.Framed leg (Journey.Mute d j leg) s.written := by
  have hfree : ∀ f ∈ caller, Hop.isFraming f = false := by
    intro f hf
    rw [← Bool.not_eq_true, Hop.isFraming_iff]
    rintro (hname | hname)
    · exact Bool.false_ne_true (hlength.symm.trans (Header.contains_iff.mpr ⟨f, hf, hname⟩))
    · exact Bool.false_ne_true (hcoding.symm.trans (Header.contains_iff.mpr ⟨f, hf, hname⟩))
  -- the first leg is unframed because what the agent adds is its name
  obtain ⟨url, headers, _, hheaders, hbuild⟩ := of_prepare hprepare
  have hstart : Leg.Unframed (.ofPayload r.body) { hop, method := r.method, body := .ofPayload r.body, budget } :=
    Leg.unframed_of_built (Hop.built_of_build hbuild) (isFraming_of_mem_headersFor hcaller hfree hheaders)
      (Or.inl rfl)
  obtain ⟨sent, hwrote, hsent⟩ := Journey.sent_of_hop hstream
  exact (Journey.unframed_of_reaches hstart hreach).framed hwrote hsent

/-- An agent before a server that gives these answers. -/
def before (answers : List String) : Agent :=
  .ofSettings {} { answers := answers.map fun s => { script := [.bytes (octets s.toList)] } }

/-- A request with a payload. -/
def posted (payload : Payload) : Request :=
  { url := "http://h/".toList, method := "POST".toList, headers := [(.text "X".toList, .text "y".toList)],
    body := payload }

/-- An agent before a server that sends a request on as it is, and then answers it. -/
def replaying : Agent := before ["HTTP/1.1 307 Again\r\nLocation: /b\r\n\r\n", "HTTP/1.1 200 OK\r\n\r\n"]

/-- A request with a text of two characters and three octets. -/
def textPost : Request := posted (.text ['h', 'é'])

/-- What is written for it the second time. -/
def textWritten : Bytes :=
  octets "POST /b HTTP/1.1\r\nHost: h\r\nX: y\r\nUser-Agent: hopwire/0.1.0\r\nContent-Length: 3\r\n\r\n".toList ++
    [104, 195, 169]

/-- A text that is sent a second time has its length in the second head as well, three octets for two characters. -/
theorem framed_of_prepare_of_replay :
    Header.ofPairs textPost.headers = .ok [{ name := ['X'], value := ['y'] }] ∧
    ∃ hop j leg s, replaying.prepare textPost = .ok hop ∧
      Journey.Reaches replaying.dispatcher (.still 0) replaying.journey (replaying.leg textPost hop) 1 j leg ∧
      (j.hop replaying.dispatcher (.still 0) leg).streams = j.streams ++ [s] ∧ s.written = textWritten ∧
      leg.Delimited (Journey.Mute replaying.dispatcher j leg) s.written := by
  refine ⟨rfl, ?_⟩
  have hrun : ((replaying.prepare textPost).toOption.any fun hop =>
      (replaying.journey.hop replaying.dispatcher (.still 0) (replaying.leg textPost hop)).onward?.any fun x =>
        decide (x.1.streams.length = 1 ∧
          ((x.1.hop replaying.dispatcher (.still 0) x.2).streams.drop 1).map Stream.written = [textWritten])) = true := by
    decide +kernel
  rw [Option.any_eq_true] at hrun
  obtain ⟨hop, hprepare, hrun⟩ := hrun
  rw [Option.any_eq_true] at hrun
  obtain ⟨⟨j, leg⟩, hfirst, hrun⟩ := hrun
  rw [toOption_eq_some_iff] at hprepare
  rw [Journey.Progress.onward?_eq_some_iff] at hfirst
  obtain ⟨hone, hwritten⟩ := of_decide_eq_true hrun
  have hreach : Journey.Reaches replaying.dispatcher (.still 0) replaying.journey (replaying.leg textPost hop) 1 j leg :=
    .onward .start hfirst
  rcases Journey.streams_hop replaying.dispatcher (.still 0) j leg with hsame | ⟨s, hstream⟩
  · rw [hsame, List.drop_of_length_le hone.le] at hwritten
    exact absurd hwritten (by simp)
  · rw [hstream, List.drop_append_of_le_length hone.ge, List.drop_of_length_le hone.le, List.nil_append,
      List.map_cons, List.map_nil, List.cons.injEq] at hwritten
    exact ⟨hop, j, leg, s, hprepare, hreach, hstream, hwritten.1,
      framed_of_prepare rfl rfl rfl hprepare _ _ _ _ _ _ _ _ _ hreach hstream⟩

/-- An agent before a server that answers at once. -/
def answered : Agent := before ["HTTP/1.1 200 OK\r\n\r\n"]

/-- A request with a list of one piece. -/
def listPost : Request := posted (.list [.bytes [97, 98, 99]])

/-- The head that is written for it. -/
def listHead : Bytes := octets "POST / HTTP/1.1\r\nHost: h\r\nX: y\r\nUser-Agent: hopwire/0.1.0\r\n\r\n".toList

/-- The piece goes out behind a head that does not say that anything follows it. -/
theorem not_delimited_of_list :
    Header.ofPairs listPost.headers = .ok [{ name := ['X'], value := ['y'] }] ∧
    ∃ hop s, answered.prepare listPost = .ok hop ∧
      (answered.journey.hop answered.dispatcher (.still 0) (answered.leg listPost hop)).streams = [s] ∧
      s.written = listHead ++ [97, 98, 99] ∧ ∀ mute, ¬ (answered.leg listPost hop).Delimited mute s.written := by
  refine ⟨rfl, ?_⟩
  have hrun : ((answered.prepare listPost).toOption.any fun hop =>
      decide ((answered.journey.hop answered.dispatcher (.still 0) (answered.leg listPost hop)).streams.map
            Stream.written = [listHead ++ [97, 98, 99]] ∧
        octets (block (hop.startLine "POST".toList :: hop.headFields.map Header.text)) = listHead ∧
        hop.headFields.filter Hop.isFraming = [])) = true := by
    decide +kernel
  rw [Option.any_eq_true] at hrun
  obtain ⟨hop, hprepare, hrun⟩ := hrun
  obtain ⟨hstreams, hhead, hframing⟩ := of_decide_eq_true hrun
  obtain ⟨s, hstream, hwritten⟩ := List.map_eq_singleton_iff.mp hstreams
  refine ⟨hop, s, toOption_eq_some_iff.mp hprepare, hstream, hwritten, ?_⟩
  rintro mute ⟨sent, hwrote, hnone | hlength⟩
  · -- more than the head is written
    rw [hnone, hwritten] at hwrote
    rcases hwrote with ⟨_, hempty, _⟩ | hsame
    · exact absurd hempty (by decide)
    · rw [List.append_nil] at hsame
      exact absurd (hsame.trans hhead) (by decide)
  · -- and the head has no length
    exact absurd (hframing.symm.trans hlength) (by simp)

end Agent

end Courier
