/-
  What the hops of a journey ask for.

  Every hop after the first is made from the one before it: from the fields of the caller that are left there, the
  method and body that the redirect goes on with, the jar as it stands, and the URL that the location resolves to.
  So what a hop asks for depends on the whole history, but through one fact only: whether some response before it
  had status 301, 302 or 303 (`Journey.Rewritten`).  Until then nothing of the caller's request changes; from then
  on the method is GET, there is no body, and the framing fields of the caller are gone for good.

  1. What one hop asks for is `Hop.Asks`: its request line, its fields in order, how its body is framed, and its
     length.  It holds of every hop that is built (`Hop.Built.asks`), and for a hop that a redirect leads to the
     target takes its final form there, with the path and the query of the URL and none of the caller's query
     (`Hop.Built.asks_of_join`).

  2. What one leg writes is its head and then nothing but the body (`Leg.sent_of_run`).  A leg whose head does not
     go out writes nothing at all, and then there is a reason for it: the head cannot be written, or the stream
     refuses it (`Leg.Mute`).

  3. What one redirect changes is `Leg.next?_status`: the method, the body and the framing all at once, or none of
     them.

  4. What a history changes is `Keeps`, proved by induction (`keeps_of_reaches`).  The step has one point to it:
     framing fields are dropped by a filter, and a second redirect that goes on with GET filters again what was
     filtered before.

  `Determined` states all of this of a journey, and `run_determined` proves it for every journey that begins with a
  hop made by `Hop.build`.  A statement about what hops ask for would say little if hops were free to write
  something else, so `Determined` also says that what is on the stream of a hop begins with the head in question,
  unless the hop is mute, and that a hop with an answer is not (`HeadFirst`).
-/
import Courier.Proofs.Journey.Closing
import Courier.Proofs.Request.Prelude
import Courier.Proofs.Request.Sending
import Courier.Proofs.Url.Target

namespace Courier

/-! ## The head of one hop

  A head has a request line and fields, and every part of both comes from the caller, from the URL, from the jar or
  from the body. -/

/-- What a hop asks for: its request line and its fields in order, and how its body is framed. -/
structure Hop.Asks (method : Text) (caller : List Header) (target : Text) (jar : Option Jar) (url : Url)
    (body : Body) (hop : Hop) : Prop where
  startLine : hop.startLine method = method ++ ' ' :: target ++ " HTTP/1.1".toList
  /-- a host that is made up only if the caller gives none, the caller's fields, the cookies that go with the
      URL, and the length -/
  headFields : hop.headFields =
    (if Header.contains caller "host".toList then [] else [{ name := "Host".toList, value := url.hostAndPort }]) ++
      caller ++ cookieFields jar hop.hostname url ++ ownLength caller body
  hostname : hostnameOf url = .ok hop.hostname
  isChunked : hop.isChunked = asksChunked caller
  isHead : hop.isHead = (lower method == "head".toList)
  /-- the length is that of the body, and is there when nothing else frames a body of known size -/
  length : ∀ f, f ∈ ownLength caller body ↔
    hop.isChunked = false ∧ Header.contains caller lengthName = false ∧
      ∃ n, body.size = some n ∧ f = { name := "Content-Length".toList, value := decimalInt n }
  single : (ownLength caller body).length ≤ 1

namespace Hop

variable {method : Text} {headers : List Header} {query : Query} {timeouts : Timeouts} {jar : Option Jar}
  {url : Url} {body : Body} {hop : Hop}

theorem Built.asks (h : Built method headers query timeouts jar url body hop) :
    Asks method headers (url.requestPath ++ url.combineQuery query) jar url body hop := by
  refine ⟨?_, ?_, h.hostname, h.isChunked, h.isHead, ?_, length_ownLength_le headers body⟩
  · rw [Hop.startLine, h.url, h.query]
    simp only [List.append_assoc, List.cons_append]
  · -- the host stands first when the caller gives none
    rw [Hop.headFields, h.contains_host, h.url, h.headers]
    split
    · rw [List.nil_append]
    · rfl
  · intro f
    rw [h.isChunked]
    exact mem_ownLength_iff

/-- A hop that a redirect leads to has the path and the query of its URL as its target. -/
theorem Built.asks_of_join {base : Url} {location : Text} (hjoin : Url.join base location = .ok url)
    (h : Built method headers .absent timeouts jar url body hop) :
    Asks method headers (url.rootedPath ++ if url.queryText = [] then [] else '?' :: url.queryText) jar url body
      hop := by
  have hasks := h.asks
  rw [(Url.unmarked_of_join hjoin).requestPath, url.combineQuery_absent] at hasks
  exact hasks

/-- When the caller frames nothing, what frames the body in a head is its length, and only that. -/
theorem Asks.framing {target : Text} (h : Asks method headers target jar url body hop)
    (hcaller : ∀ f ∈ headers, isFraming f = false) : hop.headFields.filter isFraming = lengthFields body := by
  have hnamed (name : Text) {f : Header} (hf : f.name = name) :
      isFraming f = (lower name == lower lengthName || lower name == lower codingName) := by
    rw [isFraming, Header.hasName, Header.hasName, hf]
  -- of the four parts of a head, only the length frames a body
  have hhost : ∀ f ∈ (if Header.contains headers "host".toList then []
      else [({ name := "Host".toList, value := url.hostAndPort } : Header)]), ¬ isFraming f = true := by
    intro f hf
    split at hf
    · exact absurd hf List.not_mem_nil
    · rw [hnamed "Host".toList (by rw [List.mem_singleton.mp hf])]
      decide
  have hcookie : ∀ f ∈ cookieFields jar hop.hostname url, ¬ isFraming f = true := by
    intro f hf
    rw [hnamed "Cookie".toList (name_of_mem_cookieFields hf)]
    decide
  have hlength : ∀ f ∈ ownLength headers body, isFraming f = true := by
    intro f hf
    rw [hnamed "Content-Length".toList (name_of_mem_ownLength hf)]
    decide
  have hfree : ∀ f ∈ headers, ¬ isFraming f = true := fun f hf => Bool.not_eq_true _ ▸ hcaller f hf
  rw [h.headFields, List.filter_append, List.filter_append, List.filter_append, List.filter_eq_nil_iff.mpr hhost,
    List.filter_eq_nil_iff.mpr hfree, List.filter_eq_nil_iff.mpr hcookie, List.filter_eq_self.mpr hlength]
  exact (ownLength_of_unframed hcaller body).2

/-- Of what a hop adds, nothing frames a body when the body has no known size. -/
theorem Asks.unframed {target : Text} (h : Asks method headers target jar url body hop)
    (hcaller : ∀ f ∈ headers, isFraming f = false) (hsize : body.size = none) :
    ∀ f ∈ hop.headFields, isFraming f = false := by
  have hnone := h.framing hcaller
  rw [lengthFields, hsize, List.filter_eq_nil_iff] at hnone
  exact fun f hf => Bool.eq_false_iff.mpr (hnone f hf)

end Hop

/-! ## What a leg writes

  The head is first on its stream or nothing is there.  Why nothing would be there is said by two cases, and neither
  of them is possible for a hop that has an answer. -/

namespace Leg

variable {leg : Leg} {s : Stream} {r : Response}

/-- Why the head of a leg does not go out: it cannot be written, or the stream refuses it. -/
inductive Mute (leg : Leg) (s : Stream) : Prop
  | unwritable (e : Failure) (prelude : leg.hop.prelude leg.method = .error e)
  | refused (head : Bytes) (f : Fault) (prelude : leg.hop.prelude leg.method = .ok head)
      (write : (s.write head).1 = .error f)

/-- The head goes out before the answer is read; or it does not, and the leg fails with the stream as it was. -/
theorem ask_head (leg : Leg) (s : Stream) :
    (leg.Mute s ∧ ∃ e, leg.ask s = (.error e, s)) ∨
      ∃ b, leg.hop.prelude leg.method = .ok b ∧ (leg.ask s).2.written = s.written ++ b := by
  rw [ask]
  cases hp : leg.hop.prelude leg.method with
  | error e => exact Or.inl ⟨.unwritable e hp, e, rfl⟩
  | ok b =>
    rcases s.written_write_cases b with ⟨s', hwrite, hwritten⟩ | ⟨f, hwrite⟩
    · refine Or.inr ⟨b, rfl, ?_⟩
      dsimp only
      rw [hwrite]
      exact (Response.reads_beginRead s' leg.hop.url leg.method).frames.written.trans hwritten
    · refine Or.inl ⟨.refused b f hp (congrArg Prod.fst hwrite), ?_⟩
      dsimp only
      rw [hwrite]
      exact ⟨_, rfl⟩

/-- Settling an answer sends the body, or writes nothing. -/
theorem sent_of_settle (leg : Leg) (r : Response) (s : Stream) :
    ∃ sent, (leg.settle r s).2.1.written = s.written ++ sent ∧
      (sent = [] ∨ leg.body.Sends leg.hop.isChunked sent) := by
  have hnothing : s.written = s.written ++ [] := (List.append_nil _).symm
  obtain ⟨sent, hsent, hsends⟩ := leg.body.exists_sends leg.hop.isChunked s
  -- only a rewrite and a final answer send it
  rw [settle]
  split
  · exact ⟨[], hnothing, Or.inl rfl⟩
  · exact ⟨[], hnothing, Or.inl rfl⟩
  · split
    · rename_i hs
      rw [hs] at hsent
      exact ⟨sent, hsent, Or.inr hsends⟩
    · rename_i s' hs
      rw [hs] at hsent
      exact ⟨sent, s'.written_close.trans hsent, Or.inr hsends⟩
  · exact ⟨[], s.written_close.trans hnothing, Or.inl rfl⟩
  · split
    · rename_i hs
      rw [hs] at hsent
      exact ⟨sent, hsent, Or.inr hsends⟩
    · rename_i hs
      rw [hs] at hsent
      exact ⟨sent, hsent, Or.inr hsends⟩

/-- What is written for a leg is the head of its hop and then these bytes, or nothing for one that is mute. -/
def Wrote (leg : Leg) (mute : Prop) (written sent : Bytes) : Prop :=
  (mute ∧ written = [] ∧ sent = []) ∨
    written = octets (block (leg.hop.startLine leg.method :: leg.hop.headFields.map Header.text)) ++ sent

/-- **A head comes first and whole**, if it can be written and the stream takes it, and otherwise nothing is written;
    after it comes nothing but the body. -/
theorem sent_of_run (clock : Clock) (jar : Option Jar) (hs : s.written = []) :
    ∃ sent, leg.Wrote (leg.Mute s) (leg.run clock jar s).stream.written sent ∧
      (sent = [] ∨ leg.body.Sends leg.hop.isChunked sent) := by
  rcases leg.ask_head s with ⟨hmute, e, hask⟩ | ⟨b, hprelude, hwritten⟩
  · rw [run, hask]
    exact ⟨[], Or.inl ⟨hmute, hs, rfl⟩, Or.inl rfl⟩
  · rw [hs, List.nil_append, (Hop.prelude_eq hprelude).1] at hwritten
    rcases leg.run_cases clock jar s with
      ⟨e, s', ha, hrun⟩ | ⟨r, s', e, jar', log, ha, _, hrun⟩ | ⟨r, s', jar', log, ha, _, hrun⟩
    · rw [ha] at hwritten
      rw [hrun]
      exact ⟨[], Or.inr (hwritten.trans (List.append_nil _).symm), Or.inl rfl⟩
    · rw [ha] at hwritten
      rw [hrun]
      exact ⟨[], Or.inr (hwritten.trans (List.append_nil _).symm), Or.inl rfl⟩
    · obtain ⟨sent, hsent, hsends⟩ := leg.sent_of_settle r s'
      rw [ha] at hwritten
      rw [hrun]
      exact ⟨sent, Or.inr (hwritten ▸ hsent), hsends⟩

end Leg

/-! ## What a redirect changes

  Three statuses change the method, drop the body and drop the fields that frame it.  All others keep them.  By
  induction a leg has what is left of the request after the redirects before it. -/

/-- **A redirect changes the request exactly when its status says so.** -/
theorem Leg.next?_status {leg : Leg} {r : Response} {next : Redirect} (h : leg.next? r = some next) :
    (becomesGet r.status = true ∧ next.method = "GET".toList ∧ next.body = .empty ∧ next.bodyDropped = true) ∨
      (becomesGet r.status = false ∧ next.method = leg.method ∧ next.body = leg.body ∧
        next.bodyDropped = false) := by
  obtain ⟨hredirect, hbudget, location, hlocation, hjoin⟩ := of_next? h
  have hzero : (leg.budget == 0) = false := beq_eq_false_iff_ne.mpr hbudget
  rw [next?, verdict, hredirect, hzero, hlocation] at h
  dsimp only at h
  rw [hjoin] at h
  cases hstatus : becomesGet r.status with
  | true =>
    rw [hstatus] at h
    rw [← Option.some.inj h]
    exact Or.inl ⟨rfl, rfl, rfl, rfl⟩
  | false =>
    rw [hstatus] at h
    rw [← Option.some.inj h]
    exact Or.inr ⟨rfl, rfl, rfl, rfl⟩

namespace Journey

variable {d : Dispatcher} {clock : Clock} {clocks : Clocks} {j j' : Journey} {leg leg' : Leg} {k : Nat} {method : Text}
  {headers : List Header} {body : Body} {timeouts : Timeouts}

/-- A response that was followed before hop `k` had one of the statuses that go on with GET. -/
def Rewritten (d : Dispatcher) (clocks : Clocks) (j : Journey) (leg : Leg) (k : Nat) : Prop :=
  ∃ i < k, ∃ j' leg' r, Reaches d clocks j leg i j' leg' ∧ j'.answer? d leg' = some r ∧
    (r.status = 301 ∨ r.status = 302 ∨ r.status = 303)

/-- Whether a redirect has rewritten the request by hop `k + 1` is a matter of the hops before `k` and of the
    answer to hop `k`. -/
theorem rewritten_succ {r : Response} (h : Reaches d clocks j leg k j' leg') (hr : j'.answer? d leg' = some r) :
    Rewritten d clocks j leg (k + 1) ↔ Rewritten d clocks j leg k ∨ becomesGet r.status = true := by
  rw [becomesGet_iff]
  constructor
  · rintro ⟨i, hi, j₁, leg₁, r₁, hreach, hr₁, hstatus⟩
    rcases h.lt_or_same hreach hi with hlt | ⟨rfl, rfl, rfl⟩
    · exact Or.inl ⟨i, hlt, j₁, leg₁, r₁, hreach, hr₁, hstatus⟩
    · rw [hr, Option.some.injEq] at hr₁
      exact Or.inr (hr₁ ▸ hstatus)
  · rintro (⟨i, hi, hrest⟩ | hstatus)
    · exact ⟨i, Nat.lt_succ_of_lt hi, hrest⟩
    · exact ⟨k, Nat.lt_succ_self k, j', leg', r, h, hr, hstatus⟩

/-- What a leg has left of the request that the journey began with. -/
structure Keeps (method : Text) (headers : List Header) (timeouts : Timeouts) (body : Body) (rewritten : Prop)
    (leg : Leg) : Prop where
  before : ¬ rewritten → leg.method = method ∧ leg.body = body ∧ leg.hop.callerHeaders = headers
  after : rewritten → leg.method = "GET".toList ∧ leg.body = .empty ∧
    leg.hop.callerHeaders = headers.filter fun h => !Hop.isFraming h
  timeouts : leg.hop.timeouts = timeouts

theorem built_of_step {s : Stream} {r : Response} {next : Redirect} (h : Step d clock j leg j' leg' s r next) :
    Hop.Built leg'.method
      (if next.bodyDropped then leg.hop.callerHeaders.filter fun h => !Hop.isFraming h else leg.hop.callerHeaders)
      .absent leg.hop.timeouts j'.jar next.url leg'.body leg'.hop := by
  rw [h.method, h.body]
  exact Hop.built_of_build h.built

/-- **What is left of a request**, hop by hop. -/
theorem keeps_of_reaches
    (hstart : leg.method = method ∧ leg.body = body ∧ leg.hop.callerHeaders = headers)
    (htimeouts : leg.hop.timeouts = timeouts) (h : Reaches d clocks j leg k j' leg') :
    Keeps method headers timeouts body (Rewritten d clocks j leg k) leg' := by
  induction h with
  | start =>
    refine ⟨fun _ => hstart, ?_, htimeouts⟩
    rintro ⟨i, hi, _⟩
    exact absurd hi (Nat.not_lt_zero i)
  | onward before step ih =>
    rename_i k j₁ j₂ leg₁ leg₂
    obtain ⟨s, r, next, hstep⟩ := onward_inv step
    have hbuilt := built_of_step hstep
    have hmethod := hstep.method
    have hbody := hstep.body
    have hcaller := hbuilt.callerHeaders
    rw [rewritten_succ before (judged?_eq_some_iff.mp hstep.judged).1]
    rcases Leg.next?_status hstep.follows with
      ⟨hstatus, hget, hempty, hdropped⟩ | ⟨hstatus, hsame, hkept, hdropped⟩
    · -- this redirect rewrites: framing fields that are gone already are not dropped twice
      rw [hdropped, if_pos rfl] at hcaller
      refine ⟨fun hnot => absurd (Or.inr hstatus) hnot, ?_, hbuilt.timeouts.trans ih.timeouts⟩
      intro _
      refine ⟨hmethod.trans hget, hbody.trans hempty, ?_⟩
      by_cases hrewritten : Rewritten d clocks j leg k
      · rw [hcaller, (ih.after hrewritten).2.2, List.filter_filter]
        simp only [Bool.and_self]
      · rw [hcaller, (ih.before hrewritten).2.2]
    · -- this redirect replays: all stays as it was
      rw [hdropped, if_neg Bool.false_ne_true] at hcaller
      rw [hsame] at hmethod
      rw [hkept] at hbody
      have hiff : (Rewritten d clocks j leg k ∨ becomesGet r.status = true) ↔ Rewritten d clocks j leg k := by
        rw [hstatus]
        simp
      rw [hiff]
      refine ⟨?_, ?_, hbuilt.timeouts.trans ih.timeouts⟩
      · rw [hmethod, hbody, hcaller]
        exact ih.before
      · rw [hmethod, hbody, hcaller]
        exact ih.after

/-- Why a hop sends no head: no stream was opened for it, its prelude cannot be written, or the stream that was opened
    refuses it. -/
inductive Mute (d : Dispatcher) (j : Journey) (leg : Leg) : Prop
  | unopened (opens : d.opens j.network leg.hop = none)
  | stopped (s : Stream) (opens : d.opens j.network leg.hop = some s) (mute : leg.Mute s)

/-- A hop that sends no head has no answer. -/
theorem Mute.answer? (h : Mute d j leg) : j.answer? d leg = none := by
  rw [Journey.answer?]
  cases h with
  | unopened opens =>
    rw [opens]
    rfl
  | stopped s opens mute =>
    rw [opens, Option.bind_some, Leg.ask]
    cases mute with
    | unwritable e prelude =>
      rw [prelude]
      rfl
    | refused head f prelude write =>
      have hwrite : s.write head = (.error f, (s.write head).2) := Prod.ext write rfl
      rw [prelude]
      dsimp only
      rw [hwrite]
      rfl

/-- What stands on the stream of a hop. -/
theorem sent_of_hop {s' : Stream} (h : (j.hop d clock leg).streams = j.streams ++ [s']) :
    ∃ sent, leg.Wrote (Mute d j leg) s'.written sent ∧ (sent = [] ∨ leg.body.Sends leg.hop.isChunked sent) := by
  cases ho : d.opens j.network leg.hop with
  | none =>
    rcases streams_hop_of_not_opens clock ho with hsame | ⟨s'', hmore, hwritten⟩
    · rw [hsame] at h
      exact absurd h (by simp)
    · -- a stream on which the connection failed has nothing written on it
      rw [hmore, List.append_cancel_left_eq, List.cons.injEq] at h
      exact ⟨[], Or.inl ⟨.unopened ho, h.1 ▸ hwritten, rfl⟩, Or.inl rfl⟩
  | some s =>
    obtain ⟨s'', hmore, hwritten⟩ : ∃ s'', (j.hop d clock leg).streams = j.streams ++ [s''] ∧
        s''.written = (leg.run clock j.jar s).stream.written := streams_hop_of_opens ho
    rw [hmore, List.append_cancel_left_eq, List.cons.injEq] at h
    rw [← h.1, hwritten]
    have hfresh := Dispatcher.written_of_connect (Dispatcher.connect_of_opens ho)
    obtain ⟨sent, hwrote, hsent⟩ := leg.sent_of_run clock j.jar hfresh
    exact ⟨sent, hwrote.imp_left fun ⟨hmute, hnothing⟩ => ⟨.stopped s ho hmute, hnothing⟩, hsent⟩

/-- What a hop leaves on its stream: its head first; or nothing at all, when it sends no head and so has no answer. -/
def HeadFirst (d : Dispatcher) (j : Journey) (leg : Leg) (written : Bytes) : Prop :=
  octets (block (leg.hop.startLine leg.method :: leg.hop.headFields.map Header.text)) <+: written ∨
    (Mute d j leg ∧ j.answer? d leg = none ∧ written = [])

theorem headFirst_of_hop {s' : Stream} (h : (j.hop d clock leg).streams = j.streams ++ [s']) :
    HeadFirst d j leg s'.written := by
  obtain ⟨sent, hwrote, _⟩ := sent_of_hop h
  rcases hwrote with ⟨hmute, hnone, _⟩ | hhead
  · exact Or.inr ⟨hmute, hmute.answer?, hnone⟩
  · exact Or.inl (hhead ▸ List.prefix_append _ _)

theorem HeadFirst.of_answer {written : Bytes} {r : Response} (h : HeadFirst d j leg written)
    (hr : j.answer? d leg = some r) :
    octets (block (leg.hop.startLine leg.method :: leg.hop.headFields.map Header.text)) <+: written := by
  rcases h with hhead | ⟨_, hnone, _⟩
  · exact hhead
  · exact absurd (hnone.symm.trans hr) (by simp)

/-! ## The whole journey

  All hops together, with the answers that led to them. -/

/-- What the hops of a journey ask for that begins with this leg, for a request made from these parts. -/
structure Determined (d : Dispatcher) (clocks : Clocks) (j : Journey) (leg : Leg) (method : Text)
    (headers : List Header) (query : Query) (timeouts : Timeouts) (jar : Option Jar) (url : Url) (body : Body) :
    Prop where
  /-- the first hop asks for what the caller asks for; it alone has the caller's query -/
  first : leg.hop.Asks method headers (url.requestPath ++ url.combineQuery query) jar url body
  /-- a later hop asks for what the location of the response before it resolves to, with the method, the body and
      the caller's fields that it has left, and with the cookies of the jar after that response -/
  later : ∀ k j' leg', Reaches d clocks j leg (k + 1) j' leg' →
    ∃ j₁ leg₁ r location, Reaches d clocks j leg k j₁ leg₁ ∧ j₁.answer? d leg₁ = some r ∧
      r.location? = some location ∧ Url.join leg₁.hop.url location = .ok leg'.hop.url ∧
      leg'.hop.Asks leg'.method leg'.hop.callerHeaders
        (leg'.hop.url.rootedPath ++
          if leg'.hop.url.queryText = [] then [] else '?' :: leg'.hop.url.queryText)
        j'.jar leg'.hop.url leg'.body
  /-- nothing is changed as long as no 301, 302 or 303 was followed -/
  kept : ∀ k j' leg', Reaches d clocks j leg k j' leg' → ¬ Rewritten d clocks j leg k →
    leg'.method = method ∧ leg'.body = body ∧ leg'.hop.callerHeaders = headers
  /-- after one the method is GET, and the body and all that frames it are gone -/
  rewritten : ∀ k j' leg', Reaches d clocks j leg k j' leg' → Rewritten d clocks j leg k →
    leg'.method = "GET".toList ∧ leg'.body = .empty ∧
      leg'.hop.callerHeaders = headers.filter (fun h => !Hop.isFraming h) ∧ leg'.hop.isChunked = false ∧
      ∀ f ∈ leg'.hop.headFields, Hop.isFraming f = false
  timeouts : ∀ k j' leg', Reaches d clocks j leg k j' leg' → leg'.hop.timeouts = timeouts
  /-- what is written on the stream of a hop begins with that head; nothing is written only when no stream was opened
      for the hop, when its head cannot be written or when the stream refuses it -/
  written : ∀ k j' leg' s', Reaches d clocks j leg k j' leg' →
    (j'.hop d (clocks k) leg').streams = j'.streams ++ [s'] → HeadFirst d j' leg' s'.written
  /-- a hop that has an answer has written its head -/
  answered : ∀ k j' leg' s' r, Reaches d clocks j leg k j' leg' → j'.answer? d leg' = some r →
    (j'.hop d (clocks k) leg').streams = j'.streams ++ [s'] →
    octets (block (leg'.hop.startLine leg'.method :: leg'.hop.headFields.map Header.text)) <+: s'.written

/-- What a hop after the first asks for comes from the answer before it. -/
theorem asks_of_reaches (h : Reaches d clocks j leg (k + 1) j' leg') :
    ∃ j₁ leg₁ r location, Reaches d clocks j leg k j₁ leg₁ ∧ j₁.answer? d leg₁ = some r ∧
      r.location? = some location ∧ Url.join leg₁.hop.url location = .ok leg'.hop.url ∧
      leg'.hop.Asks leg'.method leg'.hop.callerHeaders
        (leg'.hop.url.rootedPath ++
          if leg'.hop.url.queryText = [] then [] else '?' :: leg'.hop.url.queryText)
        j'.jar leg'.hop.url leg'.body := by
  cases h with
  | onward before step =>
    obtain ⟨s, r, next, hstep⟩ := onward_inv step
    obtain ⟨_, _, location, hlocation, hjoin⟩ := Leg.of_next? hstep.follows
    have hbuilt := built_of_step hstep
    rw [← hbuilt.callerHeaders, ← hbuilt.url] at hbuilt
    rw [← (built_of_step hstep).url] at hjoin
    exact ⟨_, _, r, location, before, (judged?_eq_some_iff.mp hstep.judged).1, hlocation, hjoin,
      hbuilt.asks_of_join hjoin⟩

/-- **Every hop is determined by the redirects before it.**  For a journey that begins with a hop made by
    `Hop.build` and with the same method and body, whatever the servers answer. -/
theorem run_determined {method : Text} {headers : List Header} {query : Query} {timeouts : Timeouts}
    {jar₀ : Option Jar} {url : Url} {body : Body} {hop : Hop}
    (hbuild : Hop.build method headers query timeouts jar₀ url body = .ok hop) (d : Dispatcher) (clocks : Clocks)
    (network : Network) (jar : Option Jar) (budget : Int) :
    Determined d clocks { network, jar } { hop, method, body, budget } method headers query timeouts jar₀ url body := by
  have hbuilt := Hop.built_of_build hbuild
  have hkeeps : ∀ k j' leg', Reaches d clocks { network, jar } { hop, method, body, budget } k j' leg' →
      Keeps method headers timeouts body (Rewritten d clocks { network, jar } { hop, method, body, budget } k) leg' := by
    intro k j' leg' h
    exact keeps_of_reaches ⟨rfl, rfl, hbuilt.callerHeaders⟩ hbuilt.timeouts h
  refine ⟨hbuilt.asks, fun k j' leg' => asks_of_reaches, ?kept, ?rewritten, ?timeouts, ?written, ?answered⟩
  case kept =>
    intro k j' leg' h hnot
    exact (hkeeps k j' leg' h).before hnot
  case rewritten =>
    intro k j' leg' h hrewritten
    obtain ⟨hmethod, hempty, hcaller⟩ := (hkeeps k j' leg' h).after hrewritten
    -- a hop that comes after a response is not the first one
    cases k with
    | zero =>
      obtain ⟨i, hi, _⟩ := hrewritten
      exact absurd hi (Nat.not_lt_zero i)
    | succ k =>
      obtain ⟨_, _, _, _, _, _, _, _, hasks⟩ := asks_of_reaches h
      have hchunked := hasks.isChunked
      rw [hcaller, Hop.asksChunked_unframed] at hchunked
      refine ⟨hmethod, hempty, hcaller, hchunked, hasks.unframed ?_ (by rw [hempty]; rfl)⟩
      intro f hf
      rw [hcaller] at hf
      have hfree := (List.mem_filter.mp hf).2
      rw [Bool.not_eq_true'] at hfree
      exact hfree
  case timeouts =>
    intro k j' leg' h
    exact (hkeeps k j' leg' h).timeouts
  case written =>
    intro k j' leg' s' _ hstreams
    exact headFirst_of_hop hstreams
  case answered =>
    intro k j' leg' s' r _ hr hstreams
    exact (headFirst_of_hop hstreams).of_answer hr

/-- A server that sends a request on with GET, and then once more as it is. -/
def rewritingNetwork : Network :=
  { answers := ["HTTP/1.1 303 See Other\r\nLocation: /b?c\r\n\r\n", "HTTP/1.1 307 Again\r\nLocation: /d\r\n\r\n",
      "HTTP/1.1 200 OK\r\n\r\n"].map fun s => { script := [.bytes (s.toList.map fun c => c.toNat.toUInt8)] } }

/-- The first leg of a request in chunks. -/
def chunkedLeg : Leg :=
  { hop := { url := { scheme := "http".toList, rawHost := "h".toList, path := "/a".toList }
             isChunked := true, isHead := false, hostname := "h".toList, query := "?q=1".toList
             headers := [{ name := "transfer-Encoding".toList, value := "chunked".toList }]
             callerHeaders := [{ name := "transfer-Encoding".toList, value := "chunked".toList }], timeouts := {} }
    method := "POST".toList, body := .ofBytes [97], budget := 5 }

/-- What is left of such a request two hops later. -/
theorem run_determined_of_rewrite :
    Hop.build "POST".toList chunkedLeg.hop.callerHeaders (.encoded "q=1".toList) {} (some {}) chunkedLeg.hop.url
      chunkedLeg.body = .ok chunkedLeg.hop ∧
    Determined { routes := [("http".toList, .scripted)] } (.still 0) { network := rewritingNetwork, jar := some {} }
      chunkedLeg "POST".toList chunkedLeg.hop.callerHeaders (.encoded "q=1".toList) {} (some {}) chunkedLeg.hop.url
      chunkedLeg.body ∧
    ∃ j' leg', Reaches { routes := [("http".toList, .scripted)] } (.still 0)
        { network := rewritingNetwork, jar := some {} } chunkedLeg 2 j' leg' ∧
      leg'.hop.startLine leg'.method = "GET /d HTTP/1.1".toList ∧
      leg'.hop.headFields = [{ name := "Host".toList, value := "h".toList }] := by
  have hbuild : Hop.build "POST".toList chunkedLeg.hop.callerHeaders (.encoded "q=1".toList) {} (some {})
      chunkedLeg.hop.url chunkedLeg.body = .ok chunkedLeg.hop := rfl
  refine ⟨hbuild, run_determined hbuild _ _ _ _ 5, ?_⟩
  have hrun : ((hop { routes := [("http".toList, .scripted)] } (.still 0)
        { network := rewritingNetwork, jar := some {} } chunkedLeg).onward?.any fun x =>
      (x.1.hop { routes := [("http".toList, .scripted)] } (.still 0) x.2).onward?.any fun y =>
        decide (y.2.hop.startLine y.2.method = "GET /d HTTP/1.1".toList ∧
          y.2.hop.headFields = [{ name := "Host".toList, value := "h".toList }])) = true := by
    decide +kernel
  rw [Option.any_eq_true] at hrun
  obtain ⟨⟨j₁, leg₁⟩, hfirst, hrun⟩ := hrun
  rw [Option.any_eq_true] at hrun
  obtain ⟨⟨j₂, leg₂⟩, hsecond, hrun⟩ := hrun
  rw [Progress.onward?_eq_some_iff] at hfirst hsecond
  exact ⟨j₂, leg₂, (Reaches.start.onward hfirst).onward hsecond, of_decide_eq_true hrun⟩

end Journey

end Courier
