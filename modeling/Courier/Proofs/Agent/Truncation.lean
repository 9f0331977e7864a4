/-
  How much of a body is kept.

  Reading up to a limit stops at the first byte beyond it, and what comes behind that byte, be it a failure, is not
  looked at.  So the result is settled by the bytes that come out of the body and by how it ends, and not by the
  pieces that the bytes come in.

  1. **Reading** (`Response.drainUpTo_eq`, `Response.readUpTo_eq`): by induction along the recursion of the reading,
     with what was read before as a parameter.  The invariant is that it is within the limit, so there is room for
     the next piece or the piece goes beyond it.  Only in the second case is the piece cut.

  2. **The stream** (`Journey.brings_of_hop`): what comes out of the body is what the bytes on the stream of the
     last hop carry.  A hop writes on its stream before it reads, and it writes again when it settles, so it has to
     be seen that neither changes what is to arrive (`Body.incoming_writeAll`, `Leg.incoming_settle`).  A hop for
     the head alone reads no body (`Response.nothing_of_isHead`).

  3. **The reply** (`Agent.Truncates`, `Agent.truncates_of_send`): content, flag and failure of a request, with the
     limit of its agent.  Together with the stream of the last hop this is the statement about all requests
     (`Agent.truncates`).

  There are three outcomes, and which of them it is depends on two questions: whether more bytes come than the
  limit, and whether the body ends.  The second is asked only when the answer to the first is no.
-/
import Courier.Proofs.Agent.Budget
import Courier.Proofs.Agent.Framing
import Courier.Proofs.Agent.Closing
import Courier.Proofs.Response.Partial

namespace Courier

/-! ## Reading up to a limit

  The reading has three states: it was cut, it has ended, or it has failed.  Which of them it comes to is decided by
  the number of bytes first. -/

namespace Response

variable {r r' : Response} {cursor : Cursor}

/-- All pieces that are collected are those that the iteration hands out. -/
theorem eq_gather_of_drainFrom {pieces ps : List Bytes} (h : (r.drainFrom cursor pieces).1 = .ok ps) :
    ps = pieces.reverse ++ r.gather cursor := by
  fun_induction drainFrom r cursor pieces with
  | case1 r cursor pieces e c r' hnext => exact absurd h (by simp)
  | case2 r cursor pieces c r' hnext =>
    rw [gather_eq, hnext, List.append_nil]
    exact (Except.ok.inj h).symm
  | case3 r cursor pieces b c r' hnext hlt ih =>
    rw [ih h, gather_eq r, hnext, List.reverse_cons, List.append_assoc]
    rfl

theorem drainFrom_eq (r : Response) (cursor : Cursor) (pieces : List Bytes) :
    r.drainFrom cursor pieces = match r.next cursor with
      | (.error e, _, r') => (.error e, r')
      | (.ok none, _, r') => (.ok pieces.reverse, r')
      | (.ok (some b), c, r') => r'.drainFrom c (b :: pieces) := by
  rw [drainFrom]
  split <;> (rename_i h; simp only [h])

/-- The content of what was read up to a limit, and whether more came. -/
def kept (x : List Bytes × Nat × Bool) : Bytes × Bool := (x.1.reverse.flatten, x.2.2)

/-- **Reading on up to a limit**: beyond it, what was there and the front of what comes; else all of it, if it ends. -/
theorem drainUpTo_eq (r : Response) (cursor : Cursor) (limit : Nat) (pieces : List Bytes) (size : Nat)
    (hsize : size ≤ limit) :
    (r.drainUpTo cursor limit pieces size).1.map kept =
      if limit - size < (r.gather cursor).flatten.length then
        .ok (pieces.reverse.flatten ++ (r.gather cursor).flatten.take (limit - size), true)
      else (r.drainFrom cursor pieces).1.map fun ps => (ps.flatten, false) := by
  fun_induction drainUpTo r cursor limit pieces size with
  | case1 r cursor pieces size e c r' hnext =>
    have hnone : r.gather cursor = [] := by rw [gather_eq, hnext]
    have hdrain : r.drainFrom cursor pieces = (.error e, r') := by rw [drainFrom_eq, hnext]
    rw [hnone, hdrain, List.flatten_nil, List.length_nil, if_neg (Nat.not_lt_zero _)]
    rfl
  | case2 r cursor pieces size c r' hnext =>
    have hnone : r.gather cursor = [] := by rw [gather_eq, hnext]
    have hdrain : r.drainFrom cursor pieces = (.ok pieces.reverse, r') := by rw [drainFrom_eq, hnext]
    rw [hnone, hdrain, List.flatten_nil, List.length_nil, if_neg (Nat.not_lt_zero _)]
    rfl
  | case3 r cursor pieces size b c r' hnext hbeyond =>
    -- the piece goes beyond the limit, whatever follows it
    have hmore : r.gather cursor = b :: r'.gather c := by rw [gather_eq, hnext]
    rw [hmore, List.flatten_cons, List.length_append, if_pos (by omega), List.take_append_of_le_length (by omega)]
    show Except.ok ((b.take (limit - size) :: pieces).reverse.flatten, true) = _
    rw [List.reverse_cons, List.flatten_append, List.flatten_singleton]
  -- the piece is within the limit, so the rest has what it leaves of it
  | case4 r cursor pieces size b c r' hnext hwithin hlt ih =>
    have hmore : r.gather cursor = b :: r'.gather c := by rw [gather_eq, hnext]
    have hdrain : r.drainFrom cursor pieces = r'.drainFrom c (b :: pieces) := by rw [drainFrom_eq, hnext]
    have hrest : limit - (size + b.length) < (r'.gather c).flatten.length ↔
        limit - size < (b ++ (r'.gather c).flatten).length := by
      rw [List.length_append]
      omega
    rw [ih (by omega), hmore, List.flatten_cons, hdrain]
    by_cases hlong : limit - size < (b ++ (r'.gather c).flatten).length
    · rw [if_pos hlong, if_pos (hrest.mpr hlong), List.reverse_cons, List.flatten_append, List.flatten_singleton,
        List.append_assoc, List.take_append, List.take_of_length_le (by omega : b.length ≤ limit - size),
        Nat.sub_sub]
    · rw [if_neg hlong, if_neg fun h => hlong (hrest.mp h)]

/-- **Reading up to a limit** is settled by the bytes that come out of the body, and by whether it ends. -/
theorem readUpTo_eq (r : Response) (limit : Nat) :
    (r.readUpTo limit).1 =
      if limit < (r.gather .fresh).flatten.length then .ok ((r.gather .fresh).flatten.take limit, true)
      else r.chunks.1.map fun _ => ((r.gather .fresh).flatten, false) := by
  have hread : (r.readUpTo limit).1 = (r.drainUpTo .fresh limit [] 0).1.map kept := by
    rw [readUpTo]
    rcases r.drainUpTo .fresh limit [] 0 with ⟨e | ⟨ps, n, more⟩, r'⟩
    · rfl
    · rfl
  rw [hread, drainUpTo_eq r .fresh limit [] 0 (Nat.zero_le _), Nat.sub_zero]
  -- beyond the limit the end of the body does not matter
  split
  · rfl
  · show r.chunks.1.map _ = _
    rcases hchunks : r.chunks with ⟨e | ps, r'⟩
    · rfl
    · have hps : ps = r.gather .fresh := eq_gather_of_drainFrom (congrArg Prod.fst hchunks)
      rw [← hps]
      rfl

end Response

/-! ## The stream of the last hop

  Between opening a stream and reading the body from it a hop writes and reads a head.  What is to arrive is changed
  only by the second. -/

theorem Stream.incoming_write (s : Stream) (data : Bytes) : (s.write data).2.incoming = s.incoming := by
  rw [write]
  split
  · rfl
  · rw [writeRaw]
    split <;> rfl

/-- Writing all frames of a body leaves what is to arrive. -/
theorem Body.incoming_writeAll (script : Script) (s : Stream) : (writeAll s script).2.incoming = s.incoming := by
  induction script generalizing s with
  | nil => rfl
  | cons p rest ih =>
    cases p with
    | fault f => rfl
    | bytes b =>
      have hwrite := s.incoming_write b
      rw [writeAll]
      rcases hw : s.write b with ⟨f | _, s'⟩
      · rw [hw] at hwrite
        exact hwrite
      · rw [hw] at hwrite
        exact (ih s').trans hwrite

/-- Settling writes, and leaves what is to arrive. -/
theorem Leg.incoming_settle (leg : Leg) (r : Response) (s : Stream) : (leg.settle r s).2.1.incoming = s.incoming := by
  have hsend : (leg.body.send leg.hop.isChunked s).2.incoming = s.incoming := Body.incoming_writeAll _ s
  rw [settle]
  split
  · rfl
  · rfl
  · split
    · rename_i hs
      rw [hs] at hsend
      exact hsend
    · rename_i hs
      rw [hs] at hsend
      exact (Stream.incoming_close _).trans hsend
  · exact s.incoming_close
  · split
    · rename_i hs
      rw [hs] at hsend
      exact hsend
    · rename_i hs
      rw [hs] at hsend
      exact hsend

/-- Nothing comes out of the answer to a request for the head alone. -/
theorem Response.nothing_of_isHead {r : Response} (h : r.isHead = true) :
    (r.gather .fresh).flatten = [] ∧ ∃ ps, r.chunks.1 = .ok ps := by
  have hnone : ∃ c r', r.next .fresh = (.ok none, c, r') := by
    rcases r.next_cases .fresh with ⟨_, hnext⟩ | ⟨s, _, hnext⟩
    · exact ⟨_, _, hnext⟩
    · rw [resume, if_pos h] at hnext
      exact ⟨_, _, hnext⟩
  obtain ⟨c, r', hnext⟩ := hnone
  rw [gather_eq, chunks, drainFrom_eq, hnext]
  exact ⟨rfl, _, rfl⟩

/-- What comes out of the body of the answer that these bytes and faults give a leg.  One that asks for the head alone
    is given no body. -/
def Leg.Brings (leg : Leg) (s : Stream) (got : Bytes) (complete : Prop) : Prop :=
  if lower leg.method = "head".toList then got = [] ∧ complete
  else s.incoming.Brings (upper leg.method) got complete

namespace Journey

variable {d : Dispatcher} {clock : Clock} {clocks : Clocks} {j j' : Journey} {leg leg' : Leg} {i : Nat}
  {arrival : Arrival} {response : Response}

/-- A hop knows whether its method asks for the head alone. -/
theorem isHead_of_reaches (hstart : leg.hop.isHead = (lower leg.method == "head".toList))
    (h : Reaches d clocks j leg i j' leg') : leg'.hop.isHead = (lower leg'.method == "head".toList) := by
  induction h with
  | start => exact hstart
  | onward before step ih =>
    obtain ⟨s, r, next, hstep⟩ := onward_inv step
    exact (built_of_step hstep).isHead

/-- **The last hop**: what comes out of the response is what the stream that the hop opened brings. -/
theorem brings_of_hop (hhead : leg.hop.isHead = (lower leg.method == "head".toList))
    (h : j.hop d clock leg = .arrived arrival) (hr : arrival.result = .ok response) :
    ∃ s, d.opens j.network leg.hop = some s ∧
      leg.Brings s (response.gather .fresh).flatten (∃ ps, response.chunks.1 = .ok ps) := by
  cases arrives_of_hop h with
  | unopened e _ _ hresult _ => exact absurd (hr.symm.trans hresult) (by simp)
  | failed s e _ _ hresult _ => exact absurd (hr.symm.trans hresult) (by simp)
  | stranded s next e _ _ _ hresult _ => exact absurd (hr.symm.trans hresult) (by simp)
  -- an answer was read: the other ways of ending have none
  | returned s x ho hout hresult _ =>
    obtain rfl := Except.ok.inj (hr.symm.trans hresult)
    obtain ⟨r, s', _, hask, _, hsettle⟩ := judged?_of_run_ok ho hout
    obtain ⟨_, rfl⟩ := Leg.settle_final hsettle
    refine ⟨s, ho, ?_⟩
    rw [Leg.Brings]
    split
    · -- a request for the head alone
      rename_i hmethod
      have hbody : leg.hop.isHead = true := by
        rw [hhead]
        exact beq_iff_eq.mpr hmethod
      exact Response.nothing_of_isHead hbody
    · rename_i hmethod
      have hbody : leg.hop.isHead = false := by
        rw [hhead]
        exact beq_false_of_ne hmethod
      rw [hbody]
      rw [Leg.ask] at hask
      split at hask
      · exact absurd hask (by simp)
      · rename_i head _
        have hwrite := s.incoming_write head
        split at hask
        · exact absurd hask (by simp)
        · rename_i s₁ hw
          rw [hw] at hwrite
          rw [← hwrite]
          exact Response.brings_attach hask (leg.incoming_settle r s')

end Journey

namespace Agent

variable {a : Agent} {clocks : Journey.Clocks} {r : Request} {hop : Hop} {i : Nat} {arrival : Arrival}
  {response : Response}

/-! ## The reply

  A reply holds the content, the flag and the numbers, and all of them come from one reading. -/

theorem limit_send (a : Agent) (clocks : Journey.Clocks) (r : Request) : (a.send clocks r).agent.limit = a.limit := by
  rw [send]
  split
  · rfl
  · rfl

theorem request_of_read {content : Bytes} {truncated : Bool} (h : (a.send clocks r).result = .ok response)
    (hread : (response.readUpTo a.limit).1 = .ok (content, truncated)) :
    ∃ reply, (a.request clocks r).result = .ok reply ∧ reply.content = content ∧ reply.truncated = truncated ∧
      reply.bytesRead = content.length ∧ reply.limit = a.limit := by
  rw [request, h]
  dsimp only
  rw [readReply]
  dsimp only
  rw [limit_send, hread]
  exact ⟨_, rfl, rfl, rfl, rfl, rfl⟩

/-- A failure of the reading is one of the request. -/
theorem request_of_read_error {e : Failure} (h : (a.send clocks r).result = .ok response)
    (hread : (response.readUpTo a.limit).1 = .error e) : (a.request clocks r).result = .error e := by
  rw [request, h]
  dsimp only
  rw [readReply]
  dsimp only
  rw [limit_send, hread]
  rfl

/-- A request keeps these bytes of a body up to its limit, and says whether there were more; it fails when they are
    within the limit and no end of the body comes. -/
structure Truncates (a : Agent) (clocks : Journey.Clocks) (r : Request) (d : Bytes) (complete : Prop) : Prop where
  beyond : a.limit < d.length →
    ∃ reply, (a.request clocks r).result = .ok reply ∧ reply.content = d.take a.limit ∧ reply.truncated = true
  within : d.length ≤ a.limit → complete →
    ∃ reply, (a.request clocks r).result = .ok reply ∧ reply.content = d ∧ reply.truncated = false
  broken : d.length ≤ a.limit → ¬ complete → ∃ e, (a.request clocks r).result = .error e
  counted : ∀ reply, (a.request clocks r).result = .ok reply →
    reply.bytesRead = reply.content.length ∧ reply.bytesRead ≤ a.limit ∧ reply.limit = a.limit

/-- What reading up to the limit comes to is what the request comes to. -/
theorem truncates_of_send (h : (a.send clocks r).result = .ok response) :
    a.Truncates clocks r (response.gather .fresh).flatten (∃ ps, response.chunks.1 = .ok ps) := by
  have hread := response.readUpTo_eq a.limit
  constructor
  case beyond =>
    intro hlong
    rw [if_pos hlong] at hread
    obtain ⟨reply, hreply, hcontent, htruncated, _⟩ := request_of_read h hread
    exact ⟨reply, hreply, hcontent, htruncated⟩
  case within =>
    rintro hshort ⟨ps, hps⟩
    rw [if_neg (Nat.not_lt_of_le hshort), hps] at hread
    obtain ⟨reply, hreply, hcontent, htruncated, _⟩ := request_of_read h hread
    exact ⟨reply, hreply, hcontent, htruncated⟩
  case broken =>
    -- within the limit, the failure of the body is the failure of the reading
    intro hshort hbroken
    rw [if_neg (Nat.not_lt_of_le hshort)] at hread
    cases hchunks : response.chunks.1 with
    | ok ps => exact absurd ⟨ps, hchunks⟩ hbroken
    | error e =>
      rw [hchunks] at hread
      exact ⟨e, request_of_read_error h hread⟩
  case counted =>
    intro reply hreply
    rcases hkept : (response.readUpTo a.limit).1 with e | ⟨content, truncated⟩
    · rw [request_of_read_error h hkept] at hreply
      exact absurd hreply (by simp)
    · obtain ⟨reply', hreply', hcontent, _, hcount, hlimit⟩ := request_of_read h hkept
      obtain rfl := Except.ok.inj (hreply.symm.trans hreply')
      rw [hcount, hcontent]
      refine ⟨rfl, ?_, hlimit⟩
      -- what is kept is the front of the body, or all of a body within the limit
      rw [hkept] at hread
      split at hread
      · rw [(Prod.mk.inj (Except.ok.inj hread)).1]
        exact List.length_take_le _ _
      · rename_i hshort
        cases hchunks : response.chunks.1 with
        | error e =>
          rw [hchunks] at hread
          exact absurd hread (by simp [Except.map])
        | ok ps =>
          rw [hchunks] at hread
          rw [(Prod.mk.inj (Except.ok.inj hread)).1]
          exact Nat.le_of_not_lt hshort

/-- **Truncation is exact.**  Let a request come to a response.  Then what comes out of its body is what the bytes on
    the stream of the last hop carry, however they are cut into reads, and the request keeps exactly these bytes when
    they are within its limit and the body ends, the first of them up to the limit when they are more, and fails when
    they are within the limit and the body does not end. -/
theorem truncates (h : a.prepare r = .ok hop)
    (hends : Journey.Ends a.dispatcher clocks a.journey (a.leg r hop) i arrival) (hr : arrival.result = .ok response) :
    ∃ j leg s, Journey.Reaches a.dispatcher clocks a.journey (a.leg r hop) i j leg ∧
      a.dispatcher.opens j.network leg.hop = some s ∧
      leg.Brings s (response.gather .fresh).flatten (∃ ps, response.chunks.1 = .ok ps) ∧
      a.Truncates clocks r (response.gather .fresh).flatten (∃ ps, response.chunks.1 = .ok ps) := by
  have hsend : (a.send clocks r).result = .ok response := (send_of_ends h hends).1.trans hr
  obtain ⟨j, leg, hreach, hhop⟩ := hends
  obtain ⟨url, headers, _, _, hbuild⟩ := of_prepare h
  have hhead := Journey.isHead_of_reaches (Hop.built_of_build hbuild).isHead hreach
  obtain ⟨s, ho, hbrings⟩ := Journey.brings_of_hop hhead hhop hr
  exact ⟨j, leg, s, hreach, ho, hbrings, truncates_of_send hsend⟩

/-- An agent that keeps three bytes, before a server whose second chunk is none. -/
def sparing : Agent :=
  .ofSettings { maxBodyBytes := 3 } { answers := [{ script := [
    .bytes (octets "HTTP/1.1 200 OK\r\nTransfer-Encoding: chunked\r\n\r\n4\r\nab".toList),
    .bytes (octets "cd\r\nzz\r\n".toList)] }] }

/-- Three bytes of four are kept, though the body does not end. -/
theorem truncates_of_sparing :
    ∃ hop arrival response, sparing.prepare plainRequest = .ok hop ∧
      Journey.Ends sparing.dispatcher (.still 0) sparing.journey (sparing.leg plainRequest hop) 0 arrival ∧
      arrival.result = .ok response ∧ ¬ (∃ ps, response.chunks.1 = .ok ps) ∧
      ∃ reply, (sparing.request (.still 0) plainRequest).result = .ok reply ∧ reply.content = [97, 98, 99] ∧
        reply.truncated = true := by
  have hrun : ((sparing.prepare plainRequest).toOption.any fun hop =>
      match sparing.journey.hop sparing.dispatcher (.still 0) (sparing.leg plainRequest hop) with
      | .onward _ _ => false
      | .arrived arrival => arrival.result.toOption.any fun response =>
        decide ((response.gather .fresh).flatten = [97, 98, 99, 100] ∧ response.chunks.1.toOption = none)) = true := by
    decide +kernel
  rw [Option.any_eq_true] at hrun
  obtain ⟨hop, hprepare, hrun⟩ := hrun
  rw [toOption_eq_some_iff] at hprepare
  cases hhop : sparing.journey.hop sparing.dispatcher (.still 0) (sparing.leg plainRequest hop) with
  | onward j leg =>
    rw [hhop] at hrun
    exact absurd hrun Bool.false_ne_true
  | arrived arrival =>
    rw [hhop, Option.any_eq_true] at hrun
    obtain ⟨response, hr, hrun⟩ := hrun
    rw [toOption_eq_some_iff] at hr
    obtain ⟨hcame, hbroken⟩ := of_decide_eq_true hrun
    have hends : Journey.Ends sparing.dispatcher (.still 0) sparing.journey (sparing.leg plainRequest hop) 0 arrival :=
      ⟨_, _, .start, hhop⟩
    obtain ⟨j, leg, s, _, _, _, htruncates⟩ := truncates hprepare hends hr
    rw [hcame] at htruncates
    obtain ⟨reply, hreply, hcontent, htruncated⟩ := htruncates.beyond (by decide)
    refine ⟨hop, arrival, response, hprepare, hends, hr, ?_, reply, hreply, hcontent, htruncated⟩
    rintro ⟨ps, hps⟩
    rw [hps] at hbroken
    exact absurd hbroken (by simp [Except.toOption])

end Agent

end Courier
