/-
  Methods that are no tokens.

  A method goes into the request line as it is, and is looked at only afterwards: by the reader of the answer, in
  upper case.  So whether a journey writes anything has nothing to do with its method being a token.  It depends on
  whether the first head goes out at all (`Journey.Departs`): on a stream that takes it, and with all its characters
  in Latin-1.  If it does, the method is on the wire before anybody has judged it.

  For a method that is no token the judgement nearly always follows: the hop fails and writes no more.  In upper
  case the sharp s is two letters, though, so a method that is a token but for sharp s passes for one
  (`Journey.PassesForToken`).

  1. A method stands in front of a head, and the rest of the head does not depend on it
     (`Hop.preludeText_eq_append`).  So of a method it takes no more than characters that can be written for its
     head to go out (`Leg.departs_iff`).

  2. A head that has gone out stays in front of all that its leg writes (`Leg.Departs.head_prefix`), and the stream
     stays with the journey to its end (`Departs.written`).  Without a head the first hop is the last one and
     nothing is written (`hop_of_not_departs`).  From these two comes the equivalence of `silent_iff`.

  3. Behind a head that has gone out, the answer is asked for with the method in upper case, and a method that is
     no token then is refused before a byte is read (`hop_of_refused`).

  `Unchecked` has all of this for every method, hop, body and budget, and whatever the network does.  The last
  theorem is a method that is a whole request and the beginning of another one.
-/
import Courier.Proofs.Journey.Delivery
import Courier.Proofs.Journey.Requests
import Courier.Proofs.Text.Upper

namespace Courier

/-! ## One leg

  The method is looked at when the head of the answer is to be read, and not before it is written. -/

/-- A method that is no token in upper case is refused, on whatever ground comes first. -/
theorem Response.checkRequest_of_not_token (url : Url) {method : Text} (h : Header.isToken (upper method) = false) :
    ∃ e, checkRequest url method = .error e := by
  rw [checkRequest]
  cases url.hostHeader with
  | error e => exact ⟨_, rfl⟩
  | ok host =>
    dsimp only
    cases Narrow.ascii.write (upper method) with
    | error e => exact ⟨_, rfl⟩
    | ok b =>
      rw [h]
      exact ⟨_, rfl⟩

theorem Response.checkRequest_of_token_upper {url : Url} {host : Text} (hhost : url.hostHeader = .ok host)
    {method : Text} (h : Header.isToken (upper method) = true) : checkRequest url method = .ok (upper method) := by
  have hascii : ∀ c ∈ upper method, Narrow.ascii.holds c = true := fun c hc =>
    Narrow.holds_of_isAscii (isAscii_of_isVisible (isVisible_of_isTokenChar ((isToken_iff.mp h).2 c hc)))
  rw [checkRequest, hhost]
  dsimp only
  rw [Narrow.write_of_holds hascii, h]
  rfl

/-! ## What goes out

  A head can be written when its text is in Latin-1.  The method is a part of that text and is held to nothing else. -/

/-- A method stands in front of a head, and the rest of the head does not depend on it. -/
theorem Hop.preludeText_eq_append (hop : Hop) (method : Text) :
    hop.preludeText method = (hop.preludeText []).map (method ++ ·) := by
  rw [preludeText, preludeText]
  cases hop.hostLine with
  | error e => rfl
  | ok host =>
    show Except.ok _ = Except.ok _
    simp only [requestLine, List.append_assoc, List.nil_append, List.cons_append]

/-- A head can be written if its text is in Latin-1. -/
theorem Hop.exists_prelude_iff_text {hop : Hop} {method : Text} :
    (∃ b, hop.prelude method = .ok b) ↔
      ∃ text, hop.preludeText method = .ok text ∧ ∀ c ∈ text, Narrow.latin1.holds c = true := by
  constructor
  · rintro ⟨b, hb⟩
    obtain ⟨text, htext, hb⟩ := exists_of_bind_eq_ok hb
    split at hb
    · rename_i hwritten
      exact ⟨text, htext, (Narrow.of_write hwritten).1⟩
    · cases hb
  · rintro ⟨text, htext, hholds⟩
    refine ⟨octets text, ?_⟩
    rw [prelude, htext]
    dsimp only [bind, Except.bind]
    rw [Narrow.write_of_holds hholds]
    rfl

/-- A head can be written if its method is in Latin-1 and the rest of it can be written. -/
theorem Hop.exists_prelude_iff {hop : Hop} {method : Text} :
    (∃ b, hop.prelude method = .ok b) ↔
      (∀ c ∈ method, Narrow.latin1.holds c = true) ∧ ∃ b, hop.prelude [] = .ok b := by
  rw [exists_prelude_iff_text, exists_prelude_iff_text, hop.preludeText_eq_append]
  constructor
  · -- the text is the method and then the rest, and both can be written
    rintro ⟨text, htext, hholds⟩
    cases hrest : hop.preludeText [] with
    | error e =>
      rw [hrest] at htext
      cases htext
    | ok rest =>
      rw [hrest] at htext
      rw [← Except.ok.inj htext, List.forall_mem_append] at hholds
      exact ⟨hholds.1, rest, rfl, hholds.2⟩
  · rintro ⟨hmethod, rest, hrest, hholds⟩
    rw [hrest]
    exact ⟨method ++ rest, rfl, List.forall_mem_append.mpr ⟨hmethod, hholds⟩⟩

/-- Data that is there is taken by a stream whose next write is not to fail. -/
theorem Stream.exists_write_iff {s : Stream} {data : Bytes} (hne : data ≠ []) :
    (∃ s', s.write data = (.ok (), s')) ↔ ∀ f, s.writeFault ≠ some (0, f) := by
  rw [write, if_neg (by rwa [List.isEmpty_iff]), writeRaw]
  split
  · -- the next write is to fail
    rename_i f hfault
    constructor
    · rintro ⟨_, h⟩
      cases h
    · exact fun h => absurd hfault (h f)
  · rename_i n f hfault
    refine ⟨fun _ g hg => ?_, fun _ => ⟨_, rfl⟩⟩
    rw [hfault] at hg
    cases hg
  · rename_i hfault
    refine ⟨fun _ g hg => ?_, fun _ => ⟨_, rfl⟩⟩
    rw [hfault] at hg
    cases hg

namespace Leg

variable {leg : Leg} {clock : Clock} {clocks : Clocks} {jar : Option Jar} {s : Stream}

/-- The head of a leg can be written, and the stream takes it. -/
def Departs (leg : Leg) (s : Stream) : Prop :=
  ∃ head s', leg.hop.prelude leg.method = .ok head ∧ s.write head = (.ok (), s')

/-- A head that goes out is all that is written before the answer is read. -/
theorem Departs.ask (h : leg.Departs s) (hs : s.written = []) :
    ∃ s', s'.written = leg.head ∧ leg.ask s = Response.beginRead s' leg.hop.url leg.method := by
  obtain ⟨head, s', hprelude, hwrite⟩ := h
  refine ⟨s', ?_, ?_⟩
  · rw [Leg.head, hprelude]
    rcases s.written_write_cases head with ⟨s'', hwrite', hwritten⟩ | ⟨f, hwrite'⟩
    · rw [hwrite, Prod.mk.injEq] at hwrite'
      rw [hwrite'.2, hwritten, hs]
      rfl
    · rw [hwrite, Prod.mk.injEq] at hwrite'
      cases hwrite'.1
  · rw [Leg.ask, hprelude]
    dsimp only
    rw [hwrite]

theorem ask_of_not_departs (h : ¬ leg.Departs s) : ∃ e, leg.ask s = (.error e, s) := by
  rw [ask]
  cases hprelude : leg.hop.prelude leg.method with
  | error e => exact ⟨e, rfl⟩
  | ok head =>
    dsimp only
    rcases s.written_write_cases head with ⟨s', hwrite, _⟩ | ⟨f, hwrite⟩
    · exact absurd ⟨head, s', hprelude, hwrite⟩ h
    · rw [hwrite]
      exact ⟨_, rfl⟩

/-- What has gone out stays in front of all that the leg writes. -/
theorem Departs.head_prefix (h : leg.Departs s) (hs : s.written = []) (clock : Clock) (jar : Option Jar) :
    leg.head <+: (leg.run clock jar s).stream.written := by
  obtain ⟨s₁, hwritten, hask⟩ := h.ask hs
  have hasked : (leg.ask s).2.written = leg.head := by
    rw [hask, (Response.reads_beginRead s₁ leg.hop.url leg.method).frames.written, hwritten]
  rcases leg.run_cases clock jar s with
    ⟨e, s', ha, hrun⟩ | ⟨r, s', e, jar', log, ha, _, hrun⟩ | ⟨r, s', jar', log, ha, _, hrun⟩
  · rw [ha] at hasked
    rw [hrun]
    exact hasked ▸ List.prefix_rfl
  · rw [ha] at hasked
    rw [hrun]
    exact hasked ▸ List.prefix_rfl
  · rw [ha] at hasked
    rw [hrun, ← hasked]
    exact (leg.later_settle r s').written

theorem method_prefix_of_prelude {head : Bytes} (h : leg.hop.prelude leg.method = .ok head) :
    octets leg.method <+: head ∧ head ≠ [] := by
  have hhead := (Hop.prelude_eq h).1
  rw [block, List.flatMap_cons, Hop.startLine] at hhead
  simp only [List.append_assoc, List.cons_append] at hhead
  rw [hhead, octets_append, octets_cons]
  exact ⟨List.prefix_append _ _, List.append_ne_nil_of_right_ne_nil _ (List.cons_ne_nil _ _)⟩

theorem Departs.method_prefix (h : leg.Departs s) : octets leg.method <+: leg.head ∧ leg.head ≠ [] := by
  obtain ⟨head, s', hprelude, _⟩ := h
  rw [Leg.head, hprelude]
  exact method_prefix_of_prelude hprelude

/-- **What it takes for a head to go out.**  Of the method it takes no more than characters that can be written. -/
theorem departs_iff : leg.Departs s ↔
    (∀ c ∈ leg.method, Narrow.latin1.holds c = true) ∧ (∃ b, leg.hop.prelude [] = .ok b) ∧
      ∀ f, s.writeFault ≠ some (0, f) := by
  rw [← and_assoc, ← Hop.exists_prelude_iff]
  constructor
  · rintro ⟨head, s', hprelude, hwrite⟩
    exact ⟨⟨head, hprelude⟩, (Stream.exists_write_iff (method_prefix_of_prelude hprelude).2).mp ⟨s', hwrite⟩⟩
  · rintro ⟨⟨head, hprelude⟩, hfault⟩
    obtain ⟨s', hwrite⟩ := (Stream.exists_write_iff (method_prefix_of_prelude hprelude).2).mpr hfault
    exact ⟨head, s', hprelude, hwrite⟩

end Leg

namespace Journey

variable {d : Dispatcher} {clock : Clock} {clocks : Clocks} {j : Journey} {leg : Leg}

/-! ## The first hop

  If its head does not go out, the journey ends with nothing written.  If it goes out, it stays in front of
  everything that is written on that stream. -/

/-- The first head of a journey goes out. -/
def Departs (d : Dispatcher) (j : Journey) (leg : Leg) : Prop :=
  ∃ s, d.opens j.network leg.hop = some s ∧ leg.Departs s

/-- The journey comes to an end, fails, and has written nothing. -/
def Silent (d : Dispatcher) (clocks : Clocks) (j : Journey) (leg : Leg) : Prop :=
  ∃ i, Ends d clocks j leg i (run d clocks j leg) ∧ (∃ e, (run d clocks j leg).result = .error e) ∧
    ∀ s ∈ (run d clocks j leg).streams, s.written = []

theorem hop_of_failed {s : Stream} {e : Failure} (ho : d.opens j.network leg.hop = some s)
    (h : (leg.run clock j.jar s).outcome = .error e) :
    ∃ a, j.hop d clock leg = .arrived a ∧ a.result = .error e ∧
      a.streams = j.streams ++ [(leg.run clock j.jar s).stream.close] := by
  rw [hop_of_opens ho, follow, h]
  exact ⟨_, rfl, rfl, List.append_nil _⟩

/-- Without a head that goes out, the first hop is the last, and nothing is written. -/
theorem hop_of_not_departs (clock : Clock) (h : ¬ Departs d j leg) :
    ∃ a e own, j.hop d clock leg = .arrived a ∧ a.result = .error e ∧ a.streams = j.streams ++ own ∧
      ∀ s ∈ own, s.written = [] := by
  cases ho : d.opens j.network leg.hop with
  -- a connection that fails may leave a stream, with nothing on it
  | none =>
    obtain ⟨e, _, hhop⟩ := hop_of_not_opens clock ho
    refine ⟨_, e, _, hhop, rfl, List.append_nil _, fun s hs => ?_⟩
    exact Dispatcher.written_of_connect (Option.mem_toList.mp hs)
  -- the leg fails before it has written
  | some s =>
    have hfresh := Dispatcher.written_of_connect (Dispatcher.connect_of_opens ho)
    obtain ⟨e, hask⟩ := Leg.ask_of_not_departs fun hleg => h ⟨s, ho, hleg⟩
    have hrun : leg.run clock j.jar s = { outcome := .error e, stream := s, jar := j.jar, body := leg.body } := by
      rw [Leg.run, hask]
    obtain ⟨a, hhop, hresult, hstreams⟩ := hop_of_failed ho (congrArg LegResult.outcome hrun)
    refine ⟨a, e, _, hhop, hresult, hstreams, List.forall_mem_singleton.mpr ?_⟩
    rw [Stream.written_close, hrun]
    exact hfresh

/-- A head that goes out stands on the stream of the first hop, and stays there. -/
theorem Departs.written (h : Departs d j leg) (clocks : Clocks) :
    ∃ s, (j.hop d (clocks 0) leg).streams = j.streams ++ [s] ∧ leg.head <+: s.written ∧
      ∀ i a, Ends d clocks j leg i a → s ∈ a.streams := by
  obtain ⟨s, ho, hleg⟩ := h
  have hfresh := Dispatcher.written_of_connect (Dispatcher.connect_of_opens ho)
  obtain ⟨s', hstreams, hwritten⟩ : ∃ s', (j.hop d (clocks 0) leg).streams = j.streams ++ [s'] ∧
      s'.written = (leg.run (clocks 0) j.jar s).stream.written := streams_hop_of_opens ho
  refine ⟨s', hstreams, ?_, fun i a hends => ?_⟩
  · rw [hwritten]
    exact hleg.head_prefix hfresh (clocks 0) j.jar
  · refine (prefix_of_ends hends .start).subset ?_
    rw [hstreams]
    exact List.mem_append_right _ (List.mem_singleton_self s')

/-- Behind a head whose method is refused nothing more is written. -/
theorem hop_of_refused (clock : Clock) (h : Departs d j leg) (hmethod : Header.isToken (upper leg.method) = false) :
    ∃ a e s, j.hop d clock leg = .arrived a ∧ a.result = .error e ∧ a.streams = j.streams ++ [s] ∧
      s.written = leg.head := by
  obtain ⟨s, ho, hleg⟩ := h
  have hfresh := Dispatcher.written_of_connect (Dispatcher.connect_of_opens ho)
  obtain ⟨s', hwritten, hask⟩ := hleg.ask hfresh
  obtain ⟨e, hchecked⟩ := Response.checkRequest_of_not_token leg.hop.url hmethod
  rw [Response.beginRead, hchecked] at hask
  have hrun : leg.run clock j.jar s = { outcome := .error e, stream := s', jar := j.jar, body := leg.body } := by
    rw [Leg.run, hask]
  obtain ⟨a, hhop, hresult, hstreams⟩ := hop_of_failed ho (congrArg LegResult.outcome hrun)
  refine ⟨a, e, _, hhop, hresult, hstreams, ?_⟩
  rw [Stream.written_close, hrun]
  exact hwritten

/-- A journey whose first hop is its last one comes to what that hop arrives at. -/
theorem ends_of_hop {a : Arrival} (h : j.hop d (clocks 0) leg = .arrived a) :
    Ends d clocks j leg 0 a ∧ run d clocks j leg = a := by
  have hends : Ends d clocks j leg 0 a := ⟨j, leg, .start, h⟩
  exact ⟨hends, run_of_ends hends⟩

/-! ## The whole journey

  For every method, with the exact condition under which nothing is written, and with the exact condition under
  which the reading of the answer refuses it. -/

/-- A method that is a token but for sharp s. -/
def PassesForToken (method : Text) : Prop := method ≠ [] ∧ ∀ c ∈ method, Header.isTokenChar c = true ∨ c = sharpS

/-- What the method of a journey has to do with what is written. -/
structure Unchecked (d : Dispatcher) (clocks : Clocks) (j : Journey) (leg : Leg) : Prop where
  /-- the journey fails without a byte if and only if its first head does not go out -/
  silent : Silent d clocks j leg ↔ ¬ Departs d j leg
  /-- it goes out when the method is in Latin-1, the rest of the head can be written, and the stream takes it -/
  departs : Departs d j leg ↔
    (∀ c ∈ leg.method, Narrow.latin1.holds c = true) ∧ (∃ b, leg.hop.prelude [] = .ok b) ∧
      ∃ s, d.opens j.network leg.hop = some s ∧ ∀ f, s.writeFault ≠ some (0, f)
  /-- a head that goes out begins with the method, and stays on the first stream of the journey to its end -/
  departed : Departs d j leg → octets leg.method <+: leg.head ∧ leg.head ≠ [] ∧
    ∃ s, (j.hop d (clocks 0) leg).streams = j.streams ++ [s] ∧ leg.head <+: s.written ∧
      ∀ i a, Ends d clocks j leg i a → s ∈ a.streams
  /-- a method that is no token even with its sharp s taken for letters is refused behind its head -/
  refused : Departs d j leg → ¬ PassesForToken leg.method →
    Ends d clocks j leg 0 (run d clocks j leg) ∧ (∃ e, (run d clocks j leg).result = .error e) ∧
      ∃ s, (run d clocks j leg).streams = j.streams ++ [s] ∧ s.written = leg.head
  /-- a method that is one is taken for the token that it is in upper case -/
  mistaken : PassesForToken leg.method → ∀ host, leg.hop.url.hostHeader = .ok host →
    Response.checkRequest leg.hop.url leg.method = .ok (upper leg.method) ∧ Header.isToken (upper leg.method) = true

/-- **A journey writes nothing just when its first head does not go out.** -/
theorem silent_iff (hj : j.streams = []) : Silent d clocks j leg ↔ ¬ Departs d j leg := by
  constructor
  · -- a head that went out is on a stream to the end, and it is not empty
    rintro ⟨i, hends, _, hsilent⟩ hdeparts
    obtain ⟨s, _, hhead, hkept⟩ := hdeparts.written clocks
    obtain ⟨_, _, hleg⟩ := hdeparts
    rw [hsilent s (hkept i _ hends)] at hhead
    exact hleg.method_prefix.2 (List.prefix_nil.mp hhead)
  · intro hdeparts
    obtain ⟨a, e, own, hhop, hresult, hstreams, hown⟩ := hop_of_not_departs (clocks 0) hdeparts
    obtain ⟨hends, hrun⟩ := ends_of_hop hhop
    rw [hj, List.nil_append] at hstreams
    refine ⟨0, ?_, ⟨e, ?_⟩, ?_⟩
    · rw [hrun]
      exact hends
    · rw [hrun]
      exact hresult
    · rw [hrun, hstreams]
      exact hown

/-- **Methods go out unchecked.**  For every method, hop, body and budget, and whatever the network does: the journey
    fails without writing a byte if and only if its first head does not go out, and whether it does is not a matter
    of the method being a token.  A method is written before it is judged, and then refused unless it is a token but
    for sharp s. -/
theorem run_unchecked (d : Dispatcher) (clocks : Clocks) (network : Network) (jar : Option Jar) (hop : Hop)
    (method : Text) (body : Body) (budget : Int) : Unchecked d clocks { network, jar } { hop, method, body, budget } := by
  refine ⟨silent_iff rfl, ?departs, ?departed, ?refused, ?mistaken⟩
  case departs =>
    constructor
    · rintro ⟨s, ho, hleg⟩
      obtain ⟨hmethod, hrest, hfault⟩ := Leg.departs_iff.mp hleg
      exact ⟨hmethod, hrest, s, ho, hfault⟩
    · rintro ⟨hmethod, hrest, s, ho, hfault⟩
      exact ⟨s, ho, Leg.departs_iff.mpr ⟨hmethod, hrest, hfault⟩⟩
  case departed =>
    intro hdeparts
    obtain ⟨_, _, hleg⟩ := id hdeparts
    exact ⟨hleg.method_prefix.1, hleg.method_prefix.2, hdeparts.written clocks⟩
  case refused =>
    intro hdeparts hpasses
    obtain ⟨_, _, hleg⟩ := id hdeparts
    have hlatin : ∀ c ∈ method, c.toNat < 256 := fun c hc =>
      of_decide_eq_true ((Leg.departs_iff.mp hleg).1 c hc)
    have hupper : Header.isToken (upper method) = false := by
      rw [← Bool.not_eq_true, isToken_upper_iff hlatin]
      exact hpasses
    obtain ⟨a, e, s, hhop, hresult, hstreams, hwritten⟩ := hop_of_refused (clocks 0) hdeparts hupper
    obtain ⟨hends, hrun⟩ := ends_of_hop hhop
    rw [hrun]
    exact ⟨hends, ⟨e, hresult⟩, s, hstreams, hwritten⟩
  case mistaken =>
    intro hpasses host hhost
    have hlatin : ∀ c ∈ method, c.toNat < 256 := by
      intro c hc
      rcases hpasses.2 c hc with htoken | rfl
      · exact Nat.lt_trans (lt_of_isTokenChar htoken) (by decide)
      · decide
    have hupper := (isToken_upper_iff hlatin).mpr hpasses
    exact ⟨Response.checkRequest_of_token_upper hhost hupper, hupper⟩

/-- A server that is content with whatever it gets. -/
def contentNetwork : Network := { answers := [{ script := [.bytes (octets "HTTP/1.1 200 OK\r\n\r\n".toList)] }] }

/-- A method that is a whole request and the beginning of another one. -/
def smuggledMethod : Text := "GET /x HTTP/1.1\r\n\r\nGET".toList

/-- The leg of a request with that method for the root of a host. -/
def smuggledLeg : Leg :=
  { hop := { url := { scheme := "http".toList, rawHost := ['h'], path := ['/'] }
             isChunked := false, isHead := false, hostname := ['h'], query := []
             headers := [], callerHeaders := [], timeouts := {} }
    method := smuggledMethod, body := .empty, budget := 5 }

/-- The two requests that a server then sees. -/
def smuggledHead : Bytes := octets "GET /x HTTP/1.1\r\n\r\nGET / HTTP/1.1\r\nHost: h\r\n\r\n".toList

/-- A method that is no token, and no token in upper case either, fails with two requests written. -/
theorem written_of_smuggled :
    Hop.build smuggledMethod [] .absent {} (some {}) smuggledLeg.hop.url .empty = .ok smuggledLeg.hop ∧
      Header.isToken smuggledLeg.method = false ∧
      (∃ e, (run scriptedHttp (.still 0) { network := contentNetwork, jar := some {} } smuggledLeg).result = .error e) ∧
      ∃ s, (run scriptedHttp (.still 0) { network := contentNetwork, jar := some {} } smuggledLeg).streams = [s] ∧
        s.written = smuggledHead := by
  have hdeparts : Departs scriptedHttp { network := contentNetwork, jar := some {} } smuggledLeg :=
    ⟨_, rfl, _, _, rfl, rfl⟩
  have hupper : Header.isToken (upper smuggledLeg.method) = false := by decide
  obtain ⟨a, e, s, hhop, hresult, hstreams, hwritten⟩ := hop_of_refused (.still 0) hdeparts hupper
  rw [(ends_of_hop hhop).2]
  have hhead : smuggledLeg.head = smuggledHead := rfl
  exact ⟨rfl, by decide, ⟨e, hresult⟩, s, hstreams, hwritten.trans hhead⟩

end Journey

end Courier
