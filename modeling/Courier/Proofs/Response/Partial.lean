/-
  A body that breaks off.

  What arrives on a stream arrives up to its end or up to the first fault (`Script.lead`, `Script.break?`), and
  these bytes carry a part of the body, whether the rest of it is missing or malformed (`Phase.soFar`).  That part
  is a function of the bytes alone.  A step hands out the front of it, and fails only when nothing is left of it
  (`Reader.step_yields`).  So an iteration hands out exactly this part, and it ends well just when the bytes make a
  whole body (`Response.gather_comes`).

  The exception is an item that a reader cannot hold: it breaks a body off where the reads happen to end.

  The bytes that a reader has to do with lie in two places: in its inbox, and still on the stream.  `Inbox.reach`
  puts them together, and the whole development is about that sum.  Three facts say how it moves.

  1. Reading more moves bytes from the stream to the inbox, and the sum stays (`Inbox.gains_fill`).  What can go
     wrong is named there as well: a fault strikes when nothing more arrives, and the reader refuses when too much
     waits or the stream has ended.

  2. A step takes bytes off the front of the inbox.  What it hands out, followed by what the new phase makes of the
     bytes that are left, is what the old phase made of all of them.  This is proved phase by phase, for any bytes
     `more` that may still come, so that it does not matter how the answer was divided.

  3. A reader that waits holds no whole item.  If it then cannot go on, the bytes carry nothing more: what is left
     in the inbox is the beginning of an item, and the beginning of an item is no part of a body
     (`Reader.soFar_none_of_waits`).

  `Reader.Bears` is the invariant: what the bytes carry, which body they make or that they make none (`Owes`, of the
  module on iterations), and which items are on the way.  `Reader.Brings` is what reading on does with it,
  `Reader.next_brings` its proof by the recursion of `next`, and `Response.gather_comes` is the induction over a
  whole iteration.

  A body that lasts to the end of the stream is the one place where the end itself matters: a fault there does not
  leave a part of a body but takes the place of its end.  `Phase.isOpen` carries that through, and it is why `Comes`
  speaks of being intact.

  `Response.brings_attach` begins all this at the first byte of an answer.
-/
import Courier.Proofs.Response.Iteration

namespace Courier

/-! ## What arrives

  Of a script with faults only what comes before the first fault reaches a reader that stops there.  So there is a
  part that arrives, and either the end of the stream behind it or a fault. -/

/-- What arrives of a script before its first fault, or before the end of the stream. -/
def Script.lead : Script → Bytes
  | [] | .fault _ :: _ => []
  | .bytes b :: rest => if b.isEmpty then [] else b ++ Script.lead rest

/-- The fault that follows what arrives, nothing at the end of the stream. -/
def Script.break? : Script → Option Fault
  | [] => none
  | .fault f :: _ => some f
  | .bytes b :: rest => if b.isEmpty then none else Script.break? rest

/-- Pieces without faults and without an end are passed over. -/
theorem Script.lead_append {script : Script} (h : script.Plain) (rest : Script) :
    Script.lead (script ++ rest) = script.data ++ Script.lead rest ∧
      Script.break? (script ++ rest) = Script.break? rest := by
  induction script with
  | nil => exact ⟨rfl, rfl⟩
  | cons p t ih =>
    obtain ⟨b, hb, rfl⟩ := h p (List.mem_cons_self ..)
    obtain ⟨hlead, hbreak⟩ := ih fun q hq => h q (List.mem_cons_of_mem _ hq)
    rw [← List.isEmpty_eq_false_iff] at hb
    rw [List.cons_append, lead, break?, hb, if_neg Bool.false_ne_true, if_neg Bool.false_ne_true, hlead, data,
      List.append_assoc]
    exact ⟨rfl, hbreak⟩

/-- A read of a script takes from the front of what arrives, or it stops where that stops. -/
def Script.Feeds (script : Script) : Except Fault Bytes × Script → Prop
  | (.ok data, rest) => (data = [] ∧ script.lead = [] ∧ script.break? = none) ∨
      (data ≠ [] ∧ script.lead = data ++ rest.lead ∧ script.break? = rest.break?)
  | (.error f, _) => script.lead = [] ∧ script.break? = some f

/-- A read takes from the front of what arrives. -/
theorem Script.feeds_takeScript (script : Script) : script.Feeds (Stream.takeScript Stream.readSize script) := by
  cases script with
  | nil => exact Or.inl ⟨rfl, rfl, rfl⟩
  | cons p t =>
    cases p with
    | fault f => exact ⟨rfl, rfl⟩
    | bytes b =>
      by_cases hb : b = []
      · subst hb
        exact Or.inl ⟨rfl, rfl, rfl⟩
      · -- a piece may be longer than one read takes: the rest of it is left, as pieces again
        obtain ⟨data, left, htake, hne, hdata, hleft⟩ := Stream.takeScript_bytes hb t
        obtain ⟨hlead, hbreak⟩ := lead_append hleft t
        have hfull : b.isEmpty = false := List.isEmpty_eq_false_iff.mpr hb
        rw [htake]
        refine Or.inr ⟨hne, ?_, ?_⟩
        · rw [lead, hfull, if_neg Bool.false_ne_true, hlead, ← List.append_assoc, hdata]
        · rw [break?, hfull, if_neg Bool.false_ne_true, hbreak]

namespace Inbox

/-- What still arrives for an inbox. -/
def more (inbox : Inbox) (s : Stream) : Bytes := if inbox.ended then [] else s.incoming.lead

/-- What an inbox holds, and what still arrives for it. -/
def reach (inbox : Inbox) (s : Stream) : Bytes := inbox.buffer ++ inbox.more s

/-- The fault that follows what still arrives. -/
def break? (inbox : Inbox) (s : Stream) : Option Fault := if inbox.ended then none else s.incoming.break?

/-- Reading more moves bytes that arrive, and a fault strikes only when none do any more. -/
def Gains (inbox : Inbox) (s : Stream) : Except ReadFailure Inbox × Stream → Prop
  | (.ok inbox', s') => inbox'.reach s' = inbox.reach s ∧ inbox'.break? s' = inbox.break? s
  | (.error (.fault f), _) => inbox.more s = [] ∧ inbox.break? s = some f
  | (.error (.violation _), _) => maxWaiting < inbox.buffer.length ∨ inbox.ended = true

/-- Reading more moves bytes from the stream to the inbox. -/
theorem gains_fill (inbox : Inbox) (s : Stream) : inbox.Gains s (inbox.fill s) := by
  rw [fill]
  split
  · exact Or.inl ‹_›
  · split
    · exact Or.inr ‹_›
    · rename_i hended
      have hfeeds := s.incoming.feeds_takeScript
      rw [Stream.read, Stream.readUpTo]
      rcases htake : Stream.takeScript Stream.readSize s.incoming with ⟨f | data, rest⟩ <;> rw [htake] at hfeeds
      · exact ⟨(if_neg hended).trans hfeeds.1, (if_neg hended).trans hfeeds.2⟩
      · show reach (inbox.receive data) _ = _ ∧ break? (inbox.receive data) _ = _
        rw [receive]
        -- an empty read is the end of the stream, and any other one moves its bytes
        rcases hfeeds with ⟨rfl, hlead, hbreak⟩ | ⟨hne, hlead, hbreak⟩
        · -- the end of the stream
          rw [reach, reach, more, more, break?, break?, if_neg hended, if_neg hended, hlead, hbreak]
          exact ⟨rfl, rfl⟩
        · rw [List.isEmpty_eq_false_iff.mpr hne, if_neg Bool.false_ne_true, reach, reach, more, more, break?, break?,
            if_neg hended, if_neg hended, hlead, hbreak, List.append_assoc]
          exact ⟨rfl, rfl⟩

end Inbox

/-! ## What the bytes carry

  The reference says what body some bytes make, and makes none of bytes that break off.  Here a second reference is
  needed, which says how much of a body is in bytes that do not make one, by the same recursion: the chunks that
  have come, and the last of them as far as it has come. -/

/-- The bytes of the chunks that have come, the last one as far as it has come. -/
def Whole.chunksSoFar (b : Bytes) : Bytes :=
  match h : takeLine b with
  | none => []
  | some (line, rest) =>
    match Reader.readSize? line with
    | none | some 0 => []
    | some (n + 1) =>
      have : rest.length < b.length := length_lt_of_takeLine h
      rest.take (n + 1) ++
        if Reader.footer.isPrefixOf (rest.drop (n + 1)) then chunksSoFar (rest.drop (n + 3)) else []
termination_by b.length
decreasing_by rw [List.length_drop]; omega

theorem Whole.chunksSoFar_eq (b : Bytes) :
    chunksSoFar b = match takeLine b with
      | none => []
      | some (line, rest) =>
        match Reader.readSize? line with
        | none | some 0 => []
        | some (n + 1) => rest.take (n + 1) ++
          if Reader.footer.isPrefixOf (rest.drop (n + 1)) then chunksSoFar (rest.drop (n + 3)) else [] := by
  rw [chunksSoFar]
  split <;> (rename_i h; simp only [h])

theorem Whole.chunksSoFar_of_waits {b : Bytes} (h : takeLine b = none) : chunksSoFar b = [] := by
  rw [chunksSoFar_eq, h]

/-- The part of a body that the bytes after its head carry. -/
def Whole.bodySoFar (method : Text) (head : Head) (rest : Bytes) : Bytes :=
  if isBare method head then []
  else if isChunked head then chunksSoFar rest
  else match head.field? Head.lengthName with
    | some digits => rest.take (decimalValue digits)
    | none => rest

/-- The bytes of the body that the bytes from here on carry in a phase. -/
def Phase.soFar : Phase → Bytes → Bytes
  | .fixed _ n, b => b.take n
  | .untilEnd, b => b
  | .chunkSize, b => Whole.chunksSoFar b
  | .chunkData more, b =>
    b.take (more + 1) ++
      if Reader.footer.isPrefixOf (b.drop (more + 1)) then Whole.chunksSoFar (b.drop (more + 3)) else []
  | .chunkFooter expected, b =>
    if expected.isPrefixOf b then Whole.chunksSoFar (b.drop expected.length) else []
  | .trailer, _ | .tunnel, _ | .finished, _ | .closing, _ | .failed, _ => []

/-- Whether the end of the stream is the end of the body. -/
def Phase.isOpen : Phase → Bool
  | .untilEnd => true
  | _ => false

/-- What the first phase of a body carries is the part of the body that the bytes after the head carry. -/
theorem Framing.soFar_of (method : Text) (head : Head) (b : Bytes) :
    (Framing.of method head).phase.soFar b = Whole.bodySoFar method head b := by
  rw [of_eq, Whole.bodySoFar]
  split
  · split <;> rfl
  · split
    · rfl
    · cases head.field? Head.lengthName <;> rfl

namespace Reader

variable {r : Reader} {more d : Bytes} {wasOpen : Bool}

/-- A step that hands out the front of what the bytes carry; it ends, and fails, when they carry nothing more, and
    it waits for bytes that are missing. -/
def Yields (more d : Bytes) (wasOpen : Bool) : Step → Prop
  | .event (.data b) r => d = b ++ r.phase.soFar (r.inbox.buffer ++ more) ∧ r.phase.isOpen = wasOpen
  | .event .finished _ | .violation _ => d = []
  | .waiting r => d = r.phase.soFar (r.inbox.buffer ++ more) ∧ r.phase.isOpen = wasOpen ∧
      (wasOpen = false → r.phase.decode r.inbox.buffer = none)

/-! ## One step

  The lemmas follow the phases of the reader as those about whole bodies do.  What is new is the case in which
  something is missing: a step then hands out what is there and waits, and what is carried by the bytes to come is
  the rest. -/

/-- Waiting leaves what is carried as it is, and at the end of the stream nothing is. -/
theorem waitOr_yields (htail : r.inbox.ended = true → more = []) (hopen : r.phase.isOpen = false)
    (hsoFar : r.phase.soFar [] = []) (hdecode : r.phase.decode r.inbox.buffer = none) (v : Violation) :
    Yields more (r.phase.soFar (r.inbox.buffer ++ more)) false (r.waitOr v) := by
  rw [waitOr]
  split
  · rename_i he
    rw [Bool.and_eq_true, List.isEmpty_iff] at he
    show r.phase.soFar (r.inbox.buffer ++ more) = []
    rw [he.1, htail he.2]
    exact hsoFar
  · exact ⟨rfl, hopen, fun _ => hdecode⟩

/-- The first bytes are those that are there, and then those that come. -/
theorem take_eq_take_append (n : Nat) (b more : Bytes) :
    (b ++ more).take n = b.take n ++ (b.drop n ++ more).take (n - (b.take n).length) := by
  rw [List.take_append, List.length_take]
  rcases Nat.lt_or_ge b.length n with hlt | hge
  · rw [List.drop_eq_nil_of_le (Nat.le_of_lt hlt), List.nil_append, Nat.min_eq_right (Nat.le_of_lt hlt)]
  · rw [Nat.min_eq_left hge, Nat.sub_self, List.take_zero, Nat.sub_eq_zero_of_le hge, List.take_zero]

/-- A chunk that goes on behind what is there carries that, and then what its rest carries. -/
theorem soFar_goes_on {n : Nat} {b : Bytes} (hlt : b.length < n + 1) (more : Bytes) :
    (Phase.chunkData n).soFar (b ++ more) = b ++ (Phase.chunkData (n - b.length)).soFar more := by
  have hleft : n + 1 - b.length = (n - b.length) + 1 := by omega
  have hfooter : n + 3 - b.length = (n - b.length) + 3 := by omega
  -- nothing behind the chunk is there yet
  have hdrop (k : Nat) (hk : n + 1 ≤ k) : (b ++ more).drop k = more.drop (k - b.length) := by
    rw [List.drop_append, List.drop_eq_nil_of_le (by omega), List.nil_append]
  rw [Phase.soFar, Phase.soFar, hdrop (n + 1) (by omega), hdrop (n + 3) (by omega), List.take_append,
    List.take_of_length_le (by omega : b.length ≤ n + 1), hleft, hfooter, List.append_assoc]

/-- A chunk that ends in what is there carries its bytes, and then what its footer carries. -/
theorem soFar_ends {n : Nat} {b : Bytes} (hge : n + 1 ≤ b.length) (more : Bytes) :
    (Phase.chunkData n).soFar (b ++ more) =
      b.take (n + 1) ++ (Phase.chunkFooter footer).soFar (b.drop (n + 1) ++ more) := by
  have hdata : (b ++ more).drop (n + 1) = b.drop (n + 1) ++ more := List.drop_append_of_le_length hge
  -- past the chunk and its line end is past the line end of what follows the chunk
  have hfooter : (b ++ more).drop (n + 3) = (b.drop (n + 1) ++ more).drop footer.length := by
    rw [← hdata, List.drop_drop]
    rfl
  rw [Phase.soFar, Phase.soFar, hdata, hfooter, List.take_append_of_le_length hge]

/-- The bytes of a chunk, as far as they are there, are handed out. -/
theorem takeChunk_yields (htail : r.inbox.ended = true → more = []) (n : Nat) :
    Yields more ((Phase.chunkData n).soFar (r.inbox.buffer ++ more)) false (r.takeChunk n) := by
  rw [takeChunk]
  dsimp only
  split
  · rename_i hempty
    have hb : r.inbox.buffer = [] := by simpa using hempty
    refine waitOr_yields (r := r.goTo (.chunkData n) r.inbox.buffer) htail rfl rfl ?_ .shortChunks
    show (Phase.chunkData n).decode r.inbox.buffer = none
    rw [hb]
    rfl
  · rcases Nat.lt_or_ge r.inbox.buffer.length (n + 1) with hlt | hge
    · -- the chunk goes on behind what is there
      have hall : r.inbox.buffer.take (n + 1) = r.inbox.buffer := List.take_of_length_le (by omega)
      have hleft : n + 1 - r.inbox.buffer.length = (n - r.inbox.buffer.length) + 1 := by omega
      rw [hall, hleft, List.drop_eq_nil_of_le (by omega)]
      exact ⟨soFar_goes_on hlt more, rfl⟩
    · -- the chunk ends in what is there
      have hlen : (r.inbox.buffer.take (n + 1)).length = n + 1 := by
        rw [List.length_take]
        omega
      rw [hlen, Nat.sub_self]
      exact ⟨soFar_ends hge more, rfl⟩

theorem takeTrailer_yields (htail : r.inbox.ended = true → more = []) : Yields more [] false r.takeTrailer := by
  rw [takeTrailer]
  split
  · rename_i hb
    refine waitOr_yields (r := r.goTo .trailer r.inbox.buffer) htail rfl rfl ?_ .shortChunks
    show Whole.trailer r.inbox.buffer = none
    rw [Whole.trailer, hb]
  · split <;> rfl

/-- A size is read when its line is whole: what is carried is what the chunk behind it carries. -/
theorem takeSize_yields (htail : r.inbox.ended = true → more = []) :
    Yields more (Whole.chunksSoFar (r.inbox.buffer ++ more)) false r.takeSize := by
  rw [takeSize]
  split
  · rename_i hb
    refine waitOr_yields (r := r.goTo .chunkSize r.inbox.buffer) htail rfl (Whole.chunksSoFar_of_waits rfl) ?_
      .shortChunks
    show Whole.dechunk r.inbox.buffer = none
    rw [Whole.dechunk_eq, hb]
  · rename_i line rest hb
    rw [Whole.chunksSoFar_eq, takeLine_front.append hb more]
    dsimp only
    -- no size, the size zero, and a chunk with its first byte
    rcases readSize? line with _ | _ | n
    · rfl
    · exact takeTrailer_yields (r := r.goTo .trailer rest) htail
    · exact takeChunk_yields (r := r.goTo (.chunkData n) rest) htail n

theorem soFar_footer_append (front left more : Bytes) :
    (Phase.chunkFooter (front ++ left)).soFar (front ++ more) = (Phase.chunkFooter left).soFar more := by
  have hdrop : (front ++ more).drop (front ++ left).length = more.drop left.length := by
    rw [List.length_append, List.drop_length_add_append]
  rw [Phase.soFar, Phase.soFar, isPrefixOf_append_right, hdrop]

/-- The line end behind a chunk is no part of the body, and neither is anything in its place. -/
theorem takeFooter_yields (htail : r.inbox.ended = true → more = []) (expected : Bytes) :
    Yields more ((Phase.chunkFooter expected).soFar (r.inbox.buffer ++ more)) false (r.takeFooter expected) := by
  rw [takeFooter]
  dsimp only
  split
  · -- what is there is no part of the footer
    rename_i hbad
    show (Phase.chunkFooter expected).soFar (r.inbox.buffer ++ more) = []
    rw [Phase.soFar, if_neg]
    intro hprefix
    rw [← take_eq_of_prefix (List.isPrefixOf_iff_prefix.mp hprefix)] at hbad
    exact absurd hbad (by simp)
  · rename_i hgood
    have hfound : r.inbox.buffer.take expected.length =
        expected.take (r.inbox.buffer.take expected.length).length := by simpa using hgood
    -- a part of the line end is there: what is still expected is the rest of it
    have hexpected : r.inbox.buffer.take expected.length ++
        expected.drop (r.inbox.buffer.take expected.length).length = expected := by
      conv => lhs; lhs; rw [hfound]
      exact List.take_append_drop _ _
    have hsame := soFar_footer_append (r.inbox.buffer.take expected.length)
      (expected.drop (r.inbox.buffer.take expected.length).length) (r.inbox.buffer.drop expected.length ++ more)
    rw [hexpected, ← List.append_assoc, List.take_append_drop] at hsame
    rw [hsame]
    split
    · rename_i hleft
      rw [List.isEmpty_iff] at hleft
      rw [hleft]
      exact takeSize_yields (r := r.goTo (.chunkFooter []) (r.inbox.buffer.drop expected.length)) htail
    · rename_i hleft
      -- not all of it is there, so nothing is behind it
      have hshort : r.inbox.buffer.length < expected.length := by
        rw [List.isEmpty_iff, List.drop_eq_nil_iff, List.length_take] at hleft
        omega
      have hempty : r.inbox.buffer.drop expected.length = [] := List.drop_eq_nil_of_le (by omega)
      have hnot : expected.drop (r.inbox.buffer.take expected.length).length ≠ [] := fun hd =>
        hleft (List.isEmpty_iff.mpr hd)
      have hnone (b : Bytes) : b = [] →
          (expected.drop (r.inbox.buffer.take expected.length).length).isPrefixOf b = false := by
        rintro rfl
        cases hd : expected.drop (r.inbox.buffer.take expected.length).length with
        | nil => exact absurd hd hnot
        | cons a t => rfl
      refine waitOr_yields (r := r.goTo (.chunkFooter (expected.drop (r.inbox.buffer.take expected.length).length))
          (r.inbox.buffer.drop expected.length)) htail rfl ?_ ?_ .shortChunks
      · show (Phase.chunkFooter (expected.drop (r.inbox.buffer.take expected.length).length)).soFar [] = []
        rw [Phase.soFar, hnone [] rfl]
        rfl
      · show (Phase.chunkFooter (expected.drop (r.inbox.buffer.take expected.length).length)).decode
          (r.inbox.buffer.drop expected.length) = none
        rw [Phase.decode, hnone _ hempty]
        rfl

/-- **One step** hands out the front of what the bytes carry. -/
theorem step_yields (htail : r.inbox.ended = true → more = []) :
    Yields more (r.phase.soFar (r.inbox.buffer ++ more)) r.phase.isOpen r.step := by
  obtain ⟨inbox, phase, persistent⟩ := r
  cases phase with
  | fixed total n =>
    cases n with
    | zero => rfl
    | succ n =>
      rw [step]
      dsimp only
      split
      · rename_i hempty
        have hb : inbox.buffer = [] := by simpa using hempty
        refine waitOr_yields (r := ⟨inbox, .fixed total (n + 1), persistent⟩) htail rfl rfl ?_ _
        show (Phase.fixed total (n + 1)).decode inbox.buffer = none
        rw [hb]
        rfl
      · exact ⟨take_eq_take_append (n + 1) inbox.buffer more, rfl⟩
  -- all that is there is handed out, and all that comes belongs to the body
  | untilEnd =>
    rw [step]
    dsimp only
    split
    · exact ⟨rfl, rfl⟩
    · rename_i hempty
      have hb : inbox.buffer = [] := by simpa using hempty
      split
      · rename_i hended
        show inbox.buffer ++ more = []
        rw [hb, htail hended]
        rfl
      · exact ⟨rfl, rfl, fun h => absurd h (by simp [Phase.isOpen])⟩
  | chunkSize => exact takeSize_yields (r := ⟨inbox, .chunkSize, persistent⟩) htail
  | chunkData n => exact takeChunk_yields (r := ⟨inbox, .chunkData n, persistent⟩) htail n
  | chunkFooter expected => exact takeFooter_yields (r := ⟨inbox, .chunkFooter expected, persistent⟩) htail expected
  | trailer => exact takeTrailer_yields (r := ⟨inbox, .trailer, persistent⟩) htail
  | tunnel => rfl
  -- only bytes behind the body are looked at, and none of them are part of it
  | finished =>
    rw [step]
    dsimp only
    split
    · rfl
    · split
      · rfl
      · exact ⟨rfl, rfl, fun _ => rfl⟩
  | closing =>
    rw [step]
    dsimp only
    split
    · rfl
    · split
      · rfl
      · exact ⟨rfl, rfl, fun _ => rfl⟩
  | failed => rfl

/-- The end of such a body is the end of the stream. -/
theorem ended_of_step_finished {r' : Reader} (hopen : r.phase.isOpen = true) (h : r.step = .event .finished r') :
    r.inbox.ended = true := by
  obtain ⟨inbox, phase, persistent⟩ := r
  cases phase with
  | untilEnd =>
    rw [step] at h
    dsimp only at h
    split at h
    · exact absurd h (by simp)
    · split at h
      · assumption
      · exact absurd h (by simp)
  | _ => exact absurd hopen Bool.false_ne_true

/-! ## Reading on

  The invariant (`Bears`) says of the bytes both what they carry and what body they make, because the second decides
  how the reading ends.  A reader that can neither step nor fill has handed out everything that is carried. -/

variable {s s' : Stream} {want : Option Bytes} {items : List Bytes}

/-- While items are within the limit, a reader that cannot go on has handed out all that the bytes carry. -/
theorem soFar_none_of_waits (h : r.Owes more want items) (hi : r.Incomplete)
    (hsize : ∀ item ∈ items, item.length ≤ maxWaiting)
    (hwhy : maxWaiting < r.inbox.buffer.length ∨ more = []) : r.phase.soFar (r.inbox.buffer ++ more) = [] := by
  obtain ⟨inbox, phase, persistent⟩ := r
  have hitems := h.items
  -- a phase that takes any byte waits with an empty inbox
  have hnothing (hb : inbox.buffer = []) : inbox.buffer ++ more = [] := by
    rcases hwhy with hlong | hmore
    · rw [hb] at hlong
      exact absurd hlong (by simp)
    · rw [hb, hmore]
      rfl
  have hchunks : Whole.chunksSoFar [] = [] := Whole.chunksSoFar_of_waits rfl
  cases phase with
  -- here something may be in the inbox: the front of a line, which is an item within the limit
  | chunkSize =>
    apply Whole.chunksSoFar_of_waits
    refine takeLine_front.none_of_waits hi (fun line rest hw => ?_) hwhy
    rw [Phase.items, Whole.chunkItems_eq, hw] at hitems
    exact Whole.length_taken ▸ hsize _ (hitems (List.mem_cons_self ..))
  | fixed total n => exact hnothing hi ▸ List.take_nil
  | untilEnd => exact hnothing hi
  | chunkData n =>
    rw [hnothing hi]
    show List.take (n + 1) [] ++ (if footer.isPrefixOf (List.drop (n + 1) []) then _ else []) = []
    rw [List.take_nil, List.drop_nil]
    rfl
  | chunkFooter expected =>
    rw [hnothing hi, Phase.soFar, List.drop_nil, hchunks]
    exact ite_self _
  | trailer => rfl
  | tunnel => rfl
  | finished => rfl
  | closing => rfl
  | failed => rfl

/-- The bytes for a reader, there and to come, carry this, and make this body or none, with no items on the way but
    these. -/
structure Bears (r : Reader) (s : Stream) (d : Bytes) (want : Option Bytes) (items : List Bytes) : Prop where
  owes : r.Owes (r.inbox.more s) want items
  soFar : r.phase.soFar (r.inbox.reach s) = d

/-- Reading on hands out the front of what the bytes carry.  It ends when they make a body and carry nothing more; and
    it fails when they carry nothing more and make none, or a fault takes the place of the end. -/
def Brings (d : Bytes) (want : Option Bytes) (items : List Bytes) (wasOpen : Bool) (fault : Option Fault) :
    Except ReadFailure Event × Reader × Stream → Prop
  | (.ok (.data b), r, s) => ∃ d' want', d = b ++ d' ∧ want = want'.map (b ++ ·) ∧ r.Bears s d' want' items ∧
      r.phase.isOpen = wasOpen ∧ r.inbox.break? s = fault
  | (.ok .finished, _, _) => d = [] ∧ want = some [] ∧ (wasOpen = true → fault = none)
  | (.error _, _, _) => (∀ item ∈ items, item.length ≤ maxWaiting) →
      d = [] ∧ (want = none ∨ (wasOpen = true ∧ fault ≠ none))

/-- Bytes that move from the stream to the inbox carry what they carried. -/
theorem Bears.filled {inbox : Inbox} (h : r.Bears s d want items) (hfill : r.inbox.fill s = (.ok inbox, s')) :
    Bears { r with inbox } s' d want items ∧ inbox.break? s' = r.inbox.break? s := by
  have hgains := r.inbox.gains_fill s
  rw [hfill] at hgains
  obtain ⟨hreach, hbreak⟩ := hgains
  refine ⟨⟨⟨?_, h.owes.live, ?_, ?_⟩, ?_⟩, hbreak⟩
  · exact fun he => if_pos he
  · show r.phase.decode (inbox.reach s') = want
    rw [hreach]
    exact h.owes.decode
  · show r.phase.items (inbox.reach s') ⊆ items
    rw [hreach]
    exact h.owes.items
  · show r.phase.soFar (inbox.reach s') = d
    rw [hreach]
    exact h.soFar

theorem Bears.yields (h : r.Bears s d want items) : Yields (r.inbox.more s) d r.phase.isOpen r.step := by
  rw [← h.soFar]
  exact step_yields fun he => if_pos he

/-- A reader that waits, for bytes that carry what they carried. -/
structure Waits (r waiting : Reader) (s : Stream) (d : Bytes) (want : Option Bytes) (items : List Bytes) : Prop where
  bears : waiting.Bears s d want items
  isOpen : waiting.phase.isOpen = r.phase.isOpen
  fault : waiting.inbox.break? s = r.inbox.break? s
  incomplete : waiting.Incomplete
  hopes : ¬ (waiting.inbox.buffer = [] ∧ waiting.inbox.ended = true)
  unmade : r.phase.isOpen = false → waiting.phase.decode waiting.inbox.buffer = none

/-- A step that waits changes nothing of what is borne. -/
theorem Bears.waits {waiting : Reader} (h : r.Bears s d want items) (hstep : r.step = .waiting waiting) :
    r.Waits waiting s d want items := by
  have hpays := step_pays h.owes
  have hyields := h.yields
  rw [hstep] at hpays hyields
  obtain ⟨hended, howes, hincomplete, hhopes⟩ := hpays
  obtain ⟨hsame, hopen, hunmade⟩ := hyields
  have hmore : waiting.inbox.more s = r.inbox.more s := by rw [Inbox.more, hended, Inbox.more]
  have hfault : waiting.inbox.break? s = r.inbox.break? s := by rw [Inbox.break?, hended, Inbox.break?]
  refine ⟨⟨?_, ?_⟩, hopen, hfault, hincomplete, hhopes, hunmade⟩
  · rw [hmore]
    exact howes
  · rw [Inbox.reach, hmore]
    exact hsame.symm

theorem Bears.exhausted (h : r.Bears s d want items) (hi : r.Incomplete)
    (hsize : ∀ item ∈ items, item.length ≤ maxWaiting)
    (hwhy : maxWaiting < r.inbox.buffer.length ∨ r.inbox.more s = []) : d = [] := by
  rw [← h.soFar]
  exact soFar_none_of_waits h.owes hi hsize hwhy

/-- **Reading on** hands out the front of what the bytes carry, and fails only when nothing is left of it. -/
theorem next_brings (h : r.Bears s d want items) :
    Brings d want items r.phase.isOpen (r.inbox.break? s) (r.next s) := by
  -- along the recursion of `next`: a step that has an event, a step that refuses, and a step that waits and either
  -- gets bytes or does not
  fun_induction next r s with
  | case1 r s e r' hstep =>
    have hpays := step_pays h.owes
    have hyields := h.yields
    rw [hstep] at hpays hyields
    cases e with
    | data b =>
      obtain ⟨hended, want', hwant, howes⟩ := hpays
      have hmore : r'.inbox.more s = r.inbox.more s := by rw [Inbox.more, hended, Inbox.more]
      have hfault : r'.inbox.break? s = r.inbox.break? s := by rw [Inbox.break?, hended, Inbox.break?]
      refine ⟨_, want', hyields.1, hwant, ⟨?_, ?_⟩, hyields.2, hfault⟩
      · rw [hmore]
        exact howes
      · rw [Inbox.reach, hmore]
    | finished =>
      refine ⟨hyields, hpays, fun hopen => ?_⟩
      exact if_pos (ended_of_step_finished hopen hstep)
  | case2 r s v hstep =>
    have hpays := step_pays h.owes
    have hyields := h.yields
    rw [hstep] at hpays hyields
    exact fun _ => ⟨hyields, Or.inl hpays⟩
  | case3 r s waiting hstep v s' hfill =>
    -- refused: too much waits, or the stream has ended
    have hwaits := h.waits hstep
    have hwhy := waiting.inbox.gains_fill s
    rw [hfill] at hwhy
    intro hsize
    refine ⟨hwaits.bears.exhausted hwaits.incomplete hsize (hwhy.imp_right fun he => if_pos he), Or.inl ?_⟩
    exact owes_none_of_waits hwaits.bears.owes hwaits.incomplete hwaits.hopes hsize hwhy
  -- a fault: nothing more arrives, so all that the bytes carry has been handed out
  | case4 r s waiting hstep f s' hfill =>
    have hwaits := h.waits hstep
    have hgains := waiting.inbox.gains_fill s
    rw [hfill] at hgains
    obtain ⟨hmore, hfault⟩ := hgains
    intro hsize
    refine ⟨hwaits.bears.exhausted hwaits.incomplete hsize (Or.inr hmore), ?_⟩
    cases hopen : r.phase.isOpen with
    | true =>
      refine Or.inr ⟨rfl, ?_⟩
      rw [← hwaits.fault, hfault]
      exact Option.some_ne_none f
    | false =>
      have hwant := hwaits.bears.owes.decode
      rw [hmore, List.append_nil, hwaits.unmade hopen] at hwant
      exact Or.inl hwant.symm
  -- bytes came: the invariant holds for the filled inbox
  | case5 r s waiting hstep inbox s' hfill hlt ih =>
    have hwaits := h.waits hstep
    obtain ⟨hbears, hfault⟩ := hwaits.bears.filled hfill
    rw [← hwaits.isOpen, ← hwaits.fault, ← hfault]
    exact ih hbears

end Reader

/-! ## All pieces of a body

  By induction over the iteration: the pieces together are what the bytes carry, and the iteration ends when they
  make a body and fails when they make none. -/

/-- What comes out of a body, where the bytes carry `d` of it and make this body or none; `intact` says that no fault
    takes the place of its end. -/
structure Comes (got d : Bytes) (want : Option Bytes) (items : List Bytes) (intact complete : Prop) : Prop where
  /-- what comes out is the front of what the bytes carry -/
  front : got <+: d
  /-- at the end of the body all of that has come out -/
  ended : complete → got = d ∧ want = some d ∧ intact
  /-- a reader that can hold every item hands out all of it, and comes to the end of the body when there is one -/
  held : (∀ item ∈ items, item.length ≤ maxWaiting) → got = d ∧ (want = some d → intact → complete)

/-- A piece that was handed out stands in front of what comes out, of what is carried and of the body. -/
theorem Comes.cons {got d : Bytes} {want : Option Bytes} {items : List Bytes} {intact complete : Prop}
    (h : Comes got d want items intact complete) (b : Bytes) :
    Comes (b ++ got) (b ++ d) (want.map (b ++ ·)) items intact complete := by
  have hwant : want.map (b ++ ·) = some (b ++ d) ↔ want = some d := by
    cases want with
    | none => simp
    | some body => simp
  constructor
  case front => exact (List.prefix_append_right_inj _).mpr h.front
  case ended =>
    intro hcomplete
    obtain ⟨hgot, hmade, hintact⟩ := h.ended hcomplete
    exact ⟨congrArg _ hgot, hwant.mpr hmade, hintact⟩
  case held =>
    intro hsize
    obtain ⟨hgot, hends⟩ := h.held hsize
    exact ⟨congrArg _ hgot, fun hmade => hends (hwant.mp hmade)⟩

namespace Response

variable {r : Response} {cursor : Cursor} {s : Stream} {d : Bytes} {want : Option Bytes} {items : List Bytes}

/-- **An iteration** hands out what the bytes carry of the body, and ends when they make one. -/
theorem gather_comes (h : r.Running cursor s) (hbears : r.reader.Bears s d want items) (pieces : List Bytes) :
    Comes (r.gather cursor).flatten d want items (r.reader.phase.isOpen = true → r.reader.inbox.break? s = none)
      (∃ ps, (r.drainFrom cursor pieces).1 = .ok ps) := by
  -- along the recursion of the iteration: it failed, it ended, or it handed out a piece
  fun_induction drainFrom r cursor pieces generalizing s d want with
  | case1 r cursor pieces e c r' hnext =>
    have hnone : r.gather cursor = [] := by rw [gather_eq, hnext]
    have hbrings := Reader.next_brings hbears
    rw [hnone]
    rcases hn : r.reader.next s with ⟨e | b | _, reader, s'⟩
    · rw [hn] at hbrings
      refine ⟨List.nil_prefix, fun hok => absurd hok (by simp), fun hsize => ?_⟩
      obtain ⟨rfl, hwhy⟩ := hbrings hsize
      refine ⟨rfl, fun hmade hintact => ?_⟩
      rcases hwhy with hno | ⟨hopen, hsome⟩
      · exact absurd (hno.symm.trans hmade) (by simp)
      · exact absurd (hintact hopen) hsome
    · rw [h.next_data hn] at hnext
      exact absurd hnext (by simp)
    · rw [h.next_finished hn] at hnext
      exact absurd hnext (by simp)
  | case2 r cursor pieces c r' hnext =>
    have hnone : r.gather cursor = [] := by rw [gather_eq, hnext]
    have hbrings := Reader.next_brings hbears
    rw [hnone]
    rcases hn : r.reader.next s with ⟨e | b | _, reader, s'⟩
    · obtain ⟨r'', hr⟩ := h.next_error hn
      rw [hr] at hnext
      exact absurd hnext (by simp)
    · rw [h.next_data hn] at hnext
      exact absurd hnext (by simp)
    · rw [hn] at hbrings
      obtain ⟨rfl, hmade, hintact⟩ := hbrings
      exact ⟨List.nil_prefix, fun _ => ⟨rfl, hmade, hintact⟩, fun _ => ⟨rfl, fun _ _ => ⟨_, rfl⟩⟩⟩
  | case3 r cursor pieces b c r' hnext hlt ih =>
    have hmore : r.gather cursor = b :: r'.gather c := by rw [gather_eq, hnext]
    have hbrings := Reader.next_brings hbears
    rw [hmore, List.flatten_cons]
    rcases hn : r.reader.next s with ⟨e | b' | _, reader, s'⟩
    · obtain ⟨r'', hr⟩ := h.next_error hn
      rw [hr] at hnext
      exact absurd hnext (by simp)
    · rw [h.next_data hn, Prod.mk.injEq, Prod.mk.injEq, Except.ok.injEq, Option.some.injEq] at hnext
      obtain ⟨rfl, rfl, rfl⟩ := hnext
      rw [hn] at hbrings
      -- the piece is the front of what is carried, and the rest is carried on
      obtain ⟨d', want', rfl, rfl, hrest, hopen, hfault⟩ := hbrings
      have hcomes := ih ⟨rfl, h.isHead, Or.inl rfl⟩ hrest
      rw [← hopen, ← hfault]
      exact hcomes.cons b'
    · rw [h.next_finished hn] at hnext
      exact absurd hnext (by simp)

end Response

/-! ## From the first byte of an answer

  The head is read from what arrives, and what it leaves is where the body begins. -/

/-- The head of an answer that was read is the one at the front of what arrives, and what follows it is there or
    arrives. -/
theorem Whole.head?_of_arrives {inbox inbox' : Inbox} {s s' : Stream} {head : Head}
    (hread : readHead inbox s = (.ok (head, inbox'), s')) :
    head? (inbox.reach s) = some (head, inbox'.reach s') ∧ inbox'.break? s' = inbox.break? s := by
  -- along the recursion that reads a head: only the final head ends well, an interim one is skipped
  fun_induction readHead inbox s with
  | case1 inbox s lines rest hb v hv => exact absurd hread (by simp)
  | case2 inbox s lines rest hb final hh hi =>
    rw [Prod.mk.injEq, Except.ok.injEq, Prod.mk.injEq] at hread
    obtain ⟨⟨rfl, rfl⟩, rfl⟩ := hread
    exact ⟨(head?_of_final (takeBlock_front.append hb (inbox.more s)) hh hi).1, rfl⟩
  | case3 inbox s lines rest hb interim hh hi hs => exact absurd hread (by simp)
  | case4 inbox s lines rest hb interim hh hi hs hlt ih =>
    rw [Inbox.reach, (head?_of_interim (takeBlock_front.append hb (inbox.more s)) hh hi hs).1]
    exact ih hread
  | case5 inbox s hb hc => exact absurd hread (by simp)
  | case6 inbox s hb hc he => exact absurd hread (by simp)
  | case7 inbox s hb hc he e t hf => exact absurd hread (by simp)
  | case8 inbox s hb hc he inbox₁ s₁ hf hlt ih =>
    have hgains := inbox.gains_fill s
    rw [hf] at hgains
    rw [← hgains.1, ← hgains.2]
    exact ih hread

/-- A reader that begins a body bears what the bytes after the head carry. -/
theorem Reader.bears_start (method : Text) (head : Head) (inbox : Inbox) (s : Stream) :
    (start (Framing.of method head) head.persistent inbox).Bears s (Whole.bodySoFar method head (inbox.reach s))
      (Whole.body method head (inbox.reach s)) ((Framing.of method head).phase.items (inbox.reach s)) := by
  refine ⟨⟨?_, ?_, ?_, ?_⟩, ?_⟩
  · exact fun he => if_pos he
  · rw [start_phase]
    cases Framing.of method head <;> rfl
  · rw [start_phase]
    apply Framing.decode_of
  · rw [start_phase]
    exact List.Subset.refl _
  · rw [start_phase]
    apply Framing.soFar_of

/-- What comes out of the body of an answer that these bytes and faults make up: they begin with a head, and what
    arrives behind it carries a part of a body. -/
def Script.Brings (script : Script) (method : Text) (got : Bytes) (complete : Prop) : Prop :=
  ∃ head rest, Whole.head? script.lead = some (head, rest) ∧
    Comes got (Whole.bodySoFar method head rest) (Whole.body method head rest)
      ((Framing.of method head).phase.items rest) (Framing.of method head = .untilEnd → script.break? = none) complete

theorem Framing.isOpen_iff (framing : Framing) : framing.phase.isOpen = true ↔ framing = .untilEnd := by
  cases framing <;> simp [phase, Phase.isOpen]

/-- **The body of an answer** is what its bytes carry, whatever the reads: a response whose head was read, with the
    stream as that left it, hands out this body. -/
theorem Response.brings_attach {s₀ s s' : Stream} {url : Url} {method : Text} {r : Response}
    (hbegin : beginRead s₀ url method = (.ok r, s)) (hs : s'.incoming = s.incoming) :
    s₀.incoming.Brings (upper method) ((r.attach s' false).gather .fresh).flatten
      (∃ ps, (r.attach s' false).chunks.1 = .ok ps) := by
  unfold beginRead at hbegin
  split at hbegin
  · exact absurd hbegin (by simp)
  · rename_i checked hchecked
    obtain rfl := checkRequest_eq hchecked
    split at hbegin
    · exact absurd hbegin (by simp)
    · rename_i head inbox s₁ hread
      obtain ⟨hhead, hfault⟩ := Whole.head?_of_arrives hread
      rw [Prod.mk.injEq] at hbegin
      obtain ⟨hofHead, rfl⟩ := hbegin
      unfold ofHead at hofHead
      obtain ⟨headers, _, hr⟩ := exists_of_bind_eq_ok hofHead
      -- what arrives behind the head is the same for a stream that has the same bytes to come
      have hreach : inbox.reach s₁ = inbox.reach s' := by rw [Inbox.reach, Inbox.more, ← hs, Inbox.reach, Inbox.more]
      have hstop : inbox.break? s' = s₀.incoming.break? := by
        rw [Inbox.break?, hs]
        exact hfault
      rw [hreach] at hhead
      refine ⟨head, inbox.reach s', hhead, ?_⟩
      have hdone : r.done = false := by rw [← Except.ok.inj hr]
      have hreader : r.reader = Reader.start (Framing.of (upper method) head) head.persistent inbox := by
        rw [← Except.ok.inj hr]
      have hbears := Reader.bears_start (upper method) head inbox s'
      have hrunning : (r.attach s' false).Running .fresh s' := ⟨rfl, rfl, Or.inr ⟨rfl, hdone⟩⟩
      rw [← hreader] at hbears
      have hcomes := gather_comes hrunning hbears []
      have hopen : (r.attach s' false).reader.phase.isOpen = true ↔ Framing.of (upper method) head = .untilEnd := by
        rw [← Framing.isOpen_iff, ← Reader.start_phase _ head.persistent inbox, ← hreader]
        rfl
      have hinbox : (r.attach s' false).reader.inbox = inbox := by
        show r.reader.inbox = inbox
        rw [hreader]
        rfl
      rw [hopen, hinbox, hstop] at hcomes
      exact hcomes

end Courier
