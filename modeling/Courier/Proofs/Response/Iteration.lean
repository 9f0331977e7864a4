/-
  Iterating over a body neither loses nor repeats a byte.

  Several iterations share one reader and one stream.  One may be left in the middle of the body, one may fail on a
  fault and be followed by another, one may be gone on with after another has come to the end.  None of this is
  visible in the bytes: what is left of the body belongs to the response and not to an iteration over it
  (`Response.Stands`), so it does not matter who asks.

  A turn takes pieces off the front of what is left (`Session.takes`).  It hands them out, or, when it collects them
  and then fails, it drops what it has collected (`Session.Discards`).  The invariant is the equation

  the body = what was taken so far ++ what is left

  which one turn keeps (`Session.turn_takes`) and so any turns do (`Session.after_takes`).  That the bytes are
  handed out in order and that all are there at the end is read off it.

  The proof goes up in four steps, each about a larger thing than the one before.

  1. A piece.  `Response.resume_gives` says what asking for one piece does at each of the three places where a
     response can stand: amid the body it gives the front of what is left, behind the body it gives nothing and is
     closed again, and one that was given up stays so.  A fault is no place of its own: it takes nothing, so the
     response stands where it stood.

  2. A collection, which asks until an end or a failure.  `Response.gather` names the pieces that come, so that
     there is something to say about them also when the collection fails and hands out none;
     `Response.drainFrom_gathers` is the induction.

  3. A turn.  Going on with an iteration is step one and collecting is step two; `Takes` is the common shape of
     both.

  4. Any turns, by induction on their list, with what is left as the variable of the induction.

  The crux is the difference between what is taken and what is handed out.  A collection that fails has taken bytes
  off the body that nobody gets; every statement about what comes out therefore asks for turns that drop nothing,
  and the equation above holds without that.
-/
import Courier.Proofs.Response.Interrupted
import Courier.Proofs.Response.Turns

namespace Courier

namespace Response

/-! ## One piece

  Where can a response stand between two pieces?  In the middle of the body, behind it, or in front of an item that
  is too long to be read, and `StandsOn` has these cases.  What an iteration gives next does not depend on which
  iteration asks. -/

/-- Where a response stands that has this left of its body, on its stream, with no items on the way but these. -/
inductive StandsOn (r : Response) (s : Stream) (rest : Bytes) (items : List Bytes) : Prop
  /-- in the middle of the body -/
  | amid (undone : r.done = false) (live : r.reader.Live s rest items)
  /-- behind the body -/
  | past (done : r.done = true) (mute : r.reader.Mute) (nothing : rest = [])
  /-- it was given up, for an item that is too long -/
  | stuck (undone : r.done = false) (failed : r.reader.phase = .failed) (long : Reader.TooLong items)

/-- The response has its stream, and this left to hand out. -/
structure Stands (r : Response) (rest : Bytes) (items : List Bytes) : Prop where
  isHead : r.isHead = false
  attached : ∃ s, r.stream = some s ∧ r.StandsOn s rest items

/-- A piece comes off the front of what is left, the end comes when nothing is left, and a failure takes nothing. -/
def Gives (rest : Bytes) (items : List Bytes) : Except Failure (Option Bytes) × Response → Prop
  | (.ok (some b), r) => ∃ rest', rest = b ++ rest' ∧ b ≠ [] ∧ r.Stands rest' items
  | (.ok none, r) => rest = [] ∧ r.Stands [] items
  | (.error _, r) => r.Stands rest items

variable {r r' : Response} {rest : Bytes} {items : List Bytes} {cursor : Cursor} {s : Stream}

/-- A reader that has nothing more to say leaves its response behind the body. -/
theorem stands_close (hhead : r.isHead = false) (hs : r.stream = some s) (hmute : r.reader.Mute) :
    r.close.Stands [] items := by
  refine ⟨hhead, s.close, ?_, .past rfl hmute rfl⟩
  rw [close, hs]
  rfl

/-- Asking the reader for one piece, at each place where a response can stand. -/
theorem resume_gives (h : r.Stands rest items) (hs : r.stream = some s) : Gives rest items (r.resume s) := by
  obtain ⟨t, ht, hstands⟩ := h.attached
  rw [hs, Option.some.injEq] at ht
  subst ht
  have hbody : ¬ r.isHead = true := by
    rw [h.isHead]
    exact Bool.false_ne_true
  unfold resume
  rw [if_neg hbody]
  cases hstands with
  | amid undone live =>
    have hopen : ¬ r.done = true := by
      rw [undone]
      exact Bool.false_ne_true
    have hadvances := live.next_advances
    -- a refusal, a fault, bytes, and the end of the body
    rcases hn : r.reader.next s with ⟨(v | f) | d | _, reader, s'⟩
    · rw [hn] at hadvances
      obtain ⟨hfailed, hlong⟩ := hadvances
      show Stands (if r.done = true then _ else _) rest items
      rw [if_neg hopen]
      exact ⟨h.isHead, s', rfl, .stuck undone hfailed hlong⟩
    · rw [hn] at hadvances
      show Stands (if r.done = true then _ else _) rest items
      rw [if_neg hopen]
      exact ⟨h.isHead, s', rfl, .amid undone hadvances⟩
    · have hne : d ≠ [] := (Reader.remaining_next hn).1
      rw [hn] at hadvances
      obtain ⟨rest', hrest, hlive⟩ := hadvances
      exact ⟨rest', hrest, hne, h.isHead, s', rfl, .amid undone hlive⟩
    · rw [hn] at hadvances
      obtain ⟨hrest, hmute⟩ := hadvances
      exact ⟨hrest, stands_close h.isHead rfl hmute⟩
  | past done mute nothing =>
    -- an iteration that is behind the others
    have hmute := Reader.next_of_mute (s := s) mute
    subst nothing
    rcases hn : r.reader.next s with ⟨e | d | _, reader, s'⟩
    · rw [hn] at hmute
      show Stands (if r.done = true then _ else _) [] items
      rw [if_pos done]
      exact stands_close h.isHead rfl hmute
    · rw [hn] at hmute
      exact absurd hmute id
    · rw [hn] at hmute
      exact ⟨rfl, stands_close h.isHead rfl hmute⟩
  | stuck undone failed long =>
    have hopen : ¬ r.done = true := by
      rw [undone]
      exact Bool.false_ne_true
    rw [Reader.next_of_failed failed]
    show Stands (if r.done = true then _ else _) rest items
    rw [if_neg hopen]
    exact ⟨h.isHead, s, rfl, .stuck undone rfl long⟩

/-- A response that is done has nothing left. -/
theorem Stands.nothing_of_done (h : r.Stands rest items) (hdone : r.done = true) : rest = [] := by
  obtain ⟨s, _, hstands⟩ := h.attached
  cases hstands with
  | amid undone live => exact absurd (undone.symm.trans hdone) Bool.false_ne_true
  | past done mute nothing => exact nothing
  | stuck undone failed long => exact absurd (undone.symm.trans hdone) Bool.false_ne_true

/-- Who asks does not matter: any iteration that has not ended gives what is next. -/
theorem next_gives (h : r.Stands rest items) (hcursor : cursor ≠ .spent) :
    Gives rest items ((r.next cursor).1, (r.next cursor).2.2) := by
  rcases r.next_cases cursor with ⟨hwhy, hnext⟩ | ⟨s, hs, hnext⟩
  · -- the reader is not asked: the iteration has ended, there is no stream, or the body is done
    obtain ⟨t, ht, _⟩ := h.attached
    rw [hnext]
    rcases hwhy with hspent | hnone | ⟨_, hdone⟩
    · exact absurd hspent hcursor
    · exact absurd (hnone.symm.trans ht) (by simp)
    · obtain rfl := h.nothing_of_done hdone
      exact ⟨rfl, h⟩
  · rw [hnext]
    exact resume_gives h hs

/-- An iteration that hands something out goes on. -/
theorem running_of_next {b : Bytes} {after : Cursor} (h : r.next cursor = (.ok (some b), after, r')) :
    after = .running := by
  rcases r.next_cases cursor with ⟨_, hnext⟩ | ⟨s, _, hnext⟩
  · rw [hnext] at h
    exact absurd h (by simp)
  · rw [hnext, Prod.mk.injEq, Prod.mk.injEq] at h
    rw [← h.2.1, h.1]
    rfl

/-! ## Collecting

  Reading all of a body is going on with an iteration until it ends.  The pieces that it collects are kept when it
  succeeds and dropped when it fails, and this is why a collection is a turn of its own below. -/

/-- The pieces that an iteration hands out until it ends or fails. -/
def gather (r : Response) (cursor : Cursor) : List Bytes :=
  match h : r.next cursor with
  | (.ok (some b), cursor', r') =>
    have : r'.remaining < r.remaining := remaining_next_lt h
    b :: gather r' cursor'
  | (.ok none, _, _) | (.error _, _, _) => []
termination_by r.remaining

theorem gather_eq (r : Response) (cursor : Cursor) :
    r.gather cursor = match r.next cursor with
      | (.ok (some b), cursor', r') => b :: r'.gather cursor'
      | (.ok none, _, _) | (.error _, _, _) => [] := by
  rw [gather]
  split <;> (rename_i h; simp only [h])

/-- **Collecting** takes the pieces off the front of what is left, all of it when it succeeds. -/
theorem drainFrom_gathers (h : r.Stands rest items) (hcursor : cursor ≠ .spent) (pieces : List Bytes) :
    ∃ rest', rest = (r.gather cursor).flatten ++ rest' ∧ (r.drainFrom cursor pieces).2.Stands rest' items ∧
      (∀ b ∈ r.gather cursor, b ≠ []) ∧
      ∀ ps, (r.drainFrom cursor pieces).1 = .ok ps → ps = pieces.reverse ++ r.gather cursor ∧ rest' = [] := by
  -- along the recursion of the collection: it failed, it ended, or it got a piece
  fun_induction drainFrom r cursor pieces generalizing rest with
  | case1 r cursor pieces e c r' hnext =>
    have hgives := next_gives h hcursor
    have hnone : r.gather cursor = [] := by rw [gather_eq, hnext]
    rw [hnext] at hgives
    rw [hnone]
    refine ⟨rest, rfl, hgives, fun b hb => absurd hb List.not_mem_nil, ?_⟩
    intro ps hps
    exact absurd hps (by simp)
  | case2 r cursor pieces c r' hnext =>
    have hgives := next_gives h hcursor
    have hnone : r.gather cursor = [] := by rw [gather_eq, hnext]
    rw [hnext] at hgives
    obtain ⟨rfl, hlast⟩ := hgives
    rw [hnone]
    refine ⟨[], rfl, hlast, fun b hb => absurd hb List.not_mem_nil, ?_⟩
    intro ps hps
    exact ⟨by rw [← Except.ok.inj hps, List.append_nil], rfl⟩
  | case3 r cursor pieces b c r' hnext hlt ih =>
    have hgives := next_gives h hcursor
    have hmore : r.gather cursor = b :: r'.gather c := by rw [gather_eq, hnext]
    rw [hnext] at hgives
    obtain ⟨after, rfl, hne, hstands⟩ := hgives
    have hrunning : c ≠ .spent := by
      rw [running_of_next hnext]
      exact Cursor.noConfusion
    obtain ⟨rest', rfl, hlast, hpieces, hall⟩ := ih hstands hrunning
    rw [hmore]
    refine ⟨rest', ?_, hlast, ?_, ?_⟩
    · rw [List.flatten_cons, List.append_assoc]
    · intro p hp
      rcases List.mem_cons.mp hp with rfl | hp
      · exact hne
      · exact hpieces p hp
    · intro ps hps
      obtain ⟨rfl, hnone⟩ := hall ps hps
      refine ⟨?_, hnone⟩
      rw [List.reverse_cons, List.append_assoc]
      rfl

/-- A collection succeeds when no fault is to come and no item is too long. -/
theorem chunks_isOk (h : r.Stands rest items) (hs : r.stream = some s)
    (hsize : ∀ item ∈ items, item.length ≤ maxWaiting) (hfaults : ∀ f, Piece.fault f ∉ s.incoming) :
    ∃ ps, r.chunks.1 = .ok ps := by
  obtain ⟨t, ht, hstands⟩ := h.attached
  rw [hs, Option.some.injEq] at ht
  subst ht
  cases hstands with
  | amid undone live =>
    have hsound : r.reader.inbox.Sound s := ⟨live.fits.unbroken.plain hfaults, live.fits.ended⟩
    have hrunning : r.Running .fresh s := ⟨hs, h.isHead, Or.inr ⟨rfl, undone⟩⟩
    have hdrained := @drainFrom_pays r .fresh s (some rest) items [] hrunning hsound live.owes hsize
    rcases hdrained with ⟨body, ps, r', _, hok, _⟩ | ⟨v, r', hnone, _⟩
    · exact ⟨ps, congrArg Prod.fst hok⟩
    · exact absurd hnone (by simp)
  | past done mute nothing => exact ⟨[], congrArg Prod.fst (chunks_of_done done)⟩
  | stuck undone failed long =>
    obtain ⟨item, hitem, hlong⟩ := long
    exact absurd (hsize item hitem) (Nat.not_le_of_lt hlong)

/-! ## Turns that iterate

  A caller may go on with the iteration at hand, start a new one, or collect one, in any order.  Each turn is
  described by what it hands out and by what it takes off the body.  The two are the same but for a collection that
  fails. -/

/-- The turns that go on with an iteration, start one, or collect one. -/
def Turn.iterates : Turn → Bool
  | .next | .restart | .chunks | .read => true
  | .text | .close => false

namespace Gift

/-- The bytes in a gift. -/
def bytes : Gift → Bytes
  | .piece b | .data b => b
  | .pieces ps => ps.flatten
  | .nothing | .over | .text _ => []

/-- The pieces in a gift. -/
def chunks : Gift → List Bytes
  | .piece b => [b]
  | .pieces ps => ps
  | .nothing | .over | .data _ | .text _ => []

/-- Whether with it an iteration has come to its end. -/
def isEnd : Gift → Bool
  | .over | .pieces _ | .data _ => true
  | .nothing | .piece _ | .text _ => false

end Gift

end Response

open Response (Turn Gift)

namespace Session

/-- The bytes that a turn hands out. -/
def hands (x : Session) (t : Turn) : Bytes :=
  match (x.turn t).1 with
  | .ok g => g.bytes
  | .error _ => []

/-- The pieces that a turn takes off the body, handed out or not. -/
def takes (x : Session) : Turn → List Bytes
  | .next =>
    match (x.response.next x.cursor).1 with
    | .ok (some b) => [b]
    | .ok none | .error _ => []
  | .chunks | .read | .text => x.response.gather .fresh
  | .restart | .close => []

/-- A turn fails and drops what it has collected. -/
def Discards (x : Session) (t : Turn) : Prop := (∃ e, (x.turn t).1 = .error e) ∧ x.takes t ≠ []

/-- The bytes that some turns hand out, in order. -/
def handed (x : Session) : List Turn → Bytes
  | [] => []
  | t :: rest => x.hands t ++ (x.turn t).2.handed rest

/-- The bytes that some turns take off the body, in order. -/
def taken (x : Session) : List Turn → Bytes
  | [] => []
  | t :: rest => (x.takes t).flatten ++ (x.turn t).2.taken rest

/-- None of these turns drops what it has collected. -/
def DiscardsNone (x : Session) : List Turn → Prop
  | [] => True
  | t :: rest => ¬ x.Discards t ∧ (x.turn t).2.DiscardsNone rest

/-- What one turn does to what is left of the body. -/
structure Takes (x : Session) (t : Turn) (rest rest' : Bytes) (items : List Bytes) : Prop where
  front : rest = (x.takes t).flatten ++ rest'
  stands : (x.turn t).2.response.Stands rest' items
  nonempty : ∀ b ∈ x.takes t, b ≠ []
  bytes : ∀ g, (x.turn t).1 = .ok g → g.bytes = (x.takes t).flatten
  chunks : ∀ g, (x.turn t).1 = .ok g → g.chunks ⊆ x.takes t
  ended : ∀ g, (x.turn t).1 = .ok g → g.isEnd = true → rest' = []

variable {x : Session} {rest body : Bytes} {items : List Bytes} {t : Turn} {turns : List Turn}

variable {x' : Session} {ps : List Bytes} {rest' : Bytes}

/-- A turn that gives something, when the pieces that it takes are known. -/
theorem Takes.of_ok {g : Gift} (hturn : x.turn t = (.ok g, x')) (htakes : x.takes t = ps)
    (front : rest = ps.flatten ++ rest') (stands : x'.response.Stands rest' items) (nonempty : ∀ b ∈ ps, b ≠ [])
    (bytes : g.bytes = ps.flatten) (chunks : g.chunks ⊆ ps) (ended : g.isEnd = true → rest' = []) :
    x.Takes t rest rest' items := by
  subst htakes
  constructor
  case front => exact front
  case stands =>
    rw [hturn]
    exact stands
  case nonempty => exact nonempty
  case bytes =>
    intro g' hg
    rw [hturn] at hg
    exact Except.ok.inj hg ▸ bytes
  case chunks =>
    intro g' hg
    rw [hturn] at hg
    exact Except.ok.inj hg ▸ chunks
  case ended =>
    intro g' hg
    rw [hturn] at hg
    exact Except.ok.inj hg ▸ ended

theorem Takes.of_error {e : Failure} (hturn : x.turn t = (.error e, x')) (htakes : x.takes t = ps)
    (front : rest = ps.flatten ++ rest') (stands : x'.response.Stands rest' items) (nonempty : ∀ b ∈ ps, b ≠ []) :
    x.Takes t rest rest' items := by
  subst htakes
  have hnot (g : Gift) : (x.turn t).1 ≠ .ok g := by
    rw [hturn]
    exact fun hg => absurd hg (by simp)
  constructor
  case front => exact front
  case stands =>
    rw [hturn]
    exact stands
  case nonempty => exact nonempty
  case bytes => exact fun g hg => absurd hg (hnot g)
  case chunks => exact fun g hg => absurd hg (hnot g)
  case ended => exact fun g hg => absurd hg (hnot g)

/-- Going on with the iteration at hand. -/
theorem next_takes (h : x.response.Stands rest items) : ∃ rest', x.Takes .next rest rest' items := by
  have hnil : ∀ b ∈ ([] : List Bytes), b ≠ [] := fun b hb => absurd hb List.not_mem_nil
  by_cases hcursor : x.cursor = .spent
  · -- an iteration that is over gives nothing, and says nothing about the body
    have hnext : x.response.next x.cursor = (.ok none, .spent, x.response) := by rw [hcursor, Response.next]
    have htakes : x.takes .next = [] := by rw [takes, hnext]
    have hturn : x.turn .next = (.ok .nothing, { x with cursor := .spent }) := by
      rw [turn, hnext, hcursor]
      rfl
    refine ⟨rest, .of_ok hturn htakes rfl h hnil rfl (List.nil_subset _) ?_⟩
    intro hend
    exact absurd hend Bool.false_ne_true
  · have hgives := Response.next_gives h hcursor
    -- the iteration has not ended, so its end is news
    have hfound (found : Option Bytes) : Gift.ofNext x.cursor found = found.elim .over .piece := by
      unfold Gift.ofNext
      split
      · exact absurd ‹x.cursor = .spent› hcursor
      · rfl
      · rfl
    rcases hn : x.response.next x.cursor with ⟨e | _ | b, c, r'⟩
    · rw [hn] at hgives
      have htakes : x.takes .next = [] := by rw [takes, hn]
      have hturn : x.turn .next = (.error e, { x with response := r', cursor := c }) := by
        rw [turn, hn]
        rfl
      exact ⟨rest, .of_error hturn htakes rfl hgives hnil⟩
    · rw [hn] at hgives
      obtain ⟨rfl, hlast⟩ := hgives
      have htakes : x.takes .next = [] := by rw [takes, hn]
      have hturn : x.turn .next = (.ok .over, { x with response := r', cursor := c }) := by
        rw [turn, hn]
        exact congrArg (fun g => (Except.ok g, _)) (hfound none)
      exact ⟨[], .of_ok hturn htakes rfl hlast hnil rfl (List.nil_subset _) fun _ => rfl⟩
    · rw [hn] at hgives
      obtain ⟨rest', rfl, hne, hstands⟩ := hgives
      have htakes : x.takes .next = [b] := by rw [takes, hn]
      have hturn : x.turn .next = (.ok (.piece b), { x with response := r', cursor := c }) := by
        rw [turn, hn]
        exact congrArg (fun g => (Except.ok g, _)) (hfound (some b))
      have hone : [b].flatten = b := List.flatten_singleton
      refine ⟨rest', .of_ok hturn htakes ?_ hstands ?_ hone.symm (List.Subset.refl _) ?_⟩
      · rw [hone]
      · intro d hd
        rw [List.mem_singleton.mp hd]
        exact hne
      · intro hend
        exact absurd hend Bool.false_ne_true

/-- What a collection takes is what it gives, or what it drops when it fails. -/
theorem collects_takes (h : x.response.Stands rest items) (ht : t = .chunks ∨ t = .read) :
    ∃ rest', x.Takes t rest rest' items := by
  have hfresh : Response.Cursor.fresh ≠ .spent := Response.Cursor.noConfusion
  obtain ⟨rest', hfront, hstands, hpieces, hall⟩ := Response.drainFrom_gathers h hfresh []
  have hread := x.response.read_eq
  rcases hc : x.response.chunks with ⟨e | ps, r'⟩
  · rw [show x.response.drainFrom .fresh [] = _ from hc] at hstands
    rw [hc] at hread
    refine ⟨rest', ?_⟩
    rcases ht with rfl | rfl
    · have hturn : x.turn .chunks = (.error e, { x with response := r' }) := by
        rw [turn, hc]
        rfl
      exact .of_error hturn rfl hfront hstands hpieces
    · have hturn : x.turn .read = (.error e, { x with response := r' }) := by
        rw [turn, hread]
        rfl
      exact .of_error hturn rfl hfront hstands hpieces
  · rw [show x.response.drainFrom .fresh [] = _ from hc] at hstands hall
    rw [hc] at hread
    obtain ⟨hps, hnone⟩ := hall ps rfl
    have hsame : ps = x.response.gather .fresh := hps
    refine ⟨rest', ?_⟩
    rcases ht with rfl | rfl
    · have hturn : x.turn .chunks = (.ok (.pieces ps), { x with response := r' }) := by
        rw [turn, hc]
        rfl
      exact .of_ok hturn hsame.symm (hsame ▸ hfront) hstands (hsame ▸ hpieces) rfl (List.Subset.refl _) fun _ => hnone
    · have hturn : x.turn .read = (.ok (.data ps.flatten), { x with response := r' }) := by
        rw [turn, hread]
        rfl
      exact .of_ok hturn hsame.symm (hsame ▸ hfront) hstands (hsame ▸ hpieces) rfl (List.nil_subset _) fun _ => hnone

/-- **One turn** takes its pieces off the front of what is left. -/
theorem turn_takes (h : x.response.Stands rest items) (ht : t.iterates = true) : ∃ rest', x.Takes t rest rest' items := by
  cases t with
  | next => exact next_takes h
  | restart =>
    refine ⟨rest, .of_ok (g := .nothing) rfl rfl rfl h ?_ rfl (List.nil_subset _) ?_⟩
    · intro b hb
      exact absurd hb List.not_mem_nil
    · intro hend
      exact absurd hend Bool.false_ne_true
  | chunks => exact collects_takes h (Or.inl rfl)
  | read => exact collects_takes h (Or.inr rfl)
  | text => exact absurd ht Bool.false_ne_true
  | close => exact absurd ht Bool.false_ne_true

/-! ## Any turns

  What one turn does to the rest of the body is composed along a list of turns.  The statement about all of them is
  that what is taken is the front of the body, that it is the whole body when an iteration has come to its end, and
  that such an end is in reach when no fault is to come. -/

/-- **Any turns** take their pieces off the front of what is left, one after the other. -/
theorem after_takes (h : x.response.Stands rest items) (hturns : ∀ t ∈ turns, t.iterates = true) :
    ∃ rest', rest = x.taken turns ++ rest' ∧ (x.after turns).response.Stands rest' items := by
  -- the turns behind the first are on another session, with less left
  induction turns generalizing x rest with
  | nil => exact ⟨rest, rfl, h⟩
  | cons t more ih =>
    rw [List.forall_mem_cons] at hturns
    obtain ⟨mid, hturn⟩ := turn_takes h hturns.1
    obtain ⟨rest', hmid, hlast⟩ := ih hturn.stands hturns.2
    refine ⟨rest', ?_, hlast⟩
    show rest = ((x.takes t).flatten ++ (x.turn t).2.taken more) ++ rest'
    rw [List.append_assoc, ← hmid]
    exact hturn.front

/-- What is taken is handed out, unless it is dropped. -/
theorem handed_eq_taken (h : x.response.Stands rest items) (hturns : ∀ t ∈ turns, t.iterates = true)
    (hkept : x.DiscardsNone turns) : x.handed turns = x.taken turns := by
  induction turns generalizing x rest with
  | nil => rfl
  | cons t more ih =>
    rw [List.forall_mem_cons] at hturns
    obtain ⟨mid, hturn⟩ := turn_takes h hturns.1
    -- a turn that gives nothing has taken nothing, for it would have dropped it
    have hhands : x.hands t = (x.takes t).flatten := by
      unfold hands
      split
      · exact hturn.bytes _ ‹_›
      · rename_i e he
        have hnone : x.takes t = [] := by
          by_contra hsome
          exact hkept.1 ⟨⟨e, he⟩, hsome⟩
        rw [hnone]
        rfl
    show x.hands t ++ _ = (x.takes t).flatten ++ _
    rw [hhands, ih hturn.stands hturns.2 hkept.2]

theorem taken_append (x : Session) (turns more : List Turn) :
    x.taken (turns ++ more) = x.taken turns ++ (x.after turns).taken more := by
  induction turns generalizing x with
  | nil => rfl
  | cons t rest ih =>
    show (x.takes t).flatten ++ (x.turn t).2.taken (rest ++ more) = _
    rw [ih, ← List.append_assoc]
    rfl

/-- Some turns on a response give a body with these items faithfully. -/
structure Faithful (x : Session) (body : Bytes) (items : List Bytes) (turns : List Turn) : Prop where
  /-- what was handed out is the front of the body -/
  front : x.DiscardsNone turns → x.handed turns <+: body
  /-- it is the whole body once an iteration has come to its end -/
  whole : x.DiscardsNone turns → ∀ before t g, turns = before ++ [t] → ((x.after before).turn t).1 = .ok g →
    g.isEnd = true → x.handed turns = body
  /-- no piece is empty -/
  chunks : ∀ before t more g, turns = before ++ t :: more → ((x.after before).turn t).1 = .ok g →
    ∀ b ∈ g.chunks, b ≠ []
  /-- the end is in reach: a collection comes to it when no fault is to come and no item is too long -/
  ends : (∀ item ∈ items, item.length ≤ maxWaiting) → (∀ f, Piece.fault f ∉ (x.after turns).stream.incoming) →
    ∃ ps, ((x.after turns).turn .chunks).1 = .ok (.pieces ps) ∧ ((x.after turns).turn .read).1 = .ok (.data ps.flatten)

/-- All of it, for a response that stands anywhere in a body. -/
theorem faithful_of_stands (h : x.response.Stands body items) (hturns : ∀ t ∈ turns, t.iterates = true) :
    x.Faithful body items turns := by
  -- where the turns are cut does not matter
  have hturn (before : List Turn) (t : Turn) (more : List Turn) (hsplit : turns = before ++ t :: more) :
      ∃ mid rest, body = x.taken before ++ mid ∧ (x.after before).Takes t mid rest items := by
    rw [hsplit, List.forall_mem_append, List.forall_mem_cons] at hturns
    obtain ⟨mid, hmid, hstands⟩ := after_takes h hturns.1
    obtain ⟨rest, htakes⟩ := turn_takes hstands hturns.2.1
    exact ⟨mid, rest, hmid, htakes⟩
  constructor
  case front =>
    intro hkept
    obtain ⟨rest, hrest, _⟩ := after_takes h hturns
    rw [handed_eq_taken h hturns hkept]
    exact ⟨rest, hrest.symm⟩
  case whole =>
    intro hkept before t g hsplit hg hend
    obtain ⟨mid, rest, hmid, htakes⟩ := hturn before t [] hsplit
    obtain rfl := htakes.ended g hg hend
    rw [handed_eq_taken h hturns hkept, hsplit, taken_append, hmid, htakes.front]
    rfl
  case chunks =>
    intro before t more g hsplit hg b hb
    obtain ⟨mid, rest, _, htakes⟩ := hturn before t more hsplit
    exact htakes.nonempty b (htakes.chunks g hg hb)
  case ends =>
    intro hsize hfaults
    obtain ⟨rest, _, hstands⟩ := after_takes h hturns
    obtain ⟨s, hs, _⟩ := hstands.attached
    have hstream : (x.after turns).stream = s := by
      rw [stream, hs]
      rfl
    rw [hstream] at hfaults
    obtain ⟨ps, hps⟩ := Response.chunks_isOk hstands hs hsize hfaults
    refine ⟨ps, ?_, ?_⟩
    · rw [turn, hps]
      rfl
    · rw [turn, Response.read_eq, hps]
      rfl

end Session

/-! ## From the first byte of an answer

  The body begins where the head ends, so the invariant has to be established for a response that was just read and
  has been given its stream. -/

/-- The reading of an answer with a body, taken apart. -/
theorem Whole.of_reading_complete {method : Text} {b : Bytes} {head : Head} {body : Bytes}
    (h : reading method b = .complete head body) :
    ∃ rest, head? b = some (head, rest) ∧ Whole.body method head rest = some body := by
  unfold reading at h
  split at h
  · exact absurd h (by simp)
  · rename_i found rest hfound
    split at h
    · exact absurd h (by simp)
    · split at h
      · exact absurd h (by simp)
      · rename_i hbody
        obtain ⟨rfl, rfl⟩ := Reading.complete.inj h
        exact ⟨rest, hfound, hbody⟩

/-- A response that has its stream has the whole body left. -/
theorem Response.stands_attach {s₀ s : Stream} {url : Url} {method : Text} {r : Response} {head : Head} {body : Bytes}
    (hunbroken : s₀.incoming.Unbroken) (hbegin : beginRead s₀ url method = (.ok r, s))
    (hreading : Whole.reading (upper method) s₀.incoming.data = .complete head body) :
    (r.attach s false).Stands body (Whole.items (upper method) s₀.incoming.data) := by
  have hfits : Inbox.Fits {} s₀ := ⟨hunbroken, fun he => absurd he Bool.false_ne_true⟩
  obtain ⟨rest, hwhole, hbody⟩ := Whole.of_reading_complete hreading
  unfold beginRead at hbegin
  split at hbegin
  · exact absurd hbegin (by simp)
  · rename_i checked hchecked
    obtain rfl := checkRequest_eq hchecked
    split at hbegin
    · exact absurd hbegin (by simp)
    · rename_i found inbox s' hread
      obtain ⟨hhead, hinbox⟩ := Whole.head?_of_readHead hfits hread
      -- the head that was read is the one that the whole answer has
      rw [show Inbox.total {} s₀ = s₀.incoming.data from rfl, hwhole, Option.some.injEq, Prod.mk.injEq] at hhead
      obtain ⟨rfl, rfl⟩ := hhead
      rw [Prod.mk.injEq] at hbegin
      obtain ⟨hofHead, rfl⟩ := hbegin
      unfold ofHead at hofHead
      obtain ⟨headers, _, hr⟩ := exists_of_bind_eq_ok hofHead
      have hlive := Reader.live_start hinbox hbody
      have hitems : (Framing.of (upper method) head).phase.items (inbox.total s') ⊆
          Whole.items (upper method) s₀.incoming.data := by
        rw [Framing.items_of, Whole.items, hwhole]
        exact List.subset_append_right _ _
      rw [← Except.ok.inj hr]
      refine ⟨rfl, s', rfl, .amid rfl ⟨hlive.fits, ?_⟩⟩
      exact ⟨hlive.owes.tail, hlive.owes.live, hlive.owes.decode, List.Subset.trans hlive.owes.items hitems⟩

/-- **Iteration is faithful.**  Let a server send an answer with a body, in any pieces and with any faults between them,
    and let the head be read.  Then in any order of going on with the iteration, starting a new one, and collecting all
    of another: the pieces handed out are not empty, and together they are the front of the body, and all of it once an
    iteration has come to its end; unless a collection failed and dropped what it had.  And such an end is in reach. -/
theorem Session.faithful_of_beginRead {s₀ s : Stream} {url : Url} {method : Text} {r : Response} {head : Head}
    {body : Bytes} (hunbroken : s₀.incoming.Unbroken) (hbegin : Response.beginRead s₀ url method = (.ok r, s))
    (hreading : Whole.reading (upper method) s₀.incoming.data = .complete head body) (turns : List Turn)
    (hturns : ∀ t ∈ turns, t.iterates = true) :
    (ofAttached r s false).Faithful body (Whole.items (upper method) s₀.incoming.data) turns :=
  faithful_of_stands (Response.stands_attach hunbroken hbegin hreading) hturns

/-- A stream with a chunk that a fault interrupts. -/
def interruptedStream : Stream :=
  { incoming := [
      .bytes ("HTTP/1.1 200 OK\r\nTransfer-Encoding: chunked\r\n\r\n4\r\nab".toList.map fun c => c.toNat.toUInt8),
      .fault ⟨"ReadTimeout".toList, .timeout, "boom".toList, none⟩,
      .bytes ("cd\r\n0\r\n\r\n".toList.map fun c => c.toNat.toUInt8)] }

/-- An iteration that fails on the fault, a new one that is left, a collection, and the one that was left again. -/
def interruptedTurns : List Turn := [.next, .next, .restart, .next, .read, .next]

/-- All of it together is the body. -/
theorem Session.faithful_of_interrupted :
    ∃ r s, Response.beginRead interruptedStream hostileUrl "get".toList = (.ok r, s) ∧
      (ofAttached r s false).Faithful [97, 98, 99, 100]
        (Whole.items (upper "get".toList) interruptedStream.incoming.data) interruptedTurns ∧
      (ofAttached r s false).handed interruptedTurns = [97, 98, 99, 100] := by
  have hunbroken : ∀ p ∈ interruptedStream.incoming, p ≠ .bytes [] := by decide +kernel
  have hreading : Whole.reading (upper "get".toList) interruptedStream.incoming.data = .complete
      { version := "1.1".toList, status := 200, reason := "OK".toList,
        fields := [{ name := "Transfer-Encoding".toList, value := "chunked".toList }] }
      [97, 98, 99, 100] := by decide +kernel
  have hrun : ((Response.beginRead interruptedStream hostileUrl "get".toList).1.toOption.any fun r =>
      decide ((ofAttached r (Response.beginRead interruptedStream hostileUrl "get".toList).2 false).handed
        interruptedTurns = [97, 98, 99, 100])) = true := by decide +kernel
  rw [Option.any_eq_true] at hrun
  obtain ⟨r, hok, hrest⟩ := hrun
  have hbegin : Response.beginRead interruptedStream hostileUrl "get".toList =
      (.ok r, (Response.beginRead interruptedStream hostileUrl "get".toList).2) :=
    Prod.ext (toOption_eq_some_iff.mp hok) rfl
  exact ⟨r, _, hbegin, faithful_of_beginRead hunbroken hbegin hreading interruptedTurns (by decide),
    of_decide_eq_true hrest⟩

end Courier
