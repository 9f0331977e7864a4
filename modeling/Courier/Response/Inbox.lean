/-
  Bytes that have arrived and are not consumed yet, and the cuts that the grammar of responses makes
  at their front.

  A head, and the trailer of a chunked body, is a block of lines that ends with an empty one; a line may
  end with a line feed alone.  The line of a chunk size ends with carriage return and line feed.  Each
  cut either finds its whole item or asks for more, so where the bytes were divided on their way does
  not matter.
-/
import Courier.Text.Basic

namespace Courier

/-- Bytes received and not consumed, and whether the end of the stream has come. -/
structure Inbox where
  buffer : Bytes := []
  ended : Bool := false
  deriving DecidableEq, Repr

/-- Takes in what a read handed out; nothing means the end. -/
def Inbox.receive (inbox : Inbox) (data : Bytes) : Inbox :=
  if data.isEmpty then { inbox with ended := true }
  else { inbox with buffer := inbox.buffer ++ data }

/-- The line without one carriage return at its end. -/
def dropCarriageReturn (line : Bytes) : Bytes :=
  if line.getLast? = some 13 then line.dropLast else line

theorem length_lt_of_cut {mark : UInt8} {b before rest : Bytes} (h : cut mark b = (before, some rest)) :
    rest.length < b.length := by
  rw [cut_eq_some h]; simp; omega

/-- Cuts lines off the front up to an empty one, given the lines so far in reverse. -/
def takeBlockFrom (lines : List Bytes) (b : Bytes) : Option (List Bytes × Bytes) :=
  match h : cut 10 b with
  | (_, none) => none
  | (line, some rest) =>
    have : rest.length < b.length := length_lt_of_cut h
    let line := dropCarriageReturn line
    if line.isEmpty then some (lines.reverse, rest) else takeBlockFrom (line :: lines) rest
termination_by b.length

/-- Cuts a block of lines and its empty line off the front. -/
def takeBlock (b : Bytes) : Option (List Bytes × Bytes) := takeBlockFrom [] b

theorem length_lt_of_takeBlockFrom {lines result : List Bytes} {b rest : Bytes}
    (h : takeBlockFrom lines b = some (result, rest)) : rest.length < b.length := by
  induction hn : b.length using Nat.strongRecOn generalizing lines b with
  | ind n ih =>
    subst hn
    rw [takeBlockFrom] at h
    split at h
    · simp at h
    · rename_i line r hc
      have hr := length_lt_of_cut hc
      dsimp only at h
      split at h
      · simp only [Option.some.injEq, Prod.mk.injEq] at h
        rw [← h.2]; exact hr
      · exact Nat.lt_trans (ih r.length hr h rfl) hr

theorem length_lt_of_takeBlock {result : List Bytes} {b rest : Bytes}
    (h : takeBlock b = some (result, rest)) : rest.length < b.length :=
  length_lt_of_takeBlockFrom h

/-- Cuts off the front up to the first carriage return with line feed, given the bytes before in
    reverse. -/
def takeLineFrom (before : Bytes) : Bytes → Option (Bytes × Bytes)
  | [] => none
  | 13 :: 10 :: rest => some (before.reverse, rest)
  | b :: rest => takeLineFrom (b :: before) rest

/-- Cuts a line off the front; the line comes without its end. -/
def takeLine (b : Bytes) : Option (Bytes × Bytes) := takeLineFrom [] b

theorem length_lt_of_takeLineFrom {before line : Bytes} {b rest : Bytes}
    (h : takeLineFrom before b = some (line, rest)) : rest.length < b.length := by
  fun_induction takeLineFrom before b with
  | case1 => simp at h
  | case2 => simp only [Option.some.injEq, Prod.mk.injEq] at h; rw [← h.2]; simp only [List.length_cons]; omega
  | case3 before x t _ ih => have := ih h; simp only [List.length_cons]; omega

theorem length_lt_of_takeLine {line : Bytes} {b rest : Bytes}
    (h : takeLine b = some (line, rest)) : rest.length < b.length :=
  length_lt_of_takeLineFrom h

end Courier
