/-
  The target of a request.

  A request writes the path of its URL up to a question mark, and then the query with one.  The path is taken from a
  text in which path and query stand together, so a question mark in the path would cut it short and make the rest
  of it a part of the query.

  For a URL that was read the two are its path and its query.  A question mark that is part of the path is escaped
  when the URL is brought to canonical form (`Url.unmarked_of_ofCuts`), since it is not among the characters that
  are safe in a path and no escape is written with it.  Every URL that a redirect resolves to was brought to that
  form last of all (`Url.unmarked_of_join`).  So on every hop the whole path is written
  (`Url.Unmarked.requestPath`), and without parameters of the caller the query is the one that the URL has, or
  nothing (`Url.combineQuery_absent`).
-/
import Courier.Proofs.Text.Visible
import Courier.Proofs.Url.Reading
import Courier.Url.Query

namespace Courier

theorem questionMark_notMem_percentByte (b : UInt8) : '?' ∉ percentByte b := by
  intro hmem
  have hne : ('?' != '?') = true := of_mem_percentByte (by decide) hmem
  exact absurd hne (by decide)

namespace Url

variable {u base : Url}

/-- No question mark in the path. -/
def Unmarked (u : Url) : Prop := '?' ∉ u.path

/-! ## Every URL that is read

  The path comes out of percent coding on every way. -/

/-- Percent coding leaves no question mark in a path. -/
theorem unmarked_of_ofCuts {cuts : Cuts} (h : ofCuts cuts = .ok u) : u.Unmarked := by
  rw [Unmarked, (readOff_of_ofCuts h).path]
  intro hmem
  rcases safe_or_escape_of_mem_percentEncode hmem with hsafe | ⟨b, hb⟩
  · exact absurd hsafe (by decide)
  · exact questionMark_notMem_percentByte b hb

/-- **What a redirect resolves to has no question mark in its path.** -/
theorem unmarked_of_join {location : Text} (h : join base location = .ok u) : u.Unmarked := by
  obtain ⟨cuts, hcuts⟩ := exists_ofCuts_of_join h
  exact unmarked_of_ofCuts hcuts

/-! ## The target

  What is written into the request line, taken apart into path and query. -/

/-- The whole path is written. -/
theorem Unmarked.requestPath (h : u.Unmarked) : u.requestPath = u.rootedPath := by
  have hpath : '?' ∉ u.rootedPath := by
    rw [rootedPath]
    split
    · decide
    · exact h
  rw [Url.requestPath, target]
  -- the path ends at the first question mark, which is the one before the query if there is any
  cases u.query with
  | none =>
    rw [List.append_nil]
    exact beforeMark_of_notMem hpath
  | some q => exact (beforeMark_append ..).trans (beforeMark_of_notMem hpath)

/-- Without a query of the caller a request has the query of its URL, unless that is empty. -/
theorem combineQuery_absent (u : Url) :
    u.combineQuery .absent = if u.queryText = [] then [] else '?' :: u.queryText := by
  have hnone : Query.text .absent = [] := rfl
  rw [combineQuery, hnone]
  cases u.queryText with
  | nil => rfl
  | cons c rest => rfl

end Url

end Courier
