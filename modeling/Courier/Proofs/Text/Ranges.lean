/-
  What a look-up in a table of code points can find.

  The tables of the library are texts: rows of numbers, in the order of their first number, in which a code point is
  looked up by bisection.  What is proved about a look-up comes from two facts about the bisection and a check of
  the text.

  1. A row that is found is one of the table (`Rows.mem_of_rowAt?`) and begins at or below the code point
     (`Rows.le_of_rowAt?`): the bisection never steps past a key that is too large (`boundary_le`).  Neither needs
     the table to be in order.  So what holds of all rows of a table holds of whatever is looked up.

  2. That a row is found takes the order of the keys as well (`boundary_eq`).  It is needed in one place only, for
     the first row of a table (`rowAt?_of_first`).

  3. The rows of a table are read off its text (`Rows.toList_read`), so a fact about all rows is a finite check of
     the text.  For large tables the check is kept to the rows that matter: those that begin within ASCII.

  `Rows.contains` is looking up a range.  What a table contains is in one of its ranges
  (`exists_covers_of_contains`), so a check of the ranges shows what a table does not contain.
-/
import Courier.Text.Ranges

namespace Courier

/-- The bisection ends at its left end, or right after a key that is not too large. -/
theorem boundary_le (key : Nat → Nat) (c lo hi : Nat) :
    boundary key c lo hi = lo ∨ key (boundary key c lo hi - 1) ≤ c := by
  fun_induction boundary key c lo hi with
  -- the right half: the key in the middle is not too large
  | case1 lo hi hlt mid hkey ih =>
    rcases ih with h | h
    · right
      rw [h, Nat.add_sub_cancel]
      exact hkey
    · exact Or.inr h
  | case2 lo hi hlt mid hkey ih => exact ih
  | case3 lo hi hlt => exact Or.inl rfl

/-- The bisection finds the boundary of keys that have one. -/
theorem boundary_eq {key : Nat → Nat} {c k lo hi : Nat} (hbelow : ∀ i < k, key i ≤ c)
    (habove : ∀ i, k ≤ i → i < hi → c < key i) (hlo : lo ≤ k) (hhi : k ≤ hi) : boundary key c lo hi = k := by
  fun_induction boundary key c lo hi with
  | case1 lo hi hlt mid hkey ih =>
    refine ih habove (Nat.lt_of_not_le fun hle => ?_) hhi
    exact Nat.not_lt.mpr hkey (habove mid hle (by omega))
  | case2 lo hi hlt mid hkey ih =>
    refine ih (fun i hki hi' => habove i hki (by omega)) hlo (Nat.le_of_not_lt fun hlt => ?_)
    exact hkey (hbelow mid hlt)
  | case3 lo hi hlt => omega

namespace Rows

/-- The rows of a table that is written as a list of characters. -/
def readList (s : Text) : List (List Nat) :=
  ((s.splitOnP dividesRows).filter fun row => !row.isEmpty).map fun row => (row.splitOn ',').map tableNumber

/-- The rows of a table as they stand in its text. -/
theorem toList_read (s : Text) : (Rows.read (String.ofList s)).toList = readList s := by
  simp [Rows.read, readList, String.toList_ofList]

/-- What is checked of the text of a table holds of its rows. -/
theorem all_toList_read {p : List Nat → Bool} {s : Text} (h : (readList s).all p = true) :
    (Rows.read (String.ofList s)).toList.all p = true := by
  rw [toList_read]
  exact h

variable {rows : Rows} {c : Nat} {row : List Nat}

/-- A row that is found is one of the table. -/
theorem mem_of_rowAt? (h : rows.rowAt? c = some row) : row ∈ rows.toList := by
  rw [rowAt?] at h
  split at h
  · exact absurd h (by simp)
  · exact Array.mem_toList_iff.mpr (Array.mem_of_getElem? h)

/-- A row that is found begins at or below the code point. -/
theorem le_of_rowAt? (h : rows.rowAt? c = some row) : row.headD 0 ≤ c := by
  have hkey := boundary_le (fun i => (rows.getD i []).headD 0) c 0 rows.size
  rw [rowAt?] at h
  split at h
  · exact absurd h (by simp)
  · rename_i i hi
    rw [hi] at hkey
    have hrow : rows.getD i [] = row := by
      rw [Array.getD_eq_getD_getElem?, h, Option.getD_some]
    rw [← hrow]
    exact hkey.resolve_left (Nat.succ_ne_zero i)

/-- A code point that only the first row begins at or below finds that row. -/
theorem rowAt?_of_first {rows : Rows} {c : Nat} {row : List Nat} {rest : List (List Nat)}
    (hrows : rows.toList = row :: rest) (hrow : row.headD 0 ≤ c) (hrest : ∀ r ∈ rest, c < r.headD 0) :
    rows.rowAt? c = some row := by
  have hlookup (i : Nat) : rows[i]? = (row :: rest)[i]? := by rw [← hrows, Array.getElem?_toList]
  have hone : boundary (fun i => (rows.getD i []).headD 0) c 0 rows.size = 1 := by
    refine boundary_eq (fun i hi => ?_) (fun i hi hsize => ?_) (Nat.zero_le 1) ?_
    · rw [Nat.lt_one_iff.mp hi, Array.getD_eq_getD_getElem?, hlookup]
      exact hrow
    · -- all rows behind the first one begin above
      obtain ⟨i, rfl⟩ := Nat.exists_eq_add_of_le' hi
      rw [← Array.length_toList, hrows, List.length_cons, Nat.add_lt_add_iff_right] at hsize
      rw [Array.getD_eq_getD_getElem?, hlookup, List.getElem?_cons_succ, List.getElem?_eq_getElem hsize]
      exact hrest _ (List.getElem_mem hsize)
    · rw [← Array.length_toList, hrows]
      exact Nat.le_add_left 1 _
  rw [rowAt?, hone]
  exact hlookup 0
/-! ## Ranges

  A table of ranges holds a code point when the row that is found for it reaches as far as the code point. -/

/-- Whether a row of a table of ranges holds a code point. -/
def covers (c : Nat) : List Nat → Bool
  | [low] => c == low
  | low :: high :: _ => low ≤ c && c ≤ high
  | [] => false

/-- A range that holds a code point begins at or below it. -/
theorem le_of_covers (h : covers c row = true) : row.headD 0 ≤ c := by
  match row, h with
  | [low], h => exact Nat.le_of_eq (beq_iff_eq.mp h).symm
  | low :: high :: _, h =>
    rw [covers, Bool.and_eq_true, decide_eq_true_iff] at h
    exact h.1

/-- What a table contains is in one of its ranges. -/
theorem exists_covers_of_contains (h : rows.contains c = true) : ∃ row ∈ rows.toList, covers c row = true := by
  rw [contains] at h
  split at h
  · rename_i hrow
    exact ⟨_, mem_of_rowAt? hrow, h⟩
  · rename_i hrow
    exact ⟨_, mem_of_rowAt? hrow, h⟩
  · exact absurd h Bool.false_ne_true

theorem contains_read_eq_false {s : Text} (h : (readList s).any (covers c) = false) :
    (Rows.read (String.ofList s)).contains c = false := by
  rw [← toList_read, List.any_eq_false] at h
  rw [← Bool.not_eq_true]
  intro hcontains
  obtain ⟨row, hrow, hcovers⟩ := exists_covers_of_contains hcontains
  exact h row hrow hcovers

/-- Whether a row holds of ASCII only code points with a property. -/
def keepsAscii (p : Nat → Bool) (row : List Nat) : Bool :=
  128 ≤ row.headD 0 || (List.range 128).all fun c => !covers c row || p c

theorem of_contains_read {p : Nat → Bool} {s : Text} (h : (readList s).all (keepsAscii p) = true) (hc : c < 128)
    (hcontains : (Rows.read (String.ofList s)).contains c = true) : p c = true := by
  obtain ⟨row, hrow, hcovers⟩ := exists_covers_of_contains hcontains
  rw [toList_read] at hrow
  have hkeeps := List.all_eq_true.mp h row hrow
  rw [keepsAscii, Bool.or_eq_true, decide_eq_true_iff, List.all_eq_true] at hkeeps
  rcases hkeeps with hhigh | hall
  · exact absurd (Nat.le_trans hhigh (le_of_covers hcovers)) (Nat.not_le.mpr hc)
  · have hp := hall c (List.mem_range.mpr hc)
    rwa [hcovers, Bool.not_true, Bool.false_or] at hp

end Rows

end Courier
