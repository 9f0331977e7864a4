/-
  The look-ups of a list of fields, and its joined form.

  The joined form is built up field by field, and it is what the look-ups say it is (`Header.joined_eq`): an entry
  for each name in lower case at the place of its first field, with all values under the name.  That is read off
  grouping by names, of which the joined form is the groups with their values joined (`Header.joined_eq_map_group`).
  Both are built from the left and grow at the end, so this is an induction on the last field, in which one field is
  added on both sides.

  A list can also be joined in parts, and this needs more than look-ups.  When the joined form of a second list is
  added to that of a first one entry by entry (`Header.mergeEntries`), every entry comes with all its values at
  once, while the fields of the second list would have come one at a time, with those of other names in between.

  1. Adding two entries under one name is adding one entry with the values joined (`addEntry_addEntry`).

  2. An entry whose name is there already can be added before an entry of another name as well as behind it
     (`addEntry_comm`), and so past any number of them (`mergeEntries_addEntry_left`).  It must be there already,
     because otherwise its place at the end would change.

  3. So what is added to the second form is added to the merged one (`mergeEntries_addEntry`): if the name is new
     in the second form, the entry comes last anyway; if it is there, its value joins the entry, and is taken past
     the others behind that.  `joined_append` is the induction.

  Values may be empty, and a name may then have an empty entry; nothing here asks for values that are not.
-/
import Courier.Header.Fields
import Courier.Proofs.Text.Case
import Courier.Proofs.Url.Query

namespace Courier

/-- A part is joined behind others with a separator between. -/
theorem intercalate_concat {α : Type} (between : List α) {parts : List (List α)} (h : parts ≠ []) (last : List α) :
    between.intercalate (parts ++ [last]) = between.intercalate parts ++ between ++ last := by
  induction parts with
  | nil => exact absurd rfl h
  | cons part rest ih =>
    cases rest with
    | nil => simp [List.intercalate]
    | cons next rest =>
      have hrest := ih (List.cons_ne_nil _ _)
      rw [List.intercalate, List.intercalate] at hrest ⊢
      rw [List.cons_append, List.cons_append, List.intersperse_cons_cons, List.intersperse_cons_cons,
        List.flatten_cons, List.flatten_cons, ← List.cons_append, hrest]
      simp

namespace Header

variable {done front back : List (Text × Text)} {e f : Text × Text}

/-! ## Entries

  Adding an entry joins its value to the one that its name has, or puts the entry at the end.  Adding the same name
  twice is adding the joined values once, and two names may be added in either order if they are there already. -/

/-- The entry that a field makes by itself. -/
def entry (h : Header) : Text × Text := (lower h.name, h.value)

/-- Adds an entry to a joined form: behind the value that its name has, or at the end. -/
def addEntry (done : List (Text × Text)) (e : Text × Text) : List (Text × Text) :=
  if done.any fun d => d.1 == e.1 then
    done.map fun d => if d.1 == e.1 then (d.1, d.2 ++ separator ++ e.2) else d
  else done ++ [e]

/-- The first joined form with the entries of the second added one by one. -/
def mergeEntries (front back : List (Text × Text)) : List (Text × Text) := back.foldl addEntry front

/-- An entry with the value of another behind its own if they have one name. -/
def extend (e d : Text × Text) : Text × Text := if d.1 == e.1 then (d.1, d.2 ++ separator ++ e.2) else d

/-- Values of another name are left alone. -/
theorem extend_of_ne {d : Text × Text} (h : d.1 ≠ e.1) : extend e d = d := by
  rw [extend, if_neg fun hsame => h (beq_iff_eq.mp hsame)]

theorem extend_self (key v w : Text) : extend (key, w) (key, v) = (key, v ++ separator ++ w) := by
  rw [extend, if_pos (beq_self_eq_true key)]

theorem fst_extend (e d : Text × Text) : (extend e d).1 = d.1 := by
  rw [extend]
  split
  · rfl
  · rfl

/-- Values of two names are joined in either order. -/
theorem extend_comm (h : f.1 ≠ e.1) (d : Text × Text) : extend e (extend f d) = extend f (extend e d) := by
  by_cases hd : d.1 = f.1
  · -- then the other name is not its own
    have hne : d.1 ≠ e.1 := hd ▸ h
    have hstill : (extend f d).1 ≠ e.1 := by rwa [fst_extend]
    rw [extend_of_ne hne, extend_of_ne hstill]
  · have hstill : (extend e d).1 ≠ f.1 := by rwa [fst_extend]
    rw [extend_of_ne hd, extend_of_ne hstill]

/-- Joining values changes no name. -/
theorem keys_map_extend (e : Text × Text) (done : List (Text × Text)) :
    (done.map (extend e)).map Prod.fst = done.map Prod.fst := by
  rw [List.map_map]
  exact List.map_congr_left fun d _ => fst_extend e d

theorem map_extend_of_notMem (h : e.1 ∉ done.map Prod.fst) : done.map (extend e) = done := by
  refine (List.map_congr_left fun d hd => ?_).trans (List.map_id done)
  exact extend_of_ne fun hsame => h (hsame ▸ List.mem_map_of_mem hd)

theorem any_key_iff : (done.any fun d => d.1 == e.1) = true ↔ e.1 ∈ done.map Prod.fst := by
  rw [List.any_eq_true, List.mem_map]
  exact exists_congr fun d => and_congr_right fun _ => beq_iff_eq

/-- Under a name that is there, values are joined. -/
theorem addEntry_of_mem (h : e.1 ∈ done.map Prod.fst) : addEntry done e = done.map (extend e) := by
  rw [addEntry, if_pos (any_key_iff.mpr h)]
  rfl

/-- Under a new name, an entry is added at the end. -/
theorem addEntry_of_notMem (h : e.1 ∉ done.map Prod.fst) : addEntry done e = done ++ [e] := by
  rw [addEntry, if_neg fun hany => h (any_key_iff.mp hany)]

/-- The names that are there after an entry was added. -/
theorem mem_keys_addEntry {key : Text} : key ∈ (addEntry done e).map Prod.fst ↔ key ∈ done.map Prod.fst ∨ key = e.1 := by
  by_cases h : e.1 ∈ done.map Prod.fst
  · rw [addEntry_of_mem h, keys_map_extend]
    constructor
    · exact Or.inl
    · rintro (hkey | rfl)
      · exact hkey
      · exact h
  · rw [addEntry_of_notMem h, List.map_append, List.mem_append, List.map_singleton, List.mem_singleton]

/-- The values of two entries under one name are joined by adding one after the other. -/
theorem addEntry_addEntry (done : List (Text × Text)) (key v w : Text) :
    addEntry (addEntry done (key, v)) (key, w) = addEntry done (key, v ++ separator ++ w) := by
  have hthere : key ∈ (addEntry done (key, v)).map Prod.fst := mem_keys_addEntry.mpr (Or.inr rfl)
  rw [addEntry_of_mem (e := (key, w)) hthere]
  by_cases h : key ∈ done.map Prod.fst
  · -- the name was there: both values go behind what it has
    rw [addEntry_of_mem (e := (key, v)) h, addEntry_of_mem (e := (key, _)) h, List.map_map]
    refine List.map_congr_left fun d _ => ?_
    rw [Function.comp_apply]
    by_cases hd : d.1 = key
    · obtain ⟨name, value⟩ := d
      obtain rfl : name = key := hd
      simp only [extend_self, List.append_assoc]
    · have hstill (w : Text) : extend (key, w) d = d := extend_of_ne hd
      rw [hstill, hstill, hstill]
  · -- it was new: the first value makes the entry, and the second is joined to it
    rw [addEntry_of_notMem (e := (key, v)) h, addEntry_of_notMem (e := (key, _)) h, List.map_append,
      map_extend_of_notMem (e := (key, w)) h, List.map_singleton, extend_self]

/-- An entry can be added before another one if its name is there already. -/
theorem addEntry_comm (h : e.1 ∈ done.map Prod.fst) (hne : f.1 ≠ e.1) :
    addEntry (addEntry done f) e = addEntry (addEntry done e) f := by
  have hthere : e.1 ∈ (addEntry done f).map Prod.fst := mem_keys_addEntry.mpr (Or.inl h)
  rw [addEntry_of_mem hthere, addEntry_of_mem h]
  by_cases hf : f.1 ∈ done.map Prod.fst
  · -- both names are there
    rw [addEntry_of_mem hf, addEntry_of_mem (by rw [keys_map_extend]; exact hf), List.map_map, List.map_map]
    exact List.map_congr_left fun d _ => extend_comm hne d
  · -- the other one is new, and comes last in either order
    rw [addEntry_of_notMem hf, addEntry_of_notMem (by rw [keys_map_extend]; exact hf), List.map_append,
      List.map_singleton, extend_of_ne hne]

/-! ## Merging

  A joined form is added to another one entry by entry. -/

/-- Past entries of other names an entry can be added first or last. -/
theorem mergeEntries_addEntry_left (h : e.1 ∈ front.map Prod.fst) (hback : e.1 ∉ back.map Prod.fst) :
    mergeEntries (addEntry front e) back = addEntry (mergeEntries front back) e := by
  induction back generalizing front with
  | nil => rfl
  | cons f rest ih =>
    rw [List.map_cons, List.mem_cons, not_or] at hback
    show mergeEntries (addEntry (addEntry front e) f) rest = addEntry (mergeEntries (addEntry front f) rest) e
    rw [← addEntry_comm h (Ne.symm hback.1)]
    exact ih (mem_keys_addEntry.mpr (Or.inl h)) hback.2

/-- **Merging goes on entry by entry**: what is added to the second form is added to the merged one. -/
theorem mergeEntries_addEntry (honce : (back.map Prod.fst).Nodup) (front : List (Text × Text)) (e : Text × Text) :
    mergeEntries front (addEntry back e) = addEntry (mergeEntries front back) e := by
  by_cases h : e.1 ∈ back.map Prod.fst
  · rw [addEntry_of_mem h]
    induction back generalizing front with
    | nil => exact absurd h List.not_mem_nil
    | cons d rest ih =>
      rw [List.map_cons, List.nodup_cons] at honce
      by_cases hd : d.1 = e.1
      · -- the name of the entry is in front, so the rest is as it was
        obtain ⟨key, v⟩ := d
        obtain ⟨name, w⟩ := e
        obtain rfl : key = name := hd
        rw [List.map_cons, map_extend_of_notMem (e := (key, w)) honce.1, extend_self]
        show mergeEntries (addEntry front (key, v ++ separator ++ w)) rest = _
        rw [← addEntry_addEntry]
        exact mergeEntries_addEntry_left (mem_keys_addEntry.mpr (Or.inr rfl)) honce.1
      · -- the name stands further behind
        rw [List.map_cons, extend_of_ne hd]
        refine ih honce.2 (addEntry front d) ?_
        rw [List.map_cons, List.mem_cons] at h
        exact h.resolve_left (Ne.symm hd)
  · rw [addEntry_of_notMem h, mergeEntries, List.foldl_append]
    rfl

/-! ## Joined forms

  A joined form is built field by field, and so are the groups of the fields by their names.  The look-ups are read
  off the groups. -/

variable {hs : List Header} {name : Text}

/-- The last field is the last to be added. -/
theorem joined_concat (hs : List Header) (h : Header) : joined (hs ++ [h]) = addEntry (joined hs) h.entry := by
  rw [joined, List.foldl_append]
  rfl

/-- A group has a value. -/
theorem ne_nil_of_mem_group {pairs : List (Text × Text)} {g : Text × List Text}
    (hg : g ∈ Form.group (· == ·) pairs) : g.2 ≠ [] := by
  rw [Form.group_eq] at hg
  obtain ⟨key, hkey, rfl⟩ := List.mem_map.mp hg
  obtain ⟨p, hp, rfl⟩ := List.mem_map.mp (List.mem_eraseDups.mp hkey)
  have hmem : p ∈ pairs.filter fun q => q.1 == p.1 := List.mem_filter.mpr ⟨hp, beq_self_eq_true _⟩
  exact List.ne_nil_of_mem (List.mem_map_of_mem hmem)

/-- **The joined form is the groups of the fields, with their values joined.** -/
theorem joined_eq_map_group (hs : List Header) :
    joined hs = (Form.group (· == ·) (hs.map entry)).map fun g => (g.1, separator.intercalate g.2) := by
  induction hs using List.reverseRecOn with
  | nil => rfl
  | append_singleton hs h ih =>
    rw [joined_concat, ih, List.map_append, List.map_singleton, Form.group_concat, Form.addTo, addEntry, List.any_map,
      List.map_map]
    split
    · -- a group takes the value, and the entry is joined with it
      rw [if_pos ‹_›, List.map_map]
      refine List.map_congr_left fun g hg => ?_
      rw [Function.comp_apply, Function.comp_apply]
      split
      · rw [intercalate_concat _ (ne_nil_of_mem_group hg)]
      · rfl
    · -- a group of one value is joined without a separator
      have hsingle : separator.intercalate [h.entry.2] = h.entry.2 := by simp [List.intercalate]
      rw [if_neg ‹_›, List.map_append, List.map_singleton, hsingle]

/-- The values of the entries of one name are the values that a look-up finds. -/
theorem values_entry (hs : List Header) (name : Text) :
    ((hs.map entry).filter fun p => p.1 == lower name).map Prod.snd = valuesOf hs name := by
  rw [List.filter_map, List.map_map]
  rfl

/-- A look-up does not look at the case of the name. -/
theorem valuesOf_lower (hs : List Header) (name : Text) : valuesOf hs (lower name) = valuesOf hs name := by
  rw [← values_entry, lower_lower, values_entry]

/-- **The joined form by look-ups**: an entry for each name in lower case, at the place of its first field, with all
    values under the name. -/
theorem joined_eq (hs : List Header) :
    joined hs = (hs.map fun h => lower h.name).eraseDups.map fun key =>
      (key, separator.intercalate (valuesOf hs key)) := by
  have hkeys : (hs.map entry).map Prod.fst = hs.map fun h => lower h.name := by
    rw [List.map_map]
    rfl
  rw [joined_eq_map_group, Form.group_eq, List.map_map, hkeys]
  refine List.map_congr_left fun key hkey => ?_
  obtain ⟨h, _, rfl⟩ := List.mem_map.mp (List.mem_eraseDups.mp hkey)
  rw [Function.comp_apply, values_entry, valuesOf_lower]

/-- The joined form has the names in lower case, each once, in order of first appearance. -/
theorem keys_joined (hs : List Header) :
    (joined hs).map Prod.fst = (hs.map fun h => lower h.name).eraseDups := by
  rw [joined_eq, List.map_map]
  exact List.map_id _

theorem nodup_keys_joined (hs : List Header) : ((joined hs).map Prod.fst).Nodup := by
  rw [keys_joined]
  exact Form.nodup_eraseDups _

/-- **A list of fields can be joined in parts.** -/
theorem joined_append (front back : List Header) :
    joined (front ++ back) = mergeEntries (joined front) (joined back) := by
  induction back using List.reverseRecOn with
  | nil =>
    rw [List.append_nil]
    rfl
  | append_singleton back h ih =>
    rw [← List.append_assoc, joined_concat, ih, joined_concat, mergeEntries_addEntry (nodup_keys_joined back)]

/-- A look-up in a list of keys with a value each. -/
theorem lookup_map_pair {keys : List Text} (values : Text → Text) (key : Text) :
    (keys.map fun k => (k, values k)).lookup key = if key ∈ keys then some (values key) else none := by
  induction keys with
  | nil => rfl
  | cons k rest ih =>
    rw [List.map_cons, List.lookup_cons, ih]
    by_cases hkey : key = k
    · simp [hkey]
    · rw [beq_eq_false_iff_ne.mpr hkey]
      simp [hkey]

theorem valuesOf_ne_nil_iff : valuesOf hs name ≠ [] ↔ ∃ h ∈ hs, lower h.name = lower name := by
  rw [valuesOf, ne_eq, List.map_eq_nil_iff, List.filter_eq_nil_iff]
  simp only [hasName, beq_iff_eq, not_forall, not_not, exists_prop]

theorem valuesOf_eq (hs : List Header) (name : Text) :
    valuesOf hs name = (hs.filter fun h => lower h.name = lower name).map value := by
  rw [valuesOf]
  refine congrArg (List.map value) (List.filter_congr fun h _ => ?_)
  rw [hasName, Bool.eq_iff_iff, beq_iff_eq, decide_eq_true_iff]

/-- There is no first value when there are no values. -/
theorem valueOf?_eq_none_iff : valueOf? hs name = none ↔ valuesOf hs name = [] := by
  rw [valueOf?_eq_head?, List.head?_eq_none_iff]

theorem contains_iff_valuesOf : contains hs name = true ↔ valuesOf hs name ≠ [] := by
  rw [contains, Option.isSome_iff_ne_none, ne_eq, valueOf?_eq_none_iff]

/-- A name in any case has its joined values in the joined form, and no entry when it has no field. -/
theorem lookup_joined (hs : List Header) (name : Text) :
    (joined hs).lookup (lower name) =
      if contains hs name then some (separator.intercalate (valuesOf hs name)) else none := by
  have hthere : lower name ∈ (hs.map fun h => lower h.name).eraseDups ↔ contains hs name = true := by
    rw [List.mem_eraseDups, List.mem_map, contains_iff_valuesOf, valuesOf_ne_nil_iff]
  rw [joined_eq, lookup_map_pair fun key => separator.intercalate (valuesOf hs key), valuesOf_lower]
  exact if_congr hthere rfl rfl

/-- **The look-ups of a list of fields agree with each other.**  All values under a name are those of the fields whose
    name is the same in lower case, in order; the first value is the first of them, and there is none exactly when they
    are none; a name is there when there is a value.  The joined form has one entry for each name in lower case, in the
    order of first appearance, with all values under the name between separators, and so it gives for a name in any
    case what the look-ups give.  Cutting the list anywhere, joining both parts and adding the entries of the second to
    the first gives the same joined form. -/
theorem lookUps_agree (hs : List Header) :
    (∀ name, valuesOf hs name = (hs.filter fun h => lower h.name = lower name).map value ∧
      valueOf? hs name = (valuesOf hs name).head? ∧ (valueOf? hs name = none ↔ valuesOf hs name = []) ∧
      (contains hs name = true ↔ valuesOf hs name ≠ []) ∧
      (joined hs).lookup (lower name) =
        if contains hs name then some (separator.intercalate (valuesOf hs name)) else none) ∧
    joined hs = (hs.map fun h => lower h.name).eraseDups.map (fun key =>
      (key, separator.intercalate (valuesOf hs key))) ∧
    ((joined hs).map Prod.fst).Nodup ∧
    ∀ n, mergeEntries (joined (hs.take n)) (joined (hs.drop n)) = joined hs := by
  refine ⟨fun name => ?_, joined_eq hs, nodup_keys_joined hs, fun n => ?_⟩
  · exact ⟨valuesOf_eq hs name, valueOf?_eq_head? hs name, valueOf?_eq_none_iff, contains_iff_valuesOf,
      lookup_joined hs name⟩
  · rw [← joined_append, List.take_append_drop]

/-- Three spellings of one name around another name, with an empty value. -/
example :
    joined [⟨"Via".toList, "a".toList⟩, ⟨"X".toList, []⟩, ⟨"VIA".toList, []⟩, ⟨"via".toList, "b".toList⟩] =
      [("via".toList, "a, , b".toList), ("x".toList, [])] := by
  decide +kernel

end Header

end Courier
