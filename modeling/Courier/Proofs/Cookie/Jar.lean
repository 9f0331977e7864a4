/-
  The jar as a set of cookies under their keys.

  A jar is entries within entries within entries: under each domain its paths, under each path its names, and under
  each name a cookie.  What keeps it in order is one property at all three levels, that each key stands there once
  and that what is stored under it belongs there (`Keyed`).  Since the property is about entries of any kind, the
  changes are too, and each is dealt with once.

  1. `alterAt` changes what stands under a key or adds it at the end, and `modifyAt` changes it if it is there.
     Both keep entries in order, when what they make belongs under the key (`keyed_alterAt`, `keyed_modifyAt`).
     Storing and removing are these two nested three deep, so that they preserve the order of a jar follows by
     nesting the lemmas (`WellKeyed.insert`, `WellKeyed.erase`).

  2. A jar is looked at through the list of its cookies, so the changes are said of that as well.  Removing a key
     is dropping the one cookie with that key from the list (`WellKeyed.toList_erase`), which uses at each level
     that the key stands there once: the entry that is changed is the only one that the filter would touch.  Storing
     a cookie puts it into the list and brings in no other (`mem_insert_self`, `mem_of_mem_insert`).

  3. Every jar that is filled by callers and by responses is in order (`wellKeyed_of_reachable`).  `Reachable` is
     the history of a jar, and taking in the values of a response does at each value one of the two changes or none.

  In a jar in order a key names one cookie (`WellKeyed.eq_of_key`).  Outside one, nothing of this holds: with a key
  that stands there twice, removing it would leave the second.
-/
import Courier.Cookie.Exchange
import Mathlib.Data.List.Nodup

namespace Courier

/-! ## Entries

  Lists of entries with a key each, as they are on every level of a jar.  A key that is there keeps its place when
  what stands under it is changed, and a new one goes to the end.  Each fact is proved once here and used on all
  three levels. -/

section

variable {α β : Type} {belongs : Text → α → Prop} {entries : List (Text × α)} {key : Text}

/-- Entries with each key once, and under each key a value that belongs there. -/
structure Keyed (belongs : Text → α → Prop) (entries : List (Text × α)) : Prop where
  once : (entries.map Prod.fst).Nodup
  belongs : ∀ e ∈ entries, belongs e.1 e.2

theorem Keyed.nil : Keyed belongs [] := ⟨List.nodup_nil, nofun⟩

/-- Entries are in order when the first key is not among the others, its value belongs there, and the others are
    in order. -/
theorem keyed_cons {e : Text × α} :
    Keyed belongs (e :: entries) ↔ e.1 ∉ entries.map Prod.fst ∧ belongs e.1 e.2 ∧ Keyed belongs entries := by
  constructor
  · rintro ⟨honce, hall⟩
    rw [List.map_cons, List.nodup_cons] at honce
    rw [List.forall_mem_cons] at hall
    exact ⟨honce.1, hall.1, honce.2, hall.2⟩
  · rintro ⟨hnew, he, honce, hall⟩
    refine ⟨?_, List.forall_mem_cons.mpr ⟨he, hall⟩⟩
    rw [List.map_cons, List.nodup_cons]
    exact ⟨hnew, honce⟩

theorem Keyed.eq_of_mem (h : Keyed belongs entries) {v w : α} (hv : (key, v) ∈ entries) (hw : (key, w) ∈ entries) :
    v = w := by
  have hsame : (key, v) = (key, w) := List.inj_on_of_nodup_map h.once hv hw rfl
  exact (Prod.mk.inj hsame).2

namespace Jar

/-- What stands there after a change stood there before, or was made by it. -/
theorem mem_alterAt {f : Option α → α} {e : Text × α} (h : e ∈ alterAt f key entries) :
    e ∈ entries ∨ ∃ old, e = (key, f old) ∧ ∀ v ∈ old, (key, v) ∈ entries := by
  induction entries with
  | nil => exact Or.inr ⟨none, List.mem_singleton.mp h, nofun⟩
  | cons e' rest ih =>
    rw [alterAt] at h
    split at h
    · -- the key was found: what is made stands in its place
      rename_i hkey
      rcases List.mem_cons.mp h with rfl | h
      · refine Or.inr ⟨some e'.2, by rw [hkey], fun v hv => ?_⟩
        rw [← Option.mem_some_iff.mp hv, ← hkey]
        exact List.mem_cons_self ..
      · exact Or.inl (List.mem_cons_of_mem _ h)
    · rcases List.mem_cons.mp h with rfl | h
      · exact Or.inl (List.mem_cons_self ..)
      · refine (ih h).imp (List.mem_cons_of_mem _) ?_
        rintro ⟨old, hmade, hold⟩
        exact ⟨old, hmade, fun v hv => List.mem_cons_of_mem _ (hold v hv)⟩

theorem mem_keys_alterAt {f : Option α → α} {k : Text} (h : k ∈ (alterAt f key entries).map Prod.fst) :
    k = key ∨ k ∈ entries.map Prod.fst := by
  induction entries with
  | nil => exact Or.inl (List.mem_singleton.mp h)
  | cons e rest ih =>
    rw [alterAt] at h
    split at h
    · exact Or.inr h
    · rcases List.mem_cons.mp h with rfl | h
      · exact Or.inr (List.mem_cons_self ..)
      · exact (ih h).imp_right (List.mem_cons_of_mem _)

/-- A change under a key leaves the entries in order, when what it makes belongs there. -/
theorem keyed_alterAt {f : Option α → α} (h : Keyed belongs entries) (hnew : belongs key (f none))
    (hold : ∀ v, belongs key v → belongs key (f (some v))) : Keyed belongs (alterAt f key entries) := by
  induction entries with
  | nil => exact keyed_cons.mpr ⟨List.not_mem_nil, hnew, h⟩
  | cons e rest ih =>
    obtain ⟨hhead, he, hrest⟩ := keyed_cons.mp h
    rw [alterAt]
    split
    · -- found here, so the keys are as they were
      rename_i hkey
      subst hkey
      exact keyed_cons.mpr ⟨hhead, hold _ he, hrest⟩
    · rename_i hkey
      refine keyed_cons.mpr ⟨fun hmem => ?_, he, ih hrest⟩
      exact (mem_keys_alterAt hmem).elim hkey hhead

/-- What a change makes is there afterwards. -/
theorem exists_mem_alterAt (f : Option α → α) (key : Text) (entries : List (Text × α)) :
    ∃ old, (key, f old) ∈ alterAt f key entries := by
  induction entries with
  | nil => exact ⟨none, List.mem_singleton_self _⟩
  | cons e rest ih =>
    rw [alterAt]
    split
    · rename_i hkey
      exact ⟨some e.2, hkey ▸ List.mem_cons_self ..⟩
    · obtain ⟨old, hold⟩ := ih
      exact ⟨old, List.mem_cons_of_mem _ hold⟩

/-- A change of what is there leaves the keys as they are. -/
theorem keys_modifyAt (f : α → α) (key : Text) (entries : List (Text × α)) :
    (modifyAt f key entries).map Prod.fst = entries.map Prod.fst := by
  induction entries with
  | nil => rfl
  | cons e rest ih =>
    rw [modifyAt]
    split
    · rfl
    · exact congrArg (e.1 :: ·) ih

/-- A change of what is there leaves the entries in order. -/
theorem keyed_modifyAt {f : α → α} (h : Keyed belongs entries) (hold : ∀ v, belongs key v → belongs key (f v)) :
    Keyed belongs (modifyAt f key entries) := by
  induction entries with
  | nil => exact h
  | cons e rest ih =>
    obtain ⟨hhead, he, hrest⟩ := keyed_cons.mp h
    rw [modifyAt]
    split
    · rename_i hkey
      subst hkey
      exact keyed_cons.mpr ⟨hhead, hold _ he, hrest⟩
    · exact keyed_cons.mpr ⟨by rwa [keys_modifyAt], he, ih hrest⟩

/-- What is read off the entries after a change changes under that key alone. -/
theorem flatMap_modifyAt {f : α → α} (honce : (entries.map Prod.fst).Nodup) (g : Text × α → List β) :
    (modifyAt f key entries).flatMap g = entries.flatMap fun e => if e.1 = key then g (e.1, f e.2) else g e := by
  induction entries with
  | nil => rfl
  | cons e rest ih =>
    rw [List.map_cons, List.nodup_cons] at honce
    rw [modifyAt]
    split
    · -- behind the entry that is changed, no other has its key
      rename_i hkey
      have hrest : ∀ e' ∈ rest, g e' = if e'.1 = key then g (e'.1, f e'.2) else g e' := by
        intro e' he'
        rw [if_neg]
        rintro hsame
        exact honce.1 (hkey.trans hsame.symm ▸ List.mem_map_of_mem he')
      rw [List.flatMap_cons, List.flatMap_cons, if_pos hkey, List.flatMap_congr hrest]
    · rename_i hkey
      rw [List.flatMap_cons, List.flatMap_cons, if_neg hkey, ih honce.2]

/-- Of entries with each key once, removing the first under a key removes all under it. -/
theorem eraseP_eq_filter (honce : (entries.map Prod.fst).Nodup) :
    (entries.eraseP fun e => e.1 == key) = entries.filter fun e => e.1 != key := by
  induction entries with
  | nil => rfl
  | cons e rest ih =>
    rw [List.map_cons, List.nodup_cons] at honce
    rw [List.eraseP_cons, List.filter_cons]
    cases hkey : e.1 == key with
    | true =>
      have hrest : (rest.filter fun e => e.1 != key) = rest := by
        refine List.filter_eq_self.mpr fun e' he' => bne_iff_ne.mpr ?_
        rintro hsame
        exact honce.1 ((beq_iff_eq.mp hkey).trans hsame.symm ▸ List.mem_map_of_mem he')
      rw [bne, hkey, cond_true, if_neg (by decide), hrest]
    | false => rw [bne, hkey, cond_false, Bool.not_false, if_pos rfl, ih honce.2]

end Jar

end

namespace Jar

variable {jar : Jar} {c : Cookie} {key : Cookie.Key}

/-! ## Jars in order

  The invariant: on every level each key stands once, and a cookie stands under its own domain, path and name.  It
  makes a key the name of one cookie. -/

/-- Every cookie is stored once, under its own domain, path and name. -/
def WellKeyed (jar : Jar) : Prop :=
  Keyed (fun domain => Keyed fun path => Keyed fun name (c : Cookie) => c.key = ⟨domain, path, name⟩) jar.domains

theorem WellKeyed.empty : WellKeyed {} := Keyed.nil

/-- Storing a cookie leaves the jar in order. -/
theorem WellKeyed.insert (h : jar.WellKeyed) (c : Cookie) : (jar.insert c).WellKeyed :=
  keyed_alterAt h (keyed_alterAt Keyed.nil (keyed_alterAt Keyed.nil rfl fun _ _ => rfl) fun _ hnames =>
      keyed_alterAt hnames rfl fun _ _ => rfl) fun _ hpaths =>
    keyed_alterAt hpaths (keyed_alterAt Keyed.nil rfl fun _ _ => rfl) fun _ hnames =>
      keyed_alterAt hnames rfl fun _ _ => rfl

/-- Removing a key leaves the jar in order. -/
theorem WellKeyed.erase (h : jar.WellKeyed) (key : Cookie.Key) : (jar.erase key).WellKeyed :=
  keyed_modifyAt h fun _ hpaths => keyed_modifyAt hpaths fun _ hnames =>
    ⟨(List.eraseP_sublist.map _).nodup hnames.once, fun _ he => hnames.belongs _ (List.mem_of_mem_eraseP he)⟩

/-- **Removing a key drops the cookie with that key, and no other.** -/
theorem WellKeyed.toList_erase (h : jar.WellKeyed) (key : Cookie.Key) :
    (jar.erase key).toList = jar.toList.filter fun c => decide (c.key ≠ key) := by
  rw [toList, Jar.erase, flatMap_modifyAt h.once, toList, List.filter_flatMap]
  refine List.flatMap_congr fun d hd => ?_
  have hpaths := h.belongs d hd
  split
  · rename_i hdomain
    rw [flatMap_modifyAt hpaths.once, List.filter_flatMap]
    refine List.flatMap_congr fun p hp => ?_
    have hnames := hpaths.belongs p hp
    split
    · -- under the path in question the names are filtered
      rename_i hpath
      rw [eraseP_eq_filter hnames.once, List.filter_map]
      refine congrArg (List.map _) (List.filter_congr fun e he => ?_)
      rw [Function.comp, hnames.belongs e he, hdomain, hpath, Bool.eq_iff_iff, bne_iff_ne, decide_eq_true_iff, ne_eq,
        ne_eq, Cookie.Key.mk.injEq]
      exact not_congr ⟨fun hname => ⟨rfl, rfl, hname⟩, fun hsame => hsame.2.2⟩
    · -- under another path no cookie has the key
      rename_i hpath
      rw [List.filter_eq_self.mpr]
      intro c hc
      obtain ⟨e, he, rfl⟩ := List.mem_map.mp hc
      rw [decide_eq_true_iff, hnames.belongs e he]
      exact fun hsame => hpath (congrArg Cookie.Key.path hsame)
  · -- under another domain no cookie has the key either
    rename_i hdomain
    rw [List.filter_eq_self.mpr]
    intro c hc
    obtain ⟨p, hp, hc⟩ := List.mem_flatMap.mp hc
    obtain ⟨e, he, rfl⟩ := List.mem_map.mp hc
    rw [decide_eq_true_iff, (hpaths.belongs p hp).belongs e he]
    exact fun hsame => hdomain (congrArg Cookie.Key.domain hsame)

/-- What is stored is there afterwards. -/
theorem mem_insert_self (jar : Jar) (c : Cookie) : c ∈ (jar.insert c).toList := by
  obtain ⟨paths, hpaths⟩ := exists_mem_alterAt (fun paths => alterAt (fun names => alterAt (fun _ => c) c.name
    (names.getD [])) c.path (paths.getD [])) c.domain jar.domains
  obtain ⟨names, hnames⟩ := exists_mem_alterAt (fun names => alterAt (fun _ => c) c.name (names.getD [])) c.path
    (paths.getD [])
  obtain ⟨_, hc⟩ := exists_mem_alterAt (fun _ => c) c.name (names.getD [])
  exact List.mem_flatMap.mpr ⟨_, hpaths, List.mem_flatMap.mpr ⟨_, hnames, List.mem_map_of_mem hc⟩⟩

/-- A cookie stands in the jar under its own domain, path and name. -/
theorem mem_toList_iff : c ∈ jar.toList ↔ ∃ domain paths path names name,
    (domain, paths) ∈ jar.domains ∧ (path, names) ∈ paths ∧ (name, c) ∈ names := by
  rw [toList, List.mem_flatMap]
  constructor
  · rintro ⟨⟨domain, paths⟩, hpaths, hc⟩
    obtain ⟨⟨path, names⟩, hnames, hc⟩ := List.mem_flatMap.mp hc
    obtain ⟨⟨name, c⟩, hname, rfl⟩ := List.mem_map.mp hc
    exact ⟨domain, paths, path, names, name, hpaths, hnames, hname⟩
  · rintro ⟨domain, paths, path, names, name, hpaths, hnames, hname⟩
    exact ⟨_, hpaths, List.mem_flatMap.mpr ⟨_, hnames, List.mem_map_of_mem hname⟩⟩

/-- **A key names one cookie.** -/
theorem WellKeyed.eq_of_key (h : jar.WellKeyed) {d : Cookie} (hc : c ∈ jar.toList) (hd : d ∈ jar.toList)
    (hkey : c.key = d.key) : c = d := by
  obtain ⟨domain, paths, path, names, name, hpaths, hnames, hname⟩ := mem_toList_iff.mp hc
  obtain ⟨domain', paths', path', names', name', hpaths', hnames', hname'⟩ := mem_toList_iff.mp hd
  have hcKey := ((h.belongs _ hpaths).belongs _ hnames).belongs _ hname
  have hdKey := ((h.belongs _ hpaths').belongs _ hnames').belongs _ hname'
  rw [hcKey, hdKey, Cookie.Key.mk.injEq] at hkey
  obtain ⟨rfl, rfl, rfl⟩ := hkey
  obtain rfl := h.eq_of_mem hpaths hpaths'
  obtain rfl := (h.belongs _ hpaths).eq_of_mem hnames hnames'
  exact ((h.belongs _ hpaths).belongs _ hnames).eq_of_mem hname hname'

/-- Storing a cookie brings in no other. -/
theorem mem_of_mem_insert {d : Cookie} (h : d ∈ (jar.insert c).toList) : d = c ∨ d ∈ jar.toList := by
  obtain ⟨domain, paths, path, names, name, hpaths, hnames, hname⟩ := mem_toList_iff.mp h
  have hwithin {α : Type} {old : Option (List α)} {x : α} (hx : x ∈ old.getD []) : ∃ v ∈ old, x ∈ v := by
    cases old with
    | none => exact absurd hx List.not_mem_nil
    | some v => exact ⟨v, rfl, hx⟩
  -- at each of the three levels the entry is an old one, or the one of the cookie
  rcases mem_alterAt hpaths with hpaths | ⟨oldPaths, hmade, holdPaths⟩
  · exact Or.inr (mem_toList_iff.mpr ⟨domain, paths, path, names, name, hpaths, hnames, hname⟩)
  obtain ⟨rfl, rfl⟩ := Prod.mk.inj hmade
  rcases mem_alterAt hnames with hnames | ⟨oldNames, hmade, holdNames⟩
  · obtain ⟨paths, hpaths, hnames⟩ := hwithin hnames
    exact Or.inr (mem_toList_iff.mpr ⟨_, paths, path, names, name, holdPaths _ hpaths, hnames, hname⟩)
  obtain ⟨rfl, rfl⟩ := Prod.mk.inj hmade
  rcases mem_alterAt hname with hname | ⟨_, hmade, _⟩
  · obtain ⟨names, hnames, hname⟩ := hwithin hname
    obtain ⟨paths, hpaths, hnames⟩ := hwithin (holdNames _ hnames)
    exact Or.inr (mem_toList_iff.mpr ⟨_, paths, _, names, name, holdPaths _ hpaths, hnames, hname⟩)
  · exact Or.inl (Prod.mk.inj hmade).2

/-! ## Jars that are reached

  An empty jar is in order, and what callers and responses can do to a jar keeps it so. -/

/-- The jars that callers and responses can fill. -/
inductive Reachable : Jar → Prop
  | empty : Reachable {}
  /-- a caller sets a cookie -/
  | set {jar : Jar} (h : Reachable jar) (name : Text) (value : Option Text) (domain path : Text) :
      Reachable (jar.insert (Cookie.ofCaller name value domain path))
  /-- the values of a response are taken in -/
  | ingest {jar : Jar} (h : Reachable jar) (clock : Clock) (hostname : Text) (url : Option Text) (values : List Text) :
      Reachable (jar.ingest clock hostname url values).2.jar

/-- One value of a response stores, removes or does nothing. -/
theorem wellKeyed_of_add {now : Int} {hostname url raw : Text} {intake : Intake} (h : intake.jar.WellKeyed) :
    (intake.add now hostname url raw).2.jar.WellKeyed := by
  rw [Intake.add]
  split
  · exact h
  · exact h
  · dsimp only
    split
    · exact h.insert _
    · exact h.erase _
    · exact h

/-- The values of a response leave the jar in order, also when they fail half way. -/
theorem wellKeyed_of_addAll {clock : Clock} {hostname url : Text} {intake : Intake} (h : intake.jar.WellKeyed)
    (values : List Text) : (intake.addAll clock hostname url values).2.jar.WellKeyed := by
  induction values generalizing intake clock with
  | nil => exact h
  | cons raw rest ih =>
    have hadd : (intake.add (clock 0) hostname url raw).2.jar.WellKeyed := wellKeyed_of_add h
    rw [Intake.addAll]
    rcases hresult : intake.add (clock 0) hostname url raw with ⟨e | ⟨⟩, intake'⟩ <;> rw [hresult] at hadd
    · exact hadd
    · exact ih hadd

theorem wellKeyed_of_reachable (h : jar.Reachable) : jar.WellKeyed := by
  induction h with
  | empty => exact WellKeyed.empty
  | set _ name value domain path ih => exact ih.insert _
  | ingest _ clock hostname url values ih => exact wellKeyed_of_addAll ih values

end Jar

end Courier
