/-
  What one Set-Cookie value does to a jar.

  A jar that is reached holds each key once (`Jar.WellKeyed.nodup_keys`).  So storing a cookie and removing a key
  are the same kind of thing: what stands under one key is exchanged, for the cookie or for nothing, and all others
  stay in their places (`Jar.Exchanges`).  A value does one of the two, or it leaves the jar alone
  (`Intake.Touches`), and the same holds of each further value of a call (`Jar.ingest_touches`).  A value without a
  pair is as good as absent.

  1. One level.  A change under a key cuts the entries in two, with what stood there in between (`exists_alterAt`).
     What is read off the entries is cut in the same places (`flatMap_alterAt`).

  2. Three levels.  The list of cookies is read off entries of entries of entries, so storing a cookie cuts it at
     the domain, within that at the path, and within that at the name (`WellKeyed.exchanges_insert`).  That the
     cookies on both sides have other keys comes from the jar afterwards, in which each key stands once
     (`key_ne_of_nodup`).

  3. One value.  `touches_add` goes through the readings.

  4. Several values.  What is logged has no part in how the values behind are taken in (`agrees_addAll`), and that
     is all that a value without a pair leaves behind.  Outcomes are therefore compared without their logs
     (`Intake.Agrees`).
-/
import Courier.Proofs.Cookie.Intake
import Courier.Proofs.Cookie.Jar

namespace Courier

namespace Jar

/-! ## Entries

  A jar is entries within entries within entries, and a change is made under one key on each level.  What is read
  off the entries, level by level, changes only within what stands under that key. -/

section

variable {α β γ : Type} {entries : List (Text × α)} {key : Text}

/-- What is read off entries with each key once is without repetition, if that is so of each entry, and what is read
    shows the key that it stands under. -/
theorem nodup_flatMap {read : Text × α → List β} (shown : β → Text) (honce : (entries.map Prod.fst).Nodup)
    (hread : ∀ e ∈ entries, (read e).Nodup ∧ ∀ b ∈ read e, shown b = e.1) : (entries.flatMap read).Nodup := by
  refine List.nodup_flatMap.mpr ⟨fun e he => (hread e he).1, ?_⟩
  have hkeys : entries.Pairwise fun e e' => e.1 ≠ e'.1 := List.pairwise_map.mp honce
  refine hkeys.imp_of_mem fun {e e'} he he' hne b hb hb' => hne ?_
  rw [← (hread e he).2 b hb, (hread e' he').2 b hb']

/-- A change under a key puts what it makes in the place of what stood there, or at the end. -/
theorem exists_alterAt (f : Option α → α) (key : Text) (entries : List (Text × α)) :
    ∃ front old back, entries = front ++ (old.map (Prod.mk key)).toList ++ back ∧
      alterAt f key entries = front ++ (key, f old) :: back := by
  induction entries with
  | nil => exact ⟨[], none, [], rfl, rfl⟩
  | cons e rest ih =>
    rw [alterAt]
    split
    · -- found here: it is cut out of the entries in place
      rename_i hkey
      subst hkey
      exact ⟨[], some e.2, rest, rfl, rfl⟩
    · obtain ⟨front, old, back, hrest, halter⟩ := ih
      exact ⟨e :: front, old, back, congrArg (e :: ·) hrest, congrArg (e :: ·) halter⟩

/-- What is read off the entries after a change within what stands under a key changes there alone.  Under a key that
    is new stands nothing. -/
theorem flatMap_alterAt (step : List γ → List γ) (key : Text) (entries : List (Text × List γ)) (read : List γ → List β)
    (hread : read [] = []) : ∃ front old back, (old = [] ∨ (key, old) ∈ entries) ∧
      (entries.flatMap fun e => read e.2) = front ++ read old ++ back ∧
      ((alterAt (fun old => step (old.getD [])) key entries).flatMap fun e => read e.2) =
        front ++ read (step old) ++ back := by
  obtain ⟨front, old, back, hentries, halter⟩ := exists_alterAt (fun old => step (old.getD [])) key entries
  refine ⟨front.flatMap fun e => read e.2, old.getD [], back.flatMap fun e => read e.2, ?_, ?_, ?_⟩
  · -- a key that is new has nothing under it, and any other one has an entry
    cases old with
    | none => exact Or.inl rfl
    | some v =>
      rw [hentries]
      exact Or.inr (List.mem_append_left _ (List.mem_append_right _ (List.mem_singleton_self _)))
  · rw [hentries, List.flatMap_append, List.flatMap_append]
    cases old with
    | none => rw [Option.map_none, Option.toList_none, List.flatMap_nil, Option.getD_none, hread]
    | some v => rw [Option.map_some, Option.toList_some, List.flatMap_singleton, Option.getD_some]
  · rw [halter, List.flatMap_append, List.flatMap_cons, List.append_assoc]

end

/-! ## One key

  Storing and removing are seen from the list of all cookies of a jar, in its order.  Either way one place is
  exchanged and nothing else moves. -/

variable {jar after : Jar} {key : Cookie.Key} {c : Cookie}

/-- No two cookies of a jar in order share their key. -/
theorem WellKeyed.nodup_keys (h : jar.WellKeyed) : (jar.toList.map Cookie.key).Nodup := by
  rw [toList, List.map_flatMap]
  refine nodup_flatMap Cookie.Key.domain h.once fun d hd => ?_
  have hpaths := h.belongs d hd
  rw [List.map_flatMap]
  constructor
  · refine nodup_flatMap Cookie.Key.path hpaths.once fun p hp => ?_
    have hnames := hpaths.belongs p hp
    rw [List.map_map]
    have hkeys : p.2.map (Cookie.key ∘ Prod.snd) = (p.2.map Prod.fst).map (Cookie.Key.mk d.1 p.1) := by
      rw [List.map_map]
      exact List.map_congr_left fun e he => hnames.belongs e he
    rw [hkeys]
    refine ⟨hnames.once.map fun name name' hsame => congrArg Cookie.Key.name hsame, fun key hkey => ?_⟩
    obtain ⟨name, _, rfl⟩ := List.mem_map.mp hkey
    rfl
  · -- what is read off the paths of a domain shows the domain
    intro key hkey
    obtain ⟨p, hp, hkey⟩ := List.mem_flatMap.mp hkey
    obtain ⟨c, hc, rfl⟩ := List.mem_map.mp hkey
    obtain ⟨e, he, rfl⟩ := List.mem_map.mp hc
    rw [(hpaths.belongs p hp).belongs e he]

/-- What stands under one key is exchanged, and all other cookies stay as they are, in their order. -/
structure Exchanges (jar after : Jar) (key : Cookie.Key) (old new : Option Cookie) : Prop where
  ofOld : ∀ c ∈ old, c.key = key
  ofNew : ∀ c ∈ new, c.key = key
  others : ∃ front back, jar.toList = front ++ old.toList ++ back ∧ after.toList = front ++ new.toList ++ back ∧
    ∀ c ∈ front ++ back, c.key ≠ key

/-- Around a cookie of a list without repeated keys stand cookies with other keys. -/
theorem key_ne_of_nodup {front back : List Cookie} (h : ((front ++ c :: back).map Cookie.key).Nodup) :
    ∀ d ∈ front ++ back, d.key ≠ c.key := by
  rw [List.map_append, List.map_cons, List.nodup_middle, List.nodup_cons, ← List.map_append] at h
  exact fun d hd hkey => h.1 (hkey ▸ List.mem_map_of_mem hd)

/-- **Storing a cookie** puts it in the place of the one with its key, or adds it. -/
theorem WellKeyed.exchanges_insert (h : jar.WellKeyed) (c : Cookie) :
    ∃ old, jar.Exchanges (jar.insert c) c.key old (some c) := by
  -- the entry under the domain, in it the one under the path, and in that the one under the name
  obtain ⟨front₁, paths, back₁, hpaths, hold₁, hnew₁⟩ := flatMap_alterAt
    (alterAt (fun names => alterAt (fun _ => c) c.name (names.getD [])) c.path) c.domain jar.domains
    (fun paths => paths.flatMap fun p => p.2.map Prod.snd) rfl
  obtain ⟨front₂, names, back₂, hnames, hold₂, hnew₂⟩ := flatMap_alterAt (alterAt (fun _ => c) c.name) c.path paths
    (List.map Prod.snd) rfl
  obtain ⟨front₃, old, back₃, hold₃, hnew₃⟩ := exists_alterAt (fun _ => c) c.name names
  obtain ⟨front, back, hjar, hinsert⟩ : ∃ front back, jar.toList = front ++ old.toList ++ back ∧
      (jar.insert c).toList = front ++ c :: back := by
    refine ⟨front₁ ++ (front₂ ++ front₃.map Prod.snd), back₃.map Prod.snd ++ back₂ ++ back₁, ?_, ?_⟩
    · rw [toList, hold₁, hold₂, hold₃]
      cases old <;> simp
    · rw [toList, Jar.insert, hnew₁, hnew₂, hnew₃]
      simp
  have hkeys := (h.insert c).nodup_keys
  rw [hinsert] at hkeys
  refine ⟨old, fun d hd => ?_, fun d hd => (Option.some.inj hd) ▸ rfl, front, back, hjar, ?_,
    key_ne_of_nodup hkeys⟩
  · -- what is exchanged stood under the name, which stood under the path, which stood under the domain
    have hd : (c.name, d) ∈ names := by
      rw [hold₃, Option.mem_def.mp hd]
      exact List.mem_append_left _ (List.mem_append_right _ (List.mem_singleton_self _))
    have hnames := hnames.resolve_left (List.ne_nil_of_mem hd)
    have hpaths := hpaths.resolve_left (List.ne_nil_of_mem hnames)
    exact ((h.belongs _ hpaths).belongs _ hnames).belongs _ hd
  · rw [hinsert, Option.toList_some, List.append_cons]

/-- **Removing a key** takes away the cookie with that key, if there is one. -/
theorem WellKeyed.exchanges_erase (h : jar.WellKeyed) (key : Cookie.Key) :
    ∃ old, jar.Exchanges (jar.erase key) key old none := by
  have herase := h.toList_erase key
  have hnew : ∀ d ∈ (none : Option Cookie), d.key = key := fun d hd => absurd hd (Option.not_mem_none d)
  by_cases hkey : ∃ c ∈ jar.toList, c.key = key
  · obtain ⟨c, hc, rfl⟩ := hkey
    obtain ⟨front, back, hjar⟩ := List.append_of_mem hc
    have hkeys := h.nodup_keys
    rw [hjar] at hkeys
    have hothers := key_ne_of_nodup hkeys
    have hself : (c :: back).filter (fun d => decide (d.key ≠ c.key)) = back.filter fun d => decide (d.key ≠ c.key) :=
      List.filter_cons_of_neg (by simp)
    refine ⟨some c, fun d hd => (Option.some.inj hd) ▸ rfl, hnew, front, back, ?_, ?_, hothers⟩
    · rw [hjar, Option.toList_some, List.append_cons]
    · rw [herase, hjar, List.filter_append, hself, ← List.filter_append,
        List.filter_eq_self.mpr fun d hd => decide_eq_true (hothers d hd), Option.toList_none, List.append_nil]
  · have hnone : ∀ d ∈ jar.toList, d.key ≠ key := fun d hd hd' => hkey ⟨d, hd, hd'⟩
    refine ⟨none, hnew, hnew, jar.toList, [], ?_, ?_, ?_⟩
    · rw [Option.toList_none, List.append_nil, List.append_nil]
    · rw [herase, List.filter_eq_self.mpr fun d hd => decide_eq_true (hnone d hd), Option.toList_none,
        List.append_nil, List.append_nil]
    · rwa [List.append_nil]

end Jar

/-! ## One value

  A value is read into a cookie, into a removal or into nothing, and each of these does one thing to the jar. -/

namespace Intake

variable {now : Int} {clock : Clock} {hostname url raw : Text} {intake : Intake}

/-- What a value does by its reading: store a cookie and count it, remove what stands under a key, or leave the jar
    alone. -/
inductive Touches (before after : Intake) : Except SetCookie.Error SetCookie.Reading → Prop
  | stores {c : Cookie} {old : Option Cookie} (hjar : before.jar.Exchanges after.jar c.key old (some c))
      (hstored : after.stored = before.stored + 1) : Touches before after (.ok (.cookie c))
  | removes {key : Cookie.Key} {old : Option Cookie} (hjar : before.jar.Exchanges after.jar key old none)
      (hstored : after.stored = before.stored) : Touches before after (.ok (.expired key))
  | keeps {reading : Except SetCookie.Error SetCookie.Reading}
      (hreading : reading = .ok .useless ∨ ∃ e, reading = .error e) (hjar : after.jar = before.jar)
      (hstored : after.stored = before.stored) : Touches before after reading

/-- **A value touches one key at most.** -/
theorem touches_add (h : intake.jar.WellKeyed) :
    intake.Touches (intake.add now hostname url raw).2 (SetCookie.read now url (withDomain hostname raw)) := by
  rw [add]
  rcases SetCookie.read now url (withDomain hostname raw) with (_ | _) | (c | key | _)
  · exact .keeps (.inr ⟨_, rfl⟩) rfl rfl
  · exact .keeps (.inr ⟨_, rfl⟩) rfl rfl
  · obtain ⟨old, hjar⟩ := h.exchanges_insert c
    exact .stores hjar rfl
  · obtain ⟨old, hjar⟩ := h.exchanges_erase key
    exact .removes hjar rfl
  · exact .keeps (.inl rfl) rfl rfl

theorem add_of_noPair (h : SetCookie.hasPair raw = false) :
    ∃ message, intake.add now hostname url raw = (.ok (), intake.note message) := by
  rw [add, SetCookie.read, hasPair_withDomain, h]
  exact ⟨_, rfl⟩

/-! ## Values in a row

  The values of a response are taken in from left to right, and one that fails is the last.  A value without a pair
  only leaves a note in the log, so leaving it out gives the same jar.  Two ways of taking values in are compared up
  to what is logged (`Agrees`). -/

/-- The same outcome but for what is logged. -/
def Agrees (a b : Except OriginError Unit × Intake) : Prop :=
  a.1 = b.1 ∧ a.2.jar = b.2.jar ∧ a.2.stored = b.2.stored

theorem agrees_add {other : Intake} (hjar : intake.jar = other.jar) (hstored : intake.stored = other.stored) :
    Agrees (intake.add now hostname url raw) (other.add now hostname url raw) := by
  rw [add, add]
  split
  · exact ⟨rfl, hjar, hstored⟩
  · exact ⟨rfl, hjar, hstored⟩
  · dsimp only
    split
    · exact ⟨rfl, congrArg (Jar.insert · _) hjar, congrArg (· + 1) hstored⟩
    · exact ⟨rfl, congrArg (Jar.erase · _) hjar, hstored⟩
    · exact ⟨rfl, hjar, hstored⟩

theorem agrees_addAll {other : Intake} (hjar : intake.jar = other.jar) (hstored : intake.stored = other.stored)
    (values : List Text) : Agrees (intake.addAll clock hostname url values) (other.addAll clock hostname url values) := by
  induction values generalizing intake other clock with
  | nil => exact ⟨rfl, hjar, hstored⟩
  | cons raw rest ih =>
    have hadd : Agrees (intake.add (clock 0) hostname url raw) (other.add (clock 0) hostname url raw) :=
      agrees_add hjar hstored
    rw [addAll, addAll]
    rcases hleft : intake.add (clock 0) hostname url raw with ⟨e | ⟨⟩, a⟩ <;>
      rcases hright : other.add (clock 0) hostname url raw with ⟨e' | ⟨⟩, b⟩ <;>
      rw [hleft, hright] at hadd
    · exact hadd
    · exact absurd hadd.1 (by simp)
    · exact absurd hadd.1 (by simp)
    · exact ih hadd.2.1 hadd.2.2

/-- **Values without a pair do not count**, and have no part in what becomes of the others, which are read at the
    moments at which they were. -/
theorem agrees_of_noPair (h : SetCookie.hasPair raw = false) (values rest : List Text) :
    Agrees (intake.addAll clock hostname url (values ++ raw :: rest))
      (intake.addAll (clock.without values.length) hostname url (values ++ rest)) := by
  have hbefore : ∀ i < values.length, clock.without values.length i = clock i := fun i hi => Clock.without_of_lt hi
  rw [addAll_append, addAll_append, addAll_congr values hbefore, Clock.after_without]
  rcases intake.addAll clock hostname url values with ⟨e | ⟨⟩, intake'⟩
  · exact ⟨rfl, rfl, rfl⟩
  · obtain ⟨message, hadd⟩ : ∃ message, intake'.add (clock.after values.length 0) hostname url raw =
        (.ok (), intake'.note message) := add_of_noPair h
    have hnote : (intake'.note message).jar = intake'.jar ∧ (intake'.note message).stored = intake'.stored :=
      ⟨rfl, rfl⟩
    dsimp only
    rw [addAll, hadd]
    dsimp only
    exact agrees_addAll hnote.1 hnote.2 rest

/-- One more value, after others that were taken in, touches one key at most. -/
theorem touches_addAll (h : intake.jar.WellKeyed) {values : List Text}
    (hvalues : (intake.addAll clock hostname url values).1 = .ok ()) (raw : Text) :
    (intake.addAll clock hostname url values).2.Touches (intake.addAll clock hostname url (values ++ [raw])).2
      (SetCookie.read (clock values.length) url (withDomain hostname raw)) := by
  have hkeyed : (intake.addAll clock hostname url values).2.jar.WellKeyed := Jar.wellKeyed_of_addAll h values
  rw [addAll_append]
  rcases hall : intake.addAll clock hostname url values with ⟨e | ⟨⟩, intake'⟩ <;> rw [hall] at hkeyed hvalues
  · exact absurd hvalues (by simp)
  · have htouches : intake'.Touches (intake'.add (clock values.length) hostname url raw).2
        (SetCookie.read (clock values.length) url (withDomain hostname raw)) := touches_add hkeyed
    dsimp only
    rw [addAll, Clock.after_zero]
    rcases hadd : intake'.add (clock values.length) hostname url raw with ⟨e | ⟨⟩, intake''⟩ <;> rw [hadd] at htouches <;>
      exact htouches

theorem addAll_of_failed {values : List Text} (h : (intake.addAll clock hostname url values).1 ≠ .ok ())
    (more : List Text) :
    intake.addAll clock hostname url (values ++ more) = intake.addAll clock hostname url values := by
  rw [addAll_append]
  rcases hall : intake.addAll clock hostname url values with ⟨e | u, intake'⟩
  · rfl
  · rw [hall] at h
    exact absurd rfl h

end Intake

/-! ## Jars that are reached

  The invariant of all jars and the effect of one value are put together for every response that a jar can meet. -/

/-- **Each Set-Cookie value touches at most one stored cookie, and the jar stays in order.**  Every cookie stands under
    its own domain, path and name, and no two share all three.  A further value of a call stores one cookie in the
    place of what has its key and is counted, or removes at most one, or leaves the jar alone; when the call fails, it
    is at a value that does the last, and no further one is looked at.  A value without a pair always does the last,
    and the others of the call end up as without it.  The clock may show whatever it likes from value to value. -/
theorem Jar.ingest_touches {jar : Jar} (h : jar.Reachable) (clock : Clock) (hostname : Text) (url : Option Text) :
    jar.WellKeyed ∧ (jar.toList.map Cookie.key).Nodup ∧
      (∀ values, (jar.ingest clock hostname url values).1 = .ok () → ∀ raw,
        (jar.ingest clock hostname url values).2.Touches (jar.ingest clock hostname url (values ++ [raw])).2
          (SetCookie.read (clock values.length) (url.getD (urlOfHost hostname)) (withDomain hostname raw))) ∧
      (∀ values, (jar.ingest clock hostname url values).1 ≠ .ok () → ∀ more,
        jar.ingest clock hostname url (values ++ more) = jar.ingest clock hostname url values) ∧
      ∀ values raw rest, SetCookie.hasPair raw = false →
        Intake.Agrees (jar.ingest clock hostname url (values ++ raw :: rest))
          (jar.ingest (clock.without values.length) hostname url (values ++ rest)) := by
  have hkeyed := wellKeyed_of_reachable h
  refine ⟨hkeyed, hkeyed.nodup_keys, fun values hvalues raw => ?_, fun values hvalues more => ?_,
    fun values raw rest hpair => ?_⟩
  · exact Intake.touches_addAll hkeyed hvalues raw
  · exact Intake.addAll_of_failed hvalues more
  · exact Intake.agrees_of_noPair hpair values rest

/-- A jar with a cookie, a value that replaces it, and one without a pair. -/
theorem Jar.ingest_touches_of_filled :
    let host : Text := "h.com".toList
    let clock : Clock := fun i => i
    let jar : Jar := (ingest {} clock host none ["a=1".toList]).2.jar
    jar.Reachable ∧ (jar.ingest clock host none []).1 = .ok () ∧
      (jar.ingest clock host none []).2.Touches (jar.ingest clock host none ["a=2".toList]).2
        (SetCookie.read 0 (urlOfHost host) (withDomain host "a=2".toList)) ∧
      (jar.ingest clock "[".toList none ["a=2".toList]).1 ≠ .ok () ∧
      jar.ingest clock "[".toList none ["a=2".toList, "b=1".toList] =
        jar.ingest clock "[".toList none ["a=2".toList] ∧
      SetCookie.hasPair "junk".toList = false ∧
      Intake.Agrees (jar.ingest clock host none ["junk".toList, "b=1".toList])
        (jar.ingest (clock.without 0) host none ["b=1".toList]) := by
  intro host clock jar
  have hjar : jar.Reachable := .ingest .empty ..
  have hfails : (jar.ingest clock "[".toList none ["a=2".toList]).1 ≠ .ok () := by decide +kernel
  obtain ⟨_, _, htouches, _, hagrees⟩ := ingest_touches hjar clock host none
  obtain ⟨_, _, _, hfailed, _⟩ := ingest_touches hjar clock "[".toList none
  exact ⟨hjar, rfl, htouches [] rfl _, hfails, hfailed _ hfails ["b=1".toList], by decide, hagrees [] _ _ (by decide)⟩

end Courier
