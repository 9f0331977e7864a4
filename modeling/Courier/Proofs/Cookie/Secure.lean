/-
  Cookies that are declared secure.

  Of the parameters named Secure the first one counts (`SetCookie.secure_of_addAll`), and the host name that is
  added comes behind all of them, so the switch of a cookie is read off its value alone.  It is set unless that
  parameter has an equals sign with nothing behind it (`SetCookie.isSet_iff`).

  What follows from the switch is said of jars.  The crux is that a jar has one cookie under a key: as long as no
  other is stored under it, whatever else callers and responses do, the cookie that is found there is the one that
  was declared secure, and no request in clear takes it.

  1. `Spared` is what may happen to a jar meanwhile: callers set cookies under other keys, and responses are taken
     in whose values store nothing under the key.  They may remove it.

  2. The invariant is that everything which then stands under the key stood there before (`Under`).  It is kept by
     one value (`under_add`), by the values of a response (`under_addAll`), and so by all of what may happen
     (`under_of_spared`).

  3. The cookie in question is the only one under its key after the response that set it, even if that response
     held other values for the same key before it (`eq_of_addAll`).

  Journeys are dealt with in a module of their own, from `ne_of_mem_select`.
-/
import Courier.Proofs.Cookie.Field
import Courier.Proofs.Cookie.Intake
import Courier.Proofs.Cookie.Jar

namespace Courier

namespace SetCookie

/-! ## The switch

  The attribute may come in any case, with a value or without, and more than once.  The first parameter of that name
  is the one that counts, and a switch with an empty value behind an equals sign is not set. -/

/-- Whether a key names the attribute, in any case. -/
def isSecureKey (key : Text) : Bool := lower key == "secure".toList

/-- A parameter that declares a cookie secure. -/
def isSecure (part : Text) : Bool := isSecureKey (readPart part).1

/-- The value of the first such parameter. -/
def secureValue? (parts : List Text) : Option (Option Text) := (parts.find? isSecure).map fun part => (readPart part).2

variable {now : Int} {a a' : Attributes} {key : Text} {value : Option Text} {parts : List Text}

/-- A switch that is read stays, and no other attribute touches it. -/
theorem secure_of_add (h : a.add now key value = some a') :
    a'.secure = a.secure.or (if isSecureKey key then some (switchOf value) else none) := by
  cases hsecure : isSecureKey key with
  | true =>
    rw [isSecureKey, beq_iff_eq] at hsecure
    rw [Attributes.add, hsecure, if_neg (by decide), if_neg (by decide), if_neg (by decide), if_neg (by decide),
      if_neg (by decide), if_neg (by decide), if_pos rfl] at h
    rw [← Option.some.inj h, if_pos rfl]
    -- a second one is passed over
    cases ha : a.secure with
    | none => rfl
    | some s => exact ha
  | false =>
    rw [if_neg Bool.false_ne_true, Option.or_none]
    cases hexpiry : isExpiryKey key with
    | true =>
      have hsame := congrArg Attributes.secure (lasting_of_add hexpiry h)
      exact hsame
    | false =>
      rw [isExpiryKey, Bool.or_eq_false_iff, beq_eq_false_iff_ne, beq_eq_false_iff_ne] at hexpiry
      rw [isSecureKey, beq_eq_false_iff_ne] at hsecure
      rw [Attributes.add, if_neg hexpiry.1, if_neg hexpiry.2, if_neg hsecure] at h
      repeat' split at h
      all_goals first
        | rw [← Option.some.inj h]
        | obtain ⟨_, _, rfl⟩ := Option.map_eq_some_iff.mp h; rfl

/-- **The first parameter of that name counts.** -/
theorem secure_of_addAll (h : addAll now a parts = some a') :
    a'.secure = a.secure.or ((secureValue? parts).map switchOf) := by
  induction parts generalizing a with
  | nil =>
    rw [← Option.some.inj h]
    exact Option.or_none.symm
  | cons part rest ih =>
    by_cases hempty : (readPart part).1 = []
    · have hother : isSecure part = false := by
        rw [isSecure, hempty]
        decide
      rw [addAll_cons_of_noKey hempty] at h
      rw [ih h, secureValue?, secureValue?, List.find?_cons_of_neg (by rw [hother]; decide)]
    · rw [addAll_cons hempty] at h
      obtain ⟨middle, hmiddle, h⟩ := Option.bind_eq_some_iff.mp h
      rw [ih h, secure_of_add hmiddle, secureValue?, secureValue?, Option.or_assoc, ← isSecure]
      -- the first parameter of that name is this one, or one behind it
      cases hpart : isSecure part with
      | true =>
        rw [List.find?_cons_of_pos hpart, if_pos rfl]
        rfl
      | false => rw [List.find?_cons_of_neg (by rw [hpart]; decide), if_neg Bool.false_ne_true, Option.none_or]

theorem isSet_switchOf_iff : (switchOf value).isSet = true ↔ value ≠ some [] := by
  cases value with
  | none => exact iff_of_true rfl nofun
  | some s =>
    rw [switchOf, Switch.isSet, Bool.not_eq_true', List.isEmpty_eq_false_iff, Ne, Ne, Option.some.injEq]

/-- **The switch of a cookie is that of the first parameter which declares it secure.** -/
theorem isSet_iff {url hostname raw : Text} {c : Cookie}
    (hread : read now url (withDomain hostname raw) = .ok (.cookie c))
    (hdeclared : (parameters raw).any isSecure = true) :
    c.secure.isSet = true ↔ secureValue? (parameters raw) ≠ some (some []) := by
  obtain ⟨part, hfind⟩ : ∃ part, (parameters raw).find? isSecure = some part := by
    rw [← Option.isSome_iff_exists, List.find?_isSome, ← List.any_eq_true]
    exact hdeclared
  have hvalue : secureValue? (parameters raw) = some (readPart part).2 := by
    rw [secureValue?, hfind]
    rfl
  obtain ⟨_, origin, a, _, ha, hmake⟩ := made_of_read hread Reading.noConfusion
  obtain ⟨_, _, _, _, ⟨_, hexpired⟩ | ⟨_, c', hc', _, _, _, _, hsecure⟩⟩ := make_cases hmake
  · exact nomatch hexpired
  · obtain rfl := Reading.cookie.inj hc'
    -- what the host name adds comes behind the parameters of the value
    have hfirst : secureValue? (parameters (withDomain hostname raw)) = some (readPart part).2 := by
      rw [parameters_withDomain, secureValue?, List.find?_append, hfind]
      rfl
    have hswitch := secure_of_addAll (readAttributes_eq .. ▸ ha)
    rw [hfirst] at hswitch
    rw [hsecure, hswitch, hvalue, Ne, Option.some.injEq]
    exact isSet_switchOf_iff

end SetCookie

/-! ## Jars that keep a cookie

  A cookie stays what it is until another one is stored under its key, and this is stated for values, for responses
  and for jars one after the other.  The invariant is that nothing new comes to stand under the key. -/

namespace Jar

variable {jar jar' : Jar} {key : Cookie.Key} {now : Int} {clock : Clock} {hostname url raw : Text} {c : Cookie}

/-- A value stores no cookie under a key. -/
def Spares (key : Cookie.Key) (now : Int) (hostname url raw : Text) : Prop :=
  ∀ c, SetCookie.read now url (withDomain hostname raw) = .ok (.cookie c) → c.key ≠ key

/-- None of several values stores a cookie under a key, each read at its own moment. -/
def SparesAll (key : Cookie.Key) (clock : Clock) (hostname url : Text) (values : List Text) : Prop :=
  ∀ i raw, values[i]? = some raw → Spares key (clock i) hostname url raw

/-- The first value spares the key, and so do the others, each at its own moment. -/
theorem sparesAll_cons {rest : List Text} :
    SparesAll key clock hostname url (raw :: rest) ↔
      Spares key (clock 0) hostname url raw ∧ SparesAll key clock.later hostname url rest := by
  constructor
  · intro h
    exact ⟨h 0 raw rfl, fun i raw' hi => h (i + 1) raw' hi⟩
  · rintro ⟨hfirst, hrest⟩ i raw' hi
    cases i with
    | zero =>
      obtain rfl := Option.some.inj hi
      exact hfirst
    | succ i => exact hrest i raw' hi

/-- The jars that come after one, until a cookie is stored under a key again. -/
inductive Spared (key : Cookie.Key) (jar : Jar) : Jar → Prop
  | same : Spared key jar jar
  /-- a caller sets a cookie under another key -/
  | set {jar' : Jar} (h : Spared key jar jar') (name : Text) (value : Option Text) (domain path : Text)
      (hkey : (Cookie.ofCaller name value domain path).key ≠ key) :
      Spared key jar (jar'.insert (Cookie.ofCaller name value domain path))
  /-- the values of a response store nothing under the key -/
  | ingest {jar' : Jar} (h : Spared key jar jar') (clock : Clock) (hostname : Text) (url : Option Text)
      (values : List Text) (hvalues : SparesAll key clock hostname (url.getD (urlOfHost hostname)) values) :
      Spared key jar (jar'.ingest clock hostname url values).2.jar

/-- Everything that stands under a key in one jar stood in the other before. -/
def Under (key : Cookie.Key) (jar jar' : Jar) : Prop := ∀ d ∈ jar'.toList, d.key = key → d ∈ jar.toList

theorem under_insert (hkey : c.key ≠ key) : Under key jar (jar.insert c) := by
  intro d hd hdkey
  rcases mem_of_mem_insert hd with rfl | hd
  · exact absurd hdkey hkey
  · exact hd

/-- One value that spares the key brings in nothing under it. -/
theorem under_add {intake : Intake} (hjar : intake.jar.WellKeyed) (h : Spares key now hostname url raw) :
    Under key intake.jar (intake.add now hostname url raw).2.jar := by
  rw [Intake.add]
  split
  · exact fun _ hd _ => hd
  · exact fun _ hd _ => hd
  · rename_i hread
    dsimp only
    -- it stores, it removes, or it does nothing
    split
    · exact under_insert (h _ hread)
    · intro d hd _
      have hd : d ∈ (intake.jar.erase _).toList := hd
      rw [hjar.toList_erase] at hd
      exact (List.mem_filter.mp hd).1
    · exact fun _ hd _ => hd

/-- The values of a response that spare the key bring in nothing under it. -/
theorem under_addAll {intake : Intake} (hjar : intake.jar.WellKeyed) {values : List Text}
    (h : SparesAll key clock hostname url values) :
    Under key intake.jar (intake.addAll clock hostname url values).2.jar := by
  induction values generalizing intake clock with
  | nil => exact fun _ hd _ => hd
  | cons raw rest ih =>
    obtain ⟨hraw, hrest⟩ := sparesAll_cons.mp h
    have hadd : Under key intake.jar (intake.add (clock 0) hostname url raw).2.jar := under_add hjar hraw
    have hkeyed : (intake.add (clock 0) hostname url raw).2.jar.WellKeyed := wellKeyed_of_add hjar
    rw [Intake.addAll]
    rcases hresult : intake.add (clock 0) hostname url raw with ⟨e | ⟨⟩, intake'⟩
    · rw [hresult] at hadd
      exact hadd
    · rw [hresult] at hadd hkeyed
      exact fun d hd hkey => hadd d (ih hkeyed hrest d hd hkey) hkey

theorem wellKeyed_of_spared (hjar : jar.WellKeyed) (h : Spared key jar jar') : jar'.WellKeyed := by
  induction h with
  | same => exact hjar
  | set _ name value domain path _ ih => exact ih.insert _
  | ingest _ clock hostname url values _ ih => exact wellKeyed_of_addAll ih values

/-- **Until a cookie is stored under a key again**, nothing else comes to stand there. -/
theorem under_of_spared (hjar : jar.WellKeyed) (h : Spared key jar jar') : Under key jar jar' := by
  induction h with
  | same => exact fun _ hd _ => hd
  | set h name value domain path hkey ih =>
    exact fun d hd hdkey => ih d (under_insert hkey d hd hdkey) hdkey
  | ingest h clock hostname url values hvalues ih =>
    exact fun d hd hdkey => ih d (under_addAll (wellKeyed_of_spared hjar h) hvalues d hd hdkey) hdkey

/-- A cookie that was stored from one of several values is the only one under its key, if no later value stores
    another. -/
theorem eq_of_addAll {intake : Intake} (hjar : intake.jar.WellKeyed) (before : List Text) {after : List Text}
    (hread : SetCookie.read (clock before.length) url (withDomain hostname raw) = .ok (.cookie c))
    (hafter : SparesAll c.key (clock.after (before.length + 1)) hostname url after) :
    ∀ d ∈ (intake.addAll clock hostname url (before ++ raw :: after)).2.jar.toList, d.key = c.key → d = c := by
  induction before generalizing intake clock with
  | nil =>
    intro d hd hkey
    rw [List.length_nil] at hread
    rw [List.nil_append, Intake.addAll, Intake.add, hread] at hd
    have hkeyed : (intake.jar.insert c).WellKeyed := hjar.insert c
    exact hkeyed.eq_of_key (under_addAll hkeyed hafter d hd hkey) (intake.jar.mem_insert_self c) hkey
  -- a value in front of it may store what it likes
  | cons first rest ih =>
    have hkeyed : (intake.add (clock 0) hostname url first).2.jar.WellKeyed := wellKeyed_of_add hjar
    -- the URL is an origin, so nothing fails before the value is reached
    obtain ⟨_, origin, horigin⟩ := SetCookie.of_read hread
    have hok : (intake.add (clock 0) hostname url first).1.isOk = true :=
      Intake.add_isOk_iff.mpr (Or.inr (by rw [horigin]; rfl))
    rw [List.cons_append, Intake.addAll]
    rcases hresult : intake.add (clock 0) hostname url first with ⟨e | ⟨⟩, intake'⟩
    · rw [hresult] at hok
      exact absurd hok Bool.false_ne_true
    · rw [hresult] at hkeyed
      exact ih hkeyed hread hafter

/-- **No request in clear takes a cookie that is set to be secure**, until one is stored under its key again. -/
theorem ne_of_mem_select {stored : Jar} (hstored : stored.WellKeyed)
    (honly : ∀ d ∈ stored.toList, d.key = c.key → d = c) (hsecure : c.secure.isSet = true)
    (hspared : Spared c.key stored jar) (hostname path : Text) :
    ∀ d ∈ jar.select hostname path false, d.key ≠ c.key := by
  intro d hd hkey
  obtain ⟨hmem, hgoes⟩ := List.mem_filter.mp hd
  obtain rfl := honly d (under_of_spared hstored hspared d hmem hkey) hkey
  exact absurd ((Cookie.goesWith_iff.mp hgoes).secure hsecure) Bool.false_ne_true

end Jar

end Courier
