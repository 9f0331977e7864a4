/-
  A Set-Cookie value, part by part.

  A value is cut at its semicolons: the first part is the pair of name and value, the others are the parameters, and
  what is appended after a semicolon adds parameters and leaves the pair alone.  Reading is a function of these
  (`read_eq`), and what it makes of them is one of three things: nothing, a cookie that carries name and value
  decoded, or the removal of an expired one under its name as it is written (`make_cases`).

  The module goes through a value from left to right.

  1. The pair.  Name and value are read off the text before the first semicolon (`nameOf`, `valueOf`), without the
     blanks around them.  For names and values without blanks that is how they were written (`of_beforeMark_pair`).

  2. The parameters.  They are taken in one after another, and any of them may make the whole value useless
     (`addAll`).  Most facts about a parameter say that it leaves something alone, and these are proved for one
     parameter and then by induction for a list: one that says when a cookie expires changes the expiry and nothing
     else (`lasting_of_add`, `addAll_lasting`), only a domain touches the domain (`domain_of_add`), and one whose
     name decides nothing is taken in whatever it holds (`add_plain`, `addAll_plain`).

  3. The cookie.  What is made of name, value and parameters depends on seven attributes (`governingNames`).  Two
     special cases are all that the other modules use: a value that is neither versioned nor bound to a time or a
     port (`read_of_lasting`), and one that says at most a domain (`read_of_governing`).

  4. The host name.  Before a value is read, the host name of the response is written behind it as a domain, unless
     the text of a domain stands somewhere in it (`withDomain`).  As text this is one more part, so name and value
     stay (`nameOf_withDomain`, `valueOf_withDomain`); as attributes it is a domain for values that have none
     (`readAttributes_withDomain`).  A host name with a semicolon would end its part, which is why that condition is
     met with wherever the domain matters.
-/
import Courier.Cookie.Exchange
import Courier.Proofs.Cookie.Origin

namespace Courier

/-- A domain without its leading dots. -/
def bare (domain : Text) : Text := trimLeft (· == '.') domain

theorem bare_dot (domain : Text) : bare ('.' :: domain) = bare domain := rfl

/-- Only a domain of full stops alone has nothing left without them. -/
theorem bare_ne_nil_iff {domain : Text} : bare domain ≠ [] ↔ ∃ c ∈ domain, c ≠ '.' := by
  rw [bare, trimLeft, Ne, List.dropWhile_eq_nil_iff]
  simp only [not_forall, beq_iff_eq, exists_prop, ne_eq]

namespace SetCookie

/-! ## Parts

  A value is cut at its semicolons.  The first part is the pair of name and value, the others are parameters, and
  each of them is cut at its first equals sign and trimmed. -/

/-- The name of a value as it is written. -/
def nameOf (raw : Text) : Text := (readPart (beforeMark ';' raw)).1

/-- The text after the name, as it is written. -/
def valueOf (raw : Text) : Text := (readPart (beforeMark ';' raw)).2.getD []

/-- The parts after the first. -/
def parameters (raw : Text) : List Text := (raw.splitOn ';').tail

/-- The parts of a value are its pair and its parameters. -/
theorem splitOn_eq (raw : Text) : raw.splitOn ';' = beforeMark ';' raw :: parameters raw := by
  rw [parameters]
  by_cases h : ';' ∈ raw
  · obtain ⟨before, after, hnot, rfl⟩ := exists_cut h
    rw [beforeMark_append, beforeMark_of_notMem hnot, List.splitOn_append_cons_self_of_not_mem hnot]
    rfl
  · rw [beforeMark_of_notMem h, List.splitOn_eq_singleton h]
    rfl

/-- What follows a semicolon are further parameters. -/
theorem parameters_append (raw more : Text) : parameters (raw ++ ';' :: more) = parameters raw ++ more.splitOn ';' := by
  rw [parameters, List.splitOn_append_cons_self, splitOn_eq raw]
  rfl

/-- A pair and parameters, joined by semicolons. -/
def join (pair : Text) (parts : List Text) : Text := [';'].intercalate (pair :: parts)

/-- Parts that are joined are found again, if none of them holds a semicolon. -/
theorem splitOn_join {pair : Text} {parts : List Text} (hpair : ';' ∉ pair) (hparts : ∀ part ∈ parts, ';' ∉ part) :
    (join pair parts).splitOn ';' = pair :: parts :=
  List.splitOn_intercalate ';' (List.forall_mem_cons.mpr ⟨hpair, hparts⟩) (List.cons_ne_nil _ _)

/-- Letters and digits are neither trimmed nor cut. -/
theorem solid_of_alphanum {s : Text} (h : ∀ c ∈ s, c.isAlphanum = true) : ∀ c ∈ s, isBlank c = false ∧ c ≠ '=' := by
  refine fun c hc => ⟨not_isBlank_of_isVisible (isVisible_of_isAlphanum (h c hc)), ?_⟩
  rintro rfl
  exact absurd (h _ hc) (by decide)

/-- A key without blanks is read as it is written, and what follows the first equals sign as its value. -/
theorem readPart_pair {key : Text} (hkey : ∀ c ∈ key, isBlank c = false ∧ c ≠ '=') (value : Text) :
    readPart (key ++ '=' :: value) = (key, some (trimBlank value)) := by
  have hleft : trimLeft isBlank (key ++ '=' :: value) = key ++ '=' :: value := by
    cases key with
    | nil => exact List.dropWhile_cons_of_neg (by decide)
    | cons c rest => exact List.dropWhile_cons_of_neg (by rw [(hkey c (List.mem_cons_self ..)).1]; decide)
  have htrim : trimBlank (key ++ '=' :: value) = key ++ '=' :: trimRight isBlank value := by
    rw [trimBlank, trim, hleft, trimRight_append_cons (by decide)]
  -- the key is not trimmed any further, and the value is trimmed on both sides after all
  rw [readPart, htrim, cut_append_mark fun hmark => (hkey _ hmark).2 rfl]
  dsimp only
  rw [Option.map_some, trimBlank, trimBlank, trim_of_forall fun c hc => (hkey c hc).1, trim_trimRight]
  rfl

/-- A name and a value without blanks are read as the pair that they were written as. -/
theorem of_beforeMark_pair {raw name value : Text} (hraw : beforeMark ';' raw = name ++ '=' :: value)
    (hname : ∀ c ∈ name, isBlank c = false ∧ c ≠ '=') (hne : name ≠ []) (hvalue : ∀ c ∈ value, isBlank c = false) :
    hasPair raw = true ∧ nameOf raw = name ∧ valueOf raw = value := by
  have hpart : readPart (name ++ '=' :: value) = (name, some value) := by
    rw [readPart_pair hname, trimBlank, trim_of_forall hvalue]
  refine ⟨?_, ?_, ?_⟩
  · obtain ⟨c, hc⟩ := List.exists_mem_of_ne_nil _ hne
    rw [hasPair, hraw, cut_append_mark fun hmem => (hname _ hmem).2 rfl]
    exact List.any_eq_true.mpr ⟨c, hc, by rw [(hname c hc).1]; rfl⟩
  · rw [nameOf, hraw, hpart]
  · rw [valueOf, hraw, hpart, Option.getD_some]

/-- A space in front of a part does not count. -/
theorem readPart_space (part : Text) : readPart (' ' :: part) = readPart part := by
  have htrim : trimBlank (' ' :: part) = trimBlank part := rfl
  rw [readPart, readPart, htrim]

/-! ## Reading

  A reading is of use when the value has a pair and its URL is an origin.  Then the parameters are taken into
  attributes one after the other, and a cookie or a removal is made of these. -/

/-- Reading a value with a pair that came from an origin. -/
theorem read_eq {now : Int} {url raw : Text} {origin : Origin} (hpair : hasPair raw = true)
    (horigin : Origin.read url = .ok origin) :
    read now url raw =
      .ok (((readAttributes now (parameters raw)).bind (make now origin (nameOf raw) (valueOf raw))).getD .useless) := by
  rw [read, hpair, horigin, splitOn_eq]
  rfl

/-- Only a value with a pair, from a URL that is an origin, is read. -/
theorem of_read {now : Int} {url raw : Text} {reading : Reading} (h : read now url raw = .ok reading) :
    hasPair raw = true ∧ ∃ origin, Origin.read url = .ok origin := by
  rw [read] at h
  cases hpair : hasPair raw with
  | false =>
    rw [hpair] at h
    exact absurd h (by simp)
  | true =>
    cases horigin : Origin.read url with
    | error e =>
      rw [hpair, horigin] at h
      exact absurd h (by simp)
    | ok origin => exact ⟨rfl, origin, rfl⟩

/-- A reading that is of use was made from the attributes of the value. -/
theorem made_of_read {now : Int} {url raw : Text} {reading : Reading} (h : read now url raw = .ok reading)
    (huse : reading ≠ .useless) :
    hasPair raw = true ∧ ∃ origin a, Origin.read url = .ok origin ∧ readAttributes now (parameters raw) = some a ∧
      make now origin (nameOf raw) (valueOf raw) a = some reading := by
  obtain ⟨hpair, origin, horigin⟩ := of_read h
  rw [read_eq hpair horigin] at h
  have hreading := Except.ok.inj h
  cases hbind : (readAttributes now (parameters raw)).bind (make now origin (nameOf raw) (valueOf raw)) with
  | none =>
    rw [hbind] at hreading
    exact absurd hreading.symm huse
  | some reading' =>
    rw [hbind, Option.getD_some] at hreading
    rw [hreading] at hbind
    obtain ⟨a, ha, hmake⟩ := Option.bind_eq_some_iff.mp hbind
    exact ⟨hpair, origin, a, horigin, ha, hmake⟩

/-- A value with a pair is read as what is made of its attributes. -/
theorem read_of_make {now : Int} {url raw : Text} {reading : Reading} {origin : Origin} {a : Attributes}
    (hpair : hasPair raw = true) (horigin : Origin.read url = .ok origin)
    (ha : readAttributes now (parameters raw) = some a)
    (hmake : make now origin (nameOf raw) (valueOf raw) a = some reading) : read now url raw = .ok reading := by
  rw [read_eq hpair horigin, ha, Option.bind_some, hmake]
  rfl

/-- **What making a cookie comes to**: an expired one under its name as it is written, or a cookie that carries name
    and value decoded and does not expire yet. -/
theorem make_cases {now : Int} {origin : Origin} {name value : Text} {a : Attributes} {reading : Reading}
    (h : make now origin name value a = some reading) :
    ∃ version port, readInteger? (a.version.getD ['0']) = some version ∧ portOf? a origin = some port ∧
      ((a.expires.any (· ≤ now) = true ∧
          reading = .expired ⟨domainOf a origin, (pathOf a origin version).1, name⟩) ∨
        (a.expires.any (· ≤ now) = false ∧ ∃ c, reading = .cookie c ∧ c.name = percentDecode name ∧
          c.value = some (percentDecode value) ∧ c.domain = lower (domainOf a origin) ∧
          (c.path, c.pathSpecified) = pathOf a origin version ∧ c.secure = a.secure.getD .off)) := by
  rw [make] at h
  obtain ⟨version, hversion, h⟩ := Option.bind_eq_some_iff.mp h
  dsimp only at h
  obtain ⟨⟨port, portSpecified⟩, hport, h⟩ := Option.bind_eq_some_iff.mp h
  dsimp only at h
  refine ⟨version, _, hversion, hport, ?_⟩
  split at h
  · -- a time that has passed: name and value are not decoded
    rename_i hexpired
    exact Or.inl ⟨hexpired, (Option.some.inj h).symm⟩
  · rename_i hlasts
    rw [Bool.not_eq_true] at hlasts
    refine Or.inr ⟨hlasts, ?_⟩
    -- a session cookie, or one with a time
    split at h
    · exact ⟨_, (Option.some.inj h).symm, rfl, rfl, rfl, rfl, rfl⟩
    · obtain ⟨expires, _, h⟩ := Option.bind_eq_some_iff.mp h
      exact ⟨_, (Option.some.inj h).symm, rfl, rfl, rfl, rfl, rfl⟩

/-- What is expired is made into a removal. -/
theorem make_expired {now : Int} {origin : Origin} {a : Attributes} {version : Int} {port : Option Text × Bool}
    (hversion : readInteger? (a.version.getD ['0']) = some version) (hport : portOf? a origin = some port)
    (hexpired : a.expires.any (· ≤ now) = true) (name value : Text) :
    make now origin name value a = some (.expired ⟨domainOf a origin, (pathOf a origin version).1, name⟩) := by
  rw [make, hversion, hport]
  exact if_pos hexpired

/-- Without an expiry, a readable version and a port to take make a cookie. -/
theorem exists_make {now : Int} {origin : Origin} {a : Attributes} {version : Int} {port : Option Text × Bool}
    (hversion : readInteger? (a.version.getD ['0']) = some version) (hport : portOf? a origin = some port)
    (hexpires : a.expires = none) (name value : Text) :
    ∃ c, make now origin name value a = some (.cookie c) := by
  rw [make, hversion, hport, hexpires]
  exact ⟨_, rfl⟩

/-! ## Parameters

  A parameter is a step on attributes, and taking in all of them is a fold of steps that may fail.  What one step
  keeps, the fold keeps. -/

/-- Takes parameters one after the other. -/
def addAll (now : Int) (a : Attributes) (parts : List Text) : Option Attributes :=
  ((parts.map readPart).filter fun p => !p.1.isEmpty).foldlM (fun a p => a.add now p.1 p.2) a

theorem readAttributes_eq (now : Int) (parts : List Text) : readAttributes now parts = addAll now {} parts := rfl

variable {now now' : Int} {a a' : Attributes} {part key : Text} {value : Option Text} {parts more : List Text}

/-- Parameters are taken in from left to right. -/
theorem addAll_append : addAll now a (parts ++ more) = (addAll now a parts).bind fun a => addAll now a more := by
  rw [addAll, List.map_append, List.filter_append, List.foldlM_append]
  rfl

/-- A part that is empty or has no name is passed over. -/
theorem addAll_cons_of_noKey (h : (readPart part).1 = []) : addAll now a (part :: parts) = addAll now a parts := by
  rw [addAll, List.map_cons, List.filter_cons_of_neg (by rw [h]; decide)]
  rfl

/-- Any other one is taken in, and may fail. -/
theorem addAll_cons (h : (readPart part).1 ≠ []) :
    addAll now a (part :: parts) =
      (a.add now (readPart part).1 (readPart part).2).bind fun a => addAll now a parts := by
  rw [addAll, List.map_cons, List.filter_cons_of_pos (by simpa using h), List.foldlM_cons]
  rfl

/-! ### Expiry

  Expiry is read at a moment, so it is the one part of a reading that depends on the clock.  Everything else is the
  same with the parameters of expiry and without them. -/

/-- The attributes without their expiry. -/
def Attributes.lasting (a : Attributes) : Attributes := { a with expires := none, hasMaxAge := false }

/-- A key of an attribute that says when a cookie expires. -/
def isExpiryKey (key : Text) : Bool := lower key == "expires".toList || lower key == "max-age".toList

/-- A date changes the expiry at most. -/
theorem addExpires_lasting (h : a.addExpires now value = some a') : a'.lasting = a.lasting := by
  rw [Attributes.addExpires] at h
  split at h
  · exact nomatch h
  · rw [← Option.some.inj h]
    split <;> rfl
  · rw [Option.some.inj h]
  · rw [Option.some.inj h]

/-- Expiry is all that an attribute of expiry changes. -/
theorem lasting_of_add (hkey : isExpiryKey key = true) (h : a.add now key value = some a') : a'.lasting = a.lasting := by
  rw [isExpiryKey, Bool.or_eq_true, beq_iff_eq, beq_iff_eq] at hkey
  rcases hkey with hkey | hkey
  · -- a date
    rw [Attributes.add, hkey] at h
    exact addExpires_lasting h
  · -- a number of seconds
    rw [Attributes.add, hkey] at h
    obtain ⟨v, _, h⟩ := Option.bind_eq_some_iff.mp h
    obtain ⟨seconds, _, h⟩ := Option.bind_eq_some_iff.mp h
    rw [← Option.some.inj h]
    rfl

/-- Every other attribute does the same with and without expiry, at any time. -/
theorem add_lasting (hkey : isExpiryKey key = false) :
    a.lasting.add now' key value = (a.add now key value).map Attributes.lasting := by
  rw [isExpiryKey, Bool.or_eq_false_iff, beq_eq_false_iff_ne, beq_eq_false_iff_ne] at hkey
  rw [Attributes.add, Attributes.add, if_neg hkey.1, if_neg hkey.2, if_neg hkey.1, if_neg hkey.2]
  simp only [apply_ite (Option.map Attributes.lasting), Option.map_map, Option.map_some,
    apply_ite Attributes.lasting]
  rfl

/-- A parameter that says when a cookie expires. -/
def isExpiry (part : Text) : Bool := isExpiryKey (readPart part).1

/-- Parameters that are all taken in can be taken in without those of expiry, at any time. -/
theorem addAll_lasting (h : addAll now a parts = some a') :
    addAll now' a.lasting (parts.filter fun part => !isExpiry part) = some a'.lasting := by
  induction parts generalizing a with
  | nil => exact congrArg (some ·.lasting) (Option.some.inj h)
  | cons part rest ih =>
    by_cases hempty : (readPart part).1 = []
    · have hpart : isExpiry part = false := by
        rw [isExpiry, hempty]
        decide
      rw [addAll_cons_of_noKey hempty] at h
      rw [List.filter_cons_of_pos (by rw [hpart]; rfl), addAll_cons_of_noKey hempty]
      exact ih h
    · -- a parameter of expiry is left out on the one side, and any other is taken in on both
      rw [addAll_cons hempty] at h
      obtain ⟨middle, hmiddle, h⟩ := Option.bind_eq_some_iff.mp h
      cases hpart : isExpiry part with
      | true =>
        rw [List.filter_cons_of_neg (by rw [hpart]; decide), ← lasting_of_add hpart hmiddle]
        exact ih h
      | false =>
        rw [List.filter_cons_of_pos (by rw [hpart]; rfl), addAll_cons hempty, add_lasting hpart, hmiddle]
        exact ih h

/-- A value without its parameters of expiry. -/
def withoutExpiry (raw : Text) : Text :=
  join (beforeMark ';' raw) ((parameters raw).filter fun part => !isExpiry part)

/-- What is left are parts of the value itself, so none of them holds a semicolon. -/
theorem splitOn_withoutExpiry (raw : Text) :
    (withoutExpiry raw).splitOn ';' =
      beforeMark ';' raw :: (parameters raw).filter fun part => !isExpiry part :=
  splitOn_join (mark_notMem_beforeMark ';' raw) fun _ hpart =>
    notMem_of_mem_splitOn (List.mem_of_mem_tail (List.mem_filter.mp hpart).1)

theorem beforeMark_withoutExpiry (raw : Text) : beforeMark ';' (withoutExpiry raw) = beforeMark ';' raw :=
  (List.cons.inj ((splitOn_eq _).symm.trans (splitOn_withoutExpiry raw))).1

theorem parameters_withoutExpiry (raw : Text) :
    parameters (withoutExpiry raw) = (parameters raw).filter fun part => !isExpiry part :=
  (List.cons.inj ((splitOn_eq _).symm.trans (splitOn_withoutExpiry raw))).2

/-- A parameter of expiry that is appended is taken away again. -/
theorem withoutExpiry_append {raw : Text} (hpart : isExpiry part = true) (hmark : ';' ∉ part) :
    withoutExpiry (raw ++ ';' :: part) = withoutExpiry raw := by
  rw [withoutExpiry, beforeMark_append, parameters_append, List.splitOn_eq_singleton hmark, List.filter_append,
    List.filter_cons_of_neg (by rw [hpart]; decide), List.filter_nil, List.append_nil]
  rfl

/-! ### Domain -/

/-- A domain that is given is put in lower case, and no other attribute touches it. -/
theorem domain_of_add (h : a.add now key value = some a') :
    a'.domain = a.domain ∨ ∃ v, a'.domain = some (lower v) := by
  cases hexpiry : isExpiryKey key with
  | true =>
    have hsame := congrArg Attributes.domain (lasting_of_add hexpiry h)
    exact Or.inl hsame
  | false =>
    rw [isExpiryKey, Bool.or_eq_false_iff, beq_eq_false_iff_ne, beq_eq_false_iff_ne] at hexpiry
    by_cases hdomain : lower key = "domain".toList
    · rw [Attributes.add, if_neg (by rw [hdomain]; decide), if_neg hexpiry.1, if_neg hexpiry.2, if_pos hdomain] at h
      split at h
      · exact Or.inl (by rw [← Option.some.inj h])
      · obtain ⟨v, _, rfl⟩ := Option.map_eq_some_iff.mp h
        exact Or.inr ⟨v, rfl⟩
    · left
      rw [Attributes.add, if_neg hexpiry.1, if_neg hexpiry.2, if_neg hdomain] at h
      repeat' split at h
      -- every other attribute, taken in or passed over
      all_goals first
        | rw [← Option.some.inj h]
        | obtain ⟨_, _, rfl⟩ := Option.map_eq_some_iff.mp h; rfl

/-- The domain that is read is in lower case. -/
theorem lower_domain_of_addAll (ha : ∀ d ∈ a.domain, lower d = d) (h : addAll now a parts = some a') :
    ∀ d ∈ a'.domain, lower d = d := by
  induction parts generalizing a with
  | nil => rwa [← Option.some.inj h]
  | cons part rest ih =>
    by_cases hempty : (readPart part).1 = []
    · rw [addAll_cons_of_noKey hempty] at h
      exact ih ha h
    · rw [addAll_cons hempty] at h
      obtain ⟨middle, hmiddle, h⟩ := Option.bind_eq_some_iff.mp h
      refine ih (fun d hd => ?_) h
      rcases domain_of_add hmiddle with hsame | ⟨v, hv⟩
      · exact ha d (hsame ▸ hd)
      · rw [hv, Option.mem_some_iff] at hd
        rw [← hd, lower_lower]

/-! ### Attributes that decide nothing

  Most names say nothing about which cookie is made, and a parameter of such a name is taken in whatever it holds. -/

/-- The attributes that decide what cookie is made, and from where. -/
def governingNames : List Text :=
  ["version", "expires", "max-age", "domain", "path", "port", "secure"].map String.toList

/-- The attributes without those that a cookie only carries along. -/
def Attributes.governing (a : Attributes) : Attributes :=
  { a with discard := none, comment := none, commentUrl := none, rest := [] }

/-- A parameter whose name decides nothing is always taken in, and changes nothing that governs the cookie. -/
theorem add_plain (hkey : lower key ∉ governingNames) (now : Int) (a : Attributes) (value : Option Text) :
    ∃ a', a.add now key value = some a' ∧ a'.governing = a.governing := by
  simp only [governingNames, List.map_cons, List.map_nil, List.mem_cons, List.not_mem_nil, or_false, not_or] at hkey
  obtain ⟨hversion, hexpires, hage, hdomain, hpath, hport, hsecure⟩ := hkey
  rw [Attributes.add, if_neg hversion, if_neg hexpires, if_neg hage, if_neg hdomain, if_neg hpath, if_neg hport,
    if_neg hsecure]
  repeat' split
  all_goals exact ⟨_, rfl, rfl⟩

/-- Parameters of other names are taken in, whatever they hold. -/
theorem addAll_plain (h : ∀ part ∈ parts, lower (readPart part).1 ∉ governingNames) (now : Int) (a : Attributes) :
    ∃ a', addAll now a parts = some a' ∧ a'.governing = a.governing := by
  induction parts generalizing a with
  | nil => exact ⟨a, rfl, rfl⟩
  | cons part rest ih =>
    have hrest := ih fun p hp => h p (List.mem_cons_of_mem _ hp)
    by_cases hempty : (readPart part).1 = []
    · rw [addAll_cons_of_noKey hempty]
      exact hrest a
    · obtain ⟨middle, hmiddle, hsame⟩ := add_plain (h part (List.mem_cons_self ..)) now a (readPart part).2
      obtain ⟨a', ha', hall⟩ := hrest middle
      rw [addAll_cons hempty, hmiddle]
      exact ⟨a', ha', hall.trans hsame⟩

/-- The domain of a cookie is that of its attributes, or that of its origin; a leading dot does not count. -/
theorem bare_lower_domainOf {url : Text} {origin : Origin} (horigin : Origin.read url = .ok origin)
    (hdomain : ∀ d ∈ a.domain, lower d = d) :
    bare (lower (domainOf a origin)) = bare (a.domain.getD origin.domain) := by
  rw [domainOf]
  cases hd : a.domain with
  | none => rw [Origin.lower_domain_of_read horigin, Option.getD_none]
  | some d =>
    have hd := hdomain d hd
    rw [Option.getD_some]
    dsimp only
    split
    · rw [hd]
    · rw [← bare_dot d]
      exact congrArg bare (lower_append_eq_self (s := ['.']) (by decide) hd)

/-- **A value without version, expiry and port** makes a cookie. -/
theorem read_of_lasting {now : Int} {url raw : Text} {origin : Origin} {a : Attributes} (hpair : hasPair raw = true)
    (horigin : Origin.read url = .ok origin) (ha : readAttributes now (parameters raw) = some a)
    (hversion : a.version = none) (hexpires : a.expires = none) (hport : a.port = none) :
    ∃ c, read now url raw = .ok (.cookie c) ∧ c.name = percentDecode (nameOf raw) ∧
      c.value = some (percentDecode (valueOf raw)) ∧ c.domain = lower (domainOf a origin) ∧
      (c.path, c.pathSpecified) = pathOf a origin 0 ∧ c.secure = a.secure.getD .off := by
  have hread : readInteger? (a.version.getD ['0']) = some 0 := by
    rw [hversion]
    rfl
  have hportOf : portOf? a origin = some (none, false) := by
    rw [portOf?, hport]
  obtain ⟨c, hc⟩ : ∃ c, make now origin (nameOf raw) (valueOf raw) a = some (.cookie c) :=
    exists_make hread hportOf hexpires _ _
  obtain ⟨version, _, hversion', _, ⟨hexpired, _⟩ | ⟨_, c', hc', hname, hvalue, hdomain, hpath, hsecure⟩⟩ := make_cases hc
  · rw [hexpires] at hexpired
    exact absurd hexpired Bool.false_ne_true
  · obtain rfl := Reading.cookie.inj hc'
    obtain rfl : 0 = version := Option.some.inj (hread.symm.trans hversion')
    exact ⟨c, read_of_make hpair horigin ha hc, hname, hvalue, hdomain, hpath, hsecure⟩

/-- **A value that says at most a domain** makes a cookie of that domain, or of the domain of its origin, for every path
    and for every request. -/
theorem read_of_governing {now : Int} {url raw : Text} {origin : Origin} {a : Attributes} {domain : Option Text}
    (hpair : hasPair raw = true) (horigin : Origin.read url = .ok origin)
    (ha : readAttributes now (parameters raw) = some a) (hgoverning : a.governing = { domain })
    (hdomain : ∀ d ∈ domain, lower d = d) :
    ∃ c, read now url raw = .ok (.cookie c) ∧ c.name = percentDecode (nameOf raw) ∧
      c.value = some (percentDecode (valueOf raw)) ∧ c.bareDomain = bare (domain.getD origin.domain) ∧
      c.pathSpecified = false ∧ c.secure = .off := by
  rw [Attributes.governing, Attributes.mk.injEq] at hgoverning
  obtain ⟨hversion, hexpires, _, rfl, hpath, hport, hsecure, _⟩ := hgoverning
  obtain ⟨c, hc, hname, hvalue, hcdomain, hcpath, hcsecure⟩ :=
    read_of_lasting hpair horigin ha hversion hexpires hport
  refine ⟨c, hc, hname, hvalue, ?_, ?_, ?_⟩
  · rw [Cookie.bareDomain, hcdomain, ← bare, bare_lower_domainOf horigin hdomain]
  · rw [pathOf, hpath] at hcpath
    exact congrArg Prod.snd hcpath
  · rw [hcsecure, hsecure]
    rfl

/-- The attributes with a domain, unless they have one. -/
def Attributes.orDomain (a : Attributes) (domain : Text) : Attributes :=
  if a.domain.isSome then a else { a with domain := some domain }

/-- An attribute of letters, with a space in front, is read with what follows the equals sign. -/
theorem readPart_attribute (key : Text) (hkey : ∀ c ∈ key, c.isAlphanum = true) (value : Text) :
    readPart (' ' :: (key ++ '=' :: value)) = (key, some (trimBlank value)) :=
  (readPart_space _).trans (readPart_pair (solid_of_alphanum hkey) value)

theorem readPart_domain (hostname : Text) :
    readPart (" Domain=".toList ++ hostname) = ("Domain".toList, some (trimBlank hostname)) :=
  readPart_attribute "Domain".toList (List.all_eq_true.mp (by decide)) hostname

/-- A host name that is added is the domain of a value without one. -/
theorem addAll_domain (now : Int) (a : Attributes) (hostname : Text) :
    addAll now a [" Domain=".toList ++ hostname] = some (a.orDomain (lower (trimBlank hostname))) := by
  have hlower : lower "Domain".toList = "domain".toList := by decide
  rw [addAll_cons (by rw [readPart_domain]; exact List.cons_ne_nil _ _), readPart_domain]
  dsimp only
  rw [Attributes.add, hlower, if_neg (by decide), if_neg (by decide), if_neg (by decide), if_pos rfl,
    Attributes.orDomain]
  split <;> rfl

end SetCookie

/-! ## Domains that are added

  When a value does not hold the text of a domain, the host name is written behind it as a domain before it is read.
  That text may stand anywhere in the value, so it has to be followed through the cuts. -/

/-- Whether a value holds the text of a domain is seen on both sides of a semicolon. -/
theorem mentionsDomain_append {more : Text} (h : ∀ c ∈ more, isAscii c = true) (raw : Text) :
    mentionsDomain (raw ++ ';' :: more) =
      (mentionsDomain raw || hasInfix "domain=".toList (more.map Char.toLower)) := by
  rw [mentionsDomain, lower_append_semicolon h, Bool.eq_iff_iff, Bool.or_eq_true, mentionsDomain, hasInfix_iff,
    hasInfix_iff, hasInfix_iff, infix_append_cons_iff (by decide)]

/-- What a host name adds to the parameters of a value. -/
def domainParameters (hostname raw : Text) : List Text :=
  if mentionsDomain raw then [] else (" Domain=".toList ++ hostname).splitOn ';'

theorem withDomain_eq {hostname raw : Text} (h : mentionsDomain raw = false) :
    withDomain hostname raw = raw ++ ';' :: (" Domain=".toList ++ hostname) := by
  rw [withDomain, h, if_neg Bool.false_ne_true, List.append_assoc]
  rfl

/-- The host name is written behind the pair. -/
theorem beforeMark_withDomain (hostname raw : Text) :
    beforeMark ';' (withDomain hostname raw) = beforeMark ';' raw := by
  cases h : mentionsDomain raw with
  | true => rw [withDomain, h, if_pos rfl]
  | false => rw [withDomain_eq h, beforeMark_append]

/-- The host name adds to the parameters, or nothing is added. -/
theorem parameters_withDomain (hostname raw : Text) :
    SetCookie.parameters (withDomain hostname raw) = SetCookie.parameters raw ++ domainParameters hostname raw := by
  cases h : mentionsDomain raw with
  | true => rw [withDomain, domainParameters, h, if_pos rfl, if_pos rfl, List.append_nil]
  | false => rw [withDomain_eq h, domainParameters, h, if_neg Bool.false_ne_true, SetCookie.parameters_append]

/-- The domain that is added to a value leaves its pair alone. -/
theorem hasPair_withDomain (hostname raw : Text) :
    SetCookie.hasPair (withDomain hostname raw) = SetCookie.hasPair raw := by
  rw [SetCookie.hasPair, SetCookie.hasPair, beforeMark_withDomain]

theorem SetCookie.nameOf_withDomain (hostname raw : Text) : nameOf (withDomain hostname raw) = nameOf raw := by
  rw [nameOf, nameOf, beforeMark_withDomain]

theorem SetCookie.valueOf_withDomain (hostname raw : Text) : valueOf (withDomain hostname raw) = valueOf raw := by
  rw [valueOf, valueOf, beforeMark_withDomain]

/-- The attributes with what a host name adds to those of a value. -/
def SetCookie.Attributes.withHost (a : SetCookie.Attributes) (hostname raw : Text) : SetCookie.Attributes :=
  if mentionsDomain raw then a else a.orDomain (lower (trimBlank hostname))

namespace SetCookie.Attributes

variable (a : SetCookie.Attributes) (hostname raw : Text)

/-- A host name that is added changes the domain at most. -/
theorem exists_withHost : ∃ domain, a.withHost hostname raw = { a with domain } := by
  rw [withHost, orDomain]
  split
  · exact ⟨a.domain, rfl⟩
  · split
    · exact ⟨a.domain, rfl⟩
    · exact ⟨_, rfl⟩

@[simp]
theorem withHost_version : (a.withHost hostname raw).version = a.version := by
  obtain ⟨_, h⟩ := a.exists_withHost hostname raw
  rw [h]

@[simp]
theorem withHost_expires : (a.withHost hostname raw).expires = a.expires := by
  obtain ⟨_, h⟩ := a.exists_withHost hostname raw
  rw [h]

@[simp]
theorem withHost_port : (a.withHost hostname raw).port = a.port := by
  obtain ⟨_, h⟩ := a.exists_withHost hostname raw
  rw [h]

end SetCookie.Attributes

/-- A host name that is added and does not end its part is a domain and nothing more. -/
theorem addAll_domainParameters {hostname raw : Text} (h : mentionsDomain raw = true ∨ ';' ∉ hostname) (now : Int)
    (a : SetCookie.Attributes) :
    SetCookie.addAll now a (domainParameters hostname raw) = some (a.withHost hostname raw) := by
  rw [domainParameters, SetCookie.Attributes.withHost]
  split
  · rfl
  · rename_i hmention
    have hmark : ';' ∉ " Domain=".toList ++ hostname := fun hmem =>
      (List.mem_append.mp hmem).elim (by decide) (h.resolve_left hmention)
    rw [List.splitOn_eq_singleton hmark, SetCookie.addAll_domain]

/-- **What a host name adds** to the attributes of a value: a domain, if it has none. -/
theorem readAttributes_withDomain {hostname raw : Text} (h : mentionsDomain raw = true ∨ ';' ∉ hostname) (now : Int) :
    SetCookie.readAttributes now (SetCookie.parameters (withDomain hostname raw)) =
      (SetCookie.readAttributes now (SetCookie.parameters raw)).map (·.withHost hostname raw) := by
  rw [parameters_withDomain, SetCookie.readAttributes_eq, SetCookie.addAll_append, SetCookie.readAttributes_eq]
  cases SetCookie.addAll now {} (SetCookie.parameters raw) with
  | none => rfl
  | some a => exact addAll_domainParameters h now a

end Courier
