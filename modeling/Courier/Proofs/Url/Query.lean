/-
  The query of a request: the URL's own, and the caller's parameters after it.

  1. **Texts** (`Form.decodeText_encodeText`): a name or a value is percent coded, and its spaces are written as
     plus signs.  A plus sign of its own is escaped, so reading the plus signs as spaces gives back what was coded,
     and an encoded text holds neither of the two marks that a list of pairs is cut at.

  2. **Pairs** (`Form.decode_encode`): encoded pairs are cut apart at the ampersands that were put between them, and
     each at its first equals sign, also where a name or a value is empty.  No piece is empty, since every pair has
     its equals sign, so leaving out empty pieces leaves out nothing.

  3. **Two texts** (`Form.decode_append`): an ampersand keeps what stands before it apart from what stands after it,
     whatever the first of them is.  So the caller's parameters are read as what they are behind any query that a
     URL came with.

  4. **Groups**: what a caller gives as pairs is first gathered in groups by their keys, so pairs with equal keys
     come to stand together at the place of the first (`Form.gathered`).  This moves pairs and does nothing else
     (`Form.gathered_perm`), and those with one key stay in order (`Form.filter_gathered`).  Both are by an
     induction that takes the pairs with one key at a time (`Form.gathered_induction`), because what is left after
     the first key is shorter but is no tail of the list.  That grouping really does this (`Form.group_eq`) is by
     induction from the right, since groups are made by adding one pair after another.

  5. **Keys of a caller** may be numbers and truth values as well, and some of these are the same key without being
     the same text.  The statement is about parameters that are texts (`Query.Gives`), for which grouping by keys
     and grouping by texts are the same (`Query.group_text`).
-/
import Courier.Url.Query
import Courier.Proofs.Text.Visible
import Courier.Proofs.Text.Percent
import Mathlib.Data.List.Nodup

namespace Courier

namespace Form

variable {key : Text} {pair : Text × Text} {pairs : List (Text × Text)}

/-! ## Encoded texts

  Percent coding with a space written as a plus sign, and what it does not write. -/

/-- The characters that are not escaped. -/
def isPlain (c : Char) : Bool := isUnreserved c || c == ' '

/-- Plain characters are ASCII, and the percent sign is not among them. -/
theorem isPlain_safe {c : Char} (h : isPlain c = true) : isAscii c = true ∧ c ≠ '%' := by
  rw [isPlain, Bool.or_eq_true, beq_iff_eq] at h
  rcases h with h | rfl
  · refine ⟨isAscii_of_isVisible (isVisible_of_isUnreserved h), ?_⟩
    rintro rfl
    exact absurd h (by decide)
  · decide

/-- A mark that is escaped, and that no escape is written with, does not occur. -/
theorem notMem_percentEncode {mark : Char} {safe : Char → Bool} (hsafe : safe mark = false)
    (hescape : ("%0123456789ABCDEF".toList.all fun c => c != mark) = true) (s : Text) :
    mark ∉ percentEncode safe s := by
  intro h
  rcases safe_or_escape_of_mem_percentEncode h with hplain | ⟨b, hb⟩
  · rw [hsafe] at hplain
    exact nomatch hplain
  · exact absurd (of_mem_percentByte hescape hb) (by simp)

/-- **A name or a value is read back as it was**, whatever characters it holds. -/
theorem decodeText_encodeText (s : Text) : decodeText (encodeText s) = s := by
  have hspaces : ((encodeText s).map fun c => if c = '+' then ' ' else c) = percentEncode isPlain s := by
    rw [encodeText, List.map_map]
    refine (List.map_congr_left fun c hc => ?_).trans (List.map_id _)
    have hplus : c ≠ '+' := by
      rintro rfl
      exact notMem_percentEncode (by decide) (by decide) s hc
    rw [Function.comp, id]
    -- a space was written as a plus sign, and every other character as it is
    by_cases hspace : c = ' '
    · rw [if_pos hspace, if_pos rfl, hspace]
    · rw [if_neg hspace, if_neg hplus]
  rw [decodeText, hspaces]
  exact percentDecode_percentEncode (fun _ => isPlain_safe) s

/-- The marks of pairs and of names do not occur in an encoded text. -/
theorem notMem_encodeText {mark : Char} (hmark : mark = '&' ∨ mark = '=') (s : Text) : mark ∉ encodeText s := by
  intro h
  obtain ⟨c, hc, hmade⟩ := List.mem_map.mp h
  split at hmade
  · rcases hmark with rfl | rfl <;> exact absurd hmade (by decide)
  · subst hmade
    rcases hmark with rfl | rfl
    · exact notMem_percentEncode (by decide) (by decide) s hc
    · exact notMem_percentEncode (by decide) (by decide) s hc

/-! ## Encoded pairs

  Pairs with ampersands between them and one equals sign in each, cut where they were put together. -/

theorem encodePair_ne_nil (pair : Text × Text) : encodePair pair ≠ [] :=
  List.append_ne_nil_of_right_ne_nil _ (List.cons_ne_nil _ _)

theorem notMem_encodePair (pair : Text × Text) : '&' ∉ encodePair pair := by
  rw [encodePair, List.mem_append, List.mem_cons]
  rintro (h | h | h)
  · exact notMem_encodeText (.inl rfl) _ h
  · exact absurd h (by decide)
  · exact notMem_encodeText (.inl rfl) _ h

/-- The first equals sign is the one between name and value. -/
theorem decodePair_encodePair (pair : Text × Text) : decodePair (encodePair pair) = pair := by
  rw [decodePair, beforeMark, afterMark, encodePair, cut_append_mark (notMem_encodeText (.inr rfl) _),
    Option.getD_some, decodeText_encodeText, decodeText_encodeText]

/-- **Encoded pairs are read back**, with blank names and values, in their order. -/
theorem decode_encode (pairs : List (Text × Text)) : decode (encode pairs) = pairs := by
  by_cases hpairs : pairs = []
  · rw [hpairs]
    rfl
  · -- the text is cut where the pairs were put together
    have hpieces : (encode pairs).splitOn '&' = pairs.map encodePair := by
      refine List.splitOn_intercalate '&' (fun piece hpiece => ?_) (List.map_eq_nil_iff.not.mpr hpairs)
      obtain ⟨pair, _, rfl⟩ := List.mem_map.mp hpiece
      exact notMem_encodePair pair
    -- and no piece is left out as empty
    have hfull : ∀ piece ∈ pairs.map encodePair, (!piece.isEmpty) = true := by
      intro piece hpiece
      obtain ⟨pair, _, rfl⟩ := List.mem_map.mp hpiece
      rw [Bool.not_eq_true', List.isEmpty_eq_false_iff]
      exact encodePair_ne_nil pair
    rw [decode, hpieces, List.filter_eq_self.mpr hfull, List.map_map]
    exact List.map_id'' decodePair_encodePair pairs

/-- Only no pairs are written as nothing. -/
theorem encode_eq_nil_iff : encode pairs = [] ↔ pairs = [] := by
  constructor
  · intro h
    have hread := decode_encode pairs
    rw [h] at hread
    exact hread.symm
  · rintro rfl
    rfl

/-- **An ampersand keeps texts apart**, encoded or not. -/
theorem decode_append (s t : Text) : decode (s ++ '&' :: t) = decode s ++ decode t := by
  rw [decode, List.splitOn_append_cons_self, List.filter_append, List.map_append]
  rfl

/-! ## Pairs with equal keys

  The order in which gathered pairs stand is that of the first pair with each key, and within one key that of the
  pairs. -/

/-- Pairs with equal keys together at the place of the first, and otherwise in order. -/
def gathered (pairs : List (Text × Text)) : List (Text × Text) :=
  (pairs.map Prod.fst).eraseDups.flatMap fun key => pairs.filter fun p => p.1 == key

/-- The first pair takes those with its key along. -/
theorem gathered_cons (pair : Text × Text) (pairs : List (Text × Text)) :
    gathered (pair :: pairs) =
      pair :: (pairs.filter fun p => p.1 == pair.1) ++ gathered (pairs.filter fun p => !(p.1 == pair.1)) := by
  rw [gathered, List.map_cons, List.eraseDups_cons, List.flatMap_cons, List.filter_cons_of_pos (by simp),
    List.filter_map, gathered]
  refine congrArg (_ ++ ·) (List.flatMap_congr fun key hkey => ?_)
  -- the pair and those with its key have no part in the other groups
  obtain ⟨p, hp, rfl⟩ := List.mem_map.mp (List.mem_eraseDups.mp hkey)
  have hne : p.1 ≠ pair.1 := by simpa using (List.mem_filter.mp hp).2
  rw [List.filter_cons_of_neg (by simpa using hne.symm), List.filter_filter]
  refine List.filter_congr fun p' _ => ?_
  by_cases hsame : p'.1 = p.1
  · simp [hsame, hne]
  · simp [hsame]

/-- An induction that takes the pairs with one key at a time. -/
theorem gathered_induction {motive : List (Text × Text) → Prop} (nil : motive [])
    (cons : ∀ pair pairs, motive (pairs.filter fun p => !(p.1 == pair.1)) → motive (pair :: pairs))
    (pairs : List (Text × Text)) : motive pairs := by
  induction hn : pairs.length using Nat.strongRecOn generalizing pairs with
  | ind n ih =>
    cases pairs with
    | nil => exact nil
    | cons pair rest =>
      refine cons pair rest (ih _ ?_ _ rfl)
      rw [← hn, List.length_cons]
      exact Nat.lt_succ_of_le (List.length_filter_le _ _)

/-- **Gathering moves pairs** and does nothing else. -/
theorem gathered_perm (pairs : List (Text × Text)) : (gathered pairs).Perm pairs := by
  induction pairs using gathered_induction with
  | nil => exact .nil
  | cons pair pairs ih =>
    rw [gathered_cons, List.cons_append]
    exact .cons pair ((ih.append_left _).trans (List.filter_append_perm _ pairs))

/-- Gathering keeps the pairs with one key in their order. -/
theorem filter_gathered (key : Text) (pairs : List (Text × Text)) :
    ((gathered pairs).filter fun p => p.1 == key) = pairs.filter fun p => p.1 == key := by
  induction pairs using gathered_induction with
  | nil => rfl
  | cons pair pairs ih =>
    rw [gathered_cons, List.filter_append, ih, List.filter_filter]
    -- the key of the first pair, whose group is in front, or another one
    by_cases hkey : pair.1 = key
    · subst hkey
      have hnone : (pairs.filter fun p => p.1 == pair.1 && !(p.1 == pair.1)) = [] :=
        List.filter_eq_nil_iff.mpr fun p _ => by simp
      rw [hnone, List.append_nil, List.filter_cons_of_pos (by simp), List.filter_cons_of_pos (by simp),
        List.filter_filter]
      simp only [Bool.and_self]
    · have hnone : (pair :: pairs.filter fun p => p.1 == pair.1).filter (fun p => p.1 == key) = [] := by
        refine List.filter_eq_nil_iff.mpr fun p hp => ?_
        have hsame : p.1 = pair.1 := by
          rcases List.mem_cons.mp hp with rfl | hp
          · rfl
          · exact beq_iff_eq.mp (List.mem_filter.mp hp).2
        rw [hsame]
        simpa using hkey
      rw [hnone, List.nil_append, List.filter_cons_of_neg (by simpa using hkey)]
      refine List.filter_congr fun p _ => ?_
      by_cases hsame : p.1 = key
      · simp [hsame, Ne.symm hkey]
      · simp [hsame]

/-- Groups without repeated keys are together already. -/
theorem gathered_ungroup {groups : List (Text × List Text)} (honce : (groups.map Prod.fst).Nodup) :
    gathered (ungroup groups) = ungroup groups := by
  induction groups with
  | nil => rfl
  | cons g rest ih =>
    rw [List.map_cons, List.nodup_cons] at honce
    have hothers : ∀ p ∈ ungroup rest, p.1 ≠ g.1 := by
      intro p hp hsame
      obtain ⟨g', hg', hp⟩ := List.mem_flatMap.mp hp
      obtain ⟨v, _, rfl⟩ := List.mem_map.mp hp
      exact honce.1 (hsame ▸ List.mem_map_of_mem hg')
    have hungroup : ungroup (g :: rest) = g.2.map (fun v => (g.1, v)) ++ ungroup rest := List.flatMap_cons
    rw [hungroup]
    rcases g.2 with _ | ⟨v, more⟩
    · exact ih honce.2
    · -- the first pair gathers those of its group, and leaves the others
      have hmore : ∀ p ∈ more.map fun v => (g.1, v), (p.1 == g.1) = true := by
        intro p hp
        obtain ⟨v, _, rfl⟩ := List.mem_map.mp hp
        exact beq_self_eq_true _
      have hsame : ((more.map (fun v => (g.1, v)) ++ ungroup rest).filter fun p => p.1 == g.1) =
          more.map fun v => (g.1, v) := by
        rw [List.filter_append, List.filter_eq_self.mpr hmore,
          List.filter_eq_nil_iff.mpr fun p hp => by simpa using hothers p hp, List.append_nil]
      have hrest : ((more.map (fun v => (g.1, v)) ++ ungroup rest).filter fun p => !(p.1 == g.1)) = ungroup rest := by
        rw [List.filter_append, List.filter_eq_nil_iff.mpr fun p hp => by simp [hmore p hp],
          List.filter_eq_self.mpr fun p hp => by simpa using hothers p hp, List.nil_append]
      rw [List.map_cons, List.cons_append, gathered_cons, hsame, hrest, ih honce.2,
        List.cons_append]

/-! ## Groups

  What is gathered is computed by adding one pair after another to groups, at the end of the group of its key or as
  a new one. -/

theorem group_concat {α β : Type} (same : α → α → Bool) (pairs : List (α × β)) (pair : α × β) :
    group same (pairs ++ [pair]) = addTo same (group same pairs) pair.1 [pair.2] := by
  rw [group, List.foldl_append]
  rfl

section

variable {keys : List Text} {values : Text → List Text}

/-- Further values of a key that has a group go to the end of it. -/
theorem addTo_of_mem (h : key ∈ keys) (more : List Text) :
    addTo (· == ·) (keys.map fun k => (k, values k)) key more =
      keys.map fun k => (k, values k ++ if k == key then more else []) := by
  have hany : (keys.map fun k => (k, values k)).any (fun g => g.1 == key) = true := by
    rw [List.any_map]
    exact List.any_eq_true.mpr ⟨key, h, beq_self_eq_true key⟩
  rw [addTo, if_pos hany, List.map_map]
  refine List.map_congr_left fun k _ => ?_
  rw [Function.comp]
  split
  · rfl
  · rw [List.append_nil]

/-- Values of a new key begin a group. -/
theorem addTo_of_notMem (h : key ∉ keys) (more : List Text) :
    addTo (· == ·) (keys.map fun k => (k, values k)) key more =
      (keys.map fun k => (k, values k)) ++ [(key, more)] := by
  have hany : ¬ (keys.map fun k => (k, values k)).any (fun g => g.1 == key) = true := by
    rw [List.any_map, List.any_eq_true]
    rintro ⟨k, hk, hsame⟩
    exact h (beq_iff_eq.mp hsame ▸ hk)
  rw [addTo, if_neg hany]

theorem eraseDups_concat_of_mem (h : key ∈ keys) : (keys ++ [key]).eraseDups = keys.eraseDups := by
  have hnone : [key].removeAll keys = [] := by simp [List.removeAll, h]
  rw [List.eraseDups_append, hnone, List.eraseDups_nil, List.append_nil]

theorem eraseDups_concat_of_notMem (h : key ∉ keys) : (keys ++ [key]).eraseDups = keys.eraseDups ++ [key] := by
  have hnew : [key].removeAll keys = [key] := by simp [List.removeAll, h]
  rw [List.eraseDups_append, hnew]
  rfl

theorem nodup_eraseDups (keys : List Text) : keys.eraseDups.Nodup := by
  induction keys using List.reverseRecOn with
  | nil => exact List.nodup_nil
  | append_singleton keys key ih =>
    by_cases hold : key ∈ keys
    · rwa [eraseDups_concat_of_mem hold]
    · rw [eraseDups_concat_of_notMem hold, ← List.concat_eq_append, List.nodup_concat]
      exact ⟨fun hmem => hold (List.mem_eraseDups.mp hmem), ih⟩

end

/-- **Groups are the pairs gathered**: a key for each, and under it the values of the pairs with that key. -/
theorem group_eq (pairs : List (Text × Text)) :
    group (· == ·) pairs = (pairs.map Prod.fst).eraseDups.map fun key =>
      (key, (pairs.filter fun p => p.1 == key).map Prod.snd) := by
  induction pairs using List.reverseRecOn with
  | nil => rfl
  | append_singleton pairs pair ih =>
    have hvalues (key : Text) : ((pairs ++ [pair]).filter fun p => p.1 == key).map Prod.snd =
        (pairs.filter fun p => p.1 == key).map Prod.snd ++ if key == pair.1 then [pair.2] else [] := by
      rw [List.filter_append, List.map_append, BEq.comm]
      cases hkey : pair.1 == key <;> simp [hkey]
    rw [group_concat, ih, List.map_append, List.map_singleton]
    -- the group of the last pair is there already, or begins with it
    by_cases hold : pair.1 ∈ pairs.map Prod.fst
    · rw [addTo_of_mem (List.mem_eraseDups.mpr hold), eraseDups_concat_of_mem hold]
      exact List.map_congr_left fun key _ => by rw [hvalues]
    · have hnone : (pairs.filter fun p => p.1 == pair.1) = [] :=
        List.filter_eq_nil_iff.mpr fun p hp hsame => hold (beq_iff_eq.mp hsame ▸ List.mem_map_of_mem hp)
      rw [addTo_of_notMem (fun hmem => hold (List.mem_eraseDups.mp hmem)), eraseDups_concat_of_notMem hold,
        List.map_append, List.map_singleton, hvalues, hnone, List.map_nil, List.nil_append, if_pos (beq_self_eq_true _)]
      refine congrArg (· ++ _) (List.map_congr_left fun key hkey => ?_)
      have hother : ¬ (key == pair.1) = true := fun hsame =>
        hold (beq_iff_eq.mp hsame ▸ List.mem_eraseDups.mp hkey)
      rw [hvalues, if_neg hother, List.append_nil]

theorem nodup_keys_group (pairs : List (Text × Text)) : ((group (· == ·) pairs).map Prod.fst).Nodup := by
  have hkeys : (group (· == ·) pairs).map Prod.fst = (pairs.map Prod.fst).eraseDups := by
    rw [group_eq, List.map_map]
    exact List.map_id _
  rw [hkeys]
  exact nodup_eraseDups _

/-- Groups written out as pairs are the pairs gathered. -/
theorem ungroup_group (pairs : List (Text × Text)) : ungroup (group (· == ·) pairs) = gathered pairs := by
  rw [group_eq, ungroup, gathered, List.flatMap_map]
  refine List.flatMap_congr fun key _ => ?_
  rw [List.map_map]
  refine (List.map_congr_left fun p hp => ?_).trans (List.map_id _)
  rw [Function.comp, ← beq_iff_eq.mp (List.mem_filter.mp hp).2]
  rfl

end Form

/-! ## Callers' parameters

  A caller gives pairs or a mapping, and both are brought to groups.  For texts, what a caller gives and what is
  written are the same pairs. -/

namespace Query

/-- Groups of texts as a caller gives them. -/
def ofGroups (groups : List (Text × List Text)) : List (Scalar × List Scalar) :=
  groups.map (Prod.map Scalar.text (List.map Scalar.text))

/-- Parameters that are texts, as a list of pairs or as a mapping to one or several values, and the pairs that they
    are. -/
inductive Gives : Query → List (Text × Text) → Prop
  | pairs (ps : List (Text × Text)) : Gives (.pairs (ps.map (Prod.map Scalar.text Scalar.text))) ps
  | fields (fs : List (Text × List Text)) (honce : (fs.map Prod.fst).Nodup) :
      Gives (.fields (ofGroups fs)) (Form.ungroup fs)

/-- Texts are the same key when they are the same text. -/
theorem sameKey_text (s t : Text) : Scalar.sameKey (.text s) (.text t) = (s == t) := by
  have hsame : ((Scalar.text s == Scalar.text t) = true) = ((s == t) = true) := by
    rw [beq_iff_eq, beq_iff_eq, Scalar.text.injEq]
  have hnumber : (Scalar.text s != Scalar.real .notANumber) = true := bne_iff_ne.mpr nofun
  have hnone (s : Text) : Scalar.integer? (.text s) = none := rfl
  rw [Scalar.sameKey, hnone, hnone]
  dsimp only
  rw [hnumber, Bool.and_true, Bool.eq_iff_iff, hsame]

/-- Adding a text under a text is adding it under the key of a caller. -/
theorem addTo_text (groups : List (Text × List Text)) (key value : Text) :
    Form.addTo Scalar.sameKey (ofGroups groups) (.text key) [.text value] =
      ofGroups (Form.addTo (· == ·) groups key [value]) := by
  have hany : (ofGroups groups).any (fun g => g.1.sameKey (.text key)) = groups.any fun g => g.1 == key := by
    rw [ofGroups, List.any_map]
    exact congrArg groups.any (funext fun g => sameKey_text g.1 key)
  rw [Form.addTo, hany, Form.addTo]
  split
  · rw [ofGroups, ofGroups, List.map_map, List.map_map]
    refine List.map_congr_left fun g _ => ?_
    rw [Function.comp, Function.comp, Prod.map_fst, sameKey_text]
    split
    · rw [Prod.map, Prod.map, List.map_append]
      rfl
    · rfl
  · rw [ofGroups, ofGroups, List.map_append]
    rfl

/-- Grouping texts as keys of a caller is grouping them as texts. -/
theorem group_text (ps : List (Text × Text)) :
    Form.group Scalar.sameKey (ps.map (Prod.map Scalar.text Scalar.text)) = ofGroups (Form.group (· == ·) ps) := by
  induction ps using List.reverseRecOn with
  | nil => rfl
  | append_singleton ps pair ih =>
    rw [List.map_append, List.map_singleton, Form.group_concat, ih, Form.group_concat]
    exact addTo_text _ pair.1 pair.2

/-- Groups under different texts are written as they are. -/
theorem textGroups_ofGroups {groups : List (Text × List Text)} (honce : (groups.map Prod.fst).Nodup) :
    textGroups (ofGroups groups) = groups := by
  induction groups using List.reverseRecOn with
  | nil => rfl
  | append_singleton groups g ih =>
    rw [List.map_append, List.map_singleton, ← List.concat_eq_append, List.nodup_concat] at honce
    obtain ⟨hnew, honce⟩ := honce
    have hvalues : (g.2.map Scalar.text).map Scalar.valueText = g.2 := by
      rw [List.map_map]
      exact List.map_id _
    have hany : ¬ groups.any (fun g' => g'.1 == g.1) = true := by
      rw [List.any_eq_true]
      rintro ⟨g', hg', hsame⟩
      exact hnew (beq_iff_eq.mp hsame ▸ List.mem_map_of_mem hg')
    have hstep : textGroups (ofGroups (groups ++ [g])) =
        putText (textGroups (ofGroups groups)) g.1 ((g.2.map Scalar.text).map Scalar.valueText) := by
      rw [textGroups, ofGroups, List.map_append, List.foldl_append]
      rfl
    rw [hstep, ih honce, hvalues, putText, if_neg hany]

/-- **Parameters are written with equal keys together.** -/
theorem text_of_gives {q : Query} {ps : List (Text × Text)} (h : q.Gives ps) :
    q.text = Form.encode (Form.gathered ps) := by
  cases h with
  | pairs =>
    rw [text, groups, group_text, textGroups_ofGroups (Form.nodup_keys_group ps), Form.ungroup_group]
  | fields fs honce => rw [text, groups, textGroups_ofGroups honce, Form.gathered_ungroup honce]

end Query

/-! ## The query of a request

  The four cases of an empty or present query on either side. -/

/-- **The query of a request is the URL's own with the caller's parameters after it**: it is empty when there is
    neither, and otherwise it begins with the URL's own as it is and is read as the pairs of the URL's own, and then
    those of the caller, with equal keys together.  Whatever characters a key or a value holds, the caller's pairs are
    the ones that are read, and those with one key in the order in which they were given. -/
theorem Url.combineQuery_gives (u : Url) {q : Query} {ps : List (Text × Text)} (h : q.Gives ps) :
    (u.combineQuery q = [] ↔ u.queryText = [] ∧ ps = []) ∧
      (u.combineQuery q ≠ [] → ∃ t, u.combineQuery q = '?' :: t ∧ u.queryText <+: t ∧
        Form.decode t = Form.decode u.queryText ++ Form.gathered ps) ∧
      (Form.gathered ps).Perm ps ∧
      ∀ key, ((Form.gathered ps).filter fun p => p.1 == key) = ps.filter fun p => p.1 == key := by
  have hperm := Form.gathered_perm ps
  have htext := Query.text_of_gives h
  have hempty : q.text = [] ↔ ps = [] := by
    rw [htext, Form.encode_eq_nil_iff]
    exact ⟨fun hnil => List.perm_nil.mp (hnil ▸ hperm).symm, fun hnil => by rw [hnil]; rfl⟩
  have hread : Form.decode q.text = Form.gathered ps := by
    rw [htext, Form.decode_encode]
  suffices hquery : (u.combineQuery q = [] ↔ u.queryText = [] ∧ q.text = []) ∧
      (u.combineQuery q ≠ [] → ∃ t, u.combineQuery q = '?' :: t ∧ u.queryText <+: t ∧
        Form.decode t = Form.decode u.queryText ++ Form.decode q.text) by
    rw [hempty, hread] at hquery
    exact ⟨hquery.1, hquery.2, hperm, fun key => Form.filter_gathered key ps⟩
  rw [Url.combineQuery]
  -- with and without a query of the URL, and with and without parameters
  rcases hown : u.queryText with _ | ⟨c, own⟩ <;> rcases q.text with _ | ⟨d, callers⟩
  · exact ⟨by simp, fun hne => absurd rfl hne⟩
  · exact ⟨by simp, fun _ => ⟨_, rfl, List.nil_prefix, rfl⟩⟩
  · exact ⟨by simp, fun _ => ⟨_, rfl, List.prefix_refl _, (List.append_nil _).symm⟩⟩
  · exact ⟨by simp, fun _ => ⟨_, rfl, List.prefix_append _ _, Form.decode_append _ _⟩⟩

/-- Marks of pairs, of escapes and of spaces, and a blank value, between two pairs with one key. -/
theorem Url.combineQuery_gives_of_marks :
    let u : Url := { scheme := "http".toList, rawHost := "h".toList, query := some "a=%26".toList }
    let ps : List (Text × Text) :=
      [("k&".toList, "=+%20 ".toList), ([], []), ("k&".toList, "€".toList)]
    let q : Query := .pairs (ps.map (Prod.map Scalar.text Scalar.text))
    q.Gives ps ∧ u.combineQuery q ≠ [] ∧ ∃ t, u.combineQuery q = '?' :: t ∧
      Form.decode t = Form.decode "a=%26".toList ++
        [("k&".toList, "=+%20 ".toList), ("k&".toList, "€".toList), ([], [])] := by
  intro u ps q
  have hgives : q.Gives ps := .pairs ps
  obtain ⟨_, hquery, _, _⟩ := u.combineQuery_gives hgives
  have hne : u.combineQuery q ≠ [] := by decide +kernel
  obtain ⟨t, ht, _, hdecode⟩ := hquery hne
  exact ⟨hgives, hne, t, ht, hdecode.trans (by decide +kernel)⟩

end Courier
