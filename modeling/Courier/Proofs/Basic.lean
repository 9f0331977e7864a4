/-
  Steps that may fail, and lists: what proofs about several parts of the library take apart in the same way.

  1. **Steps**: a computation in `Except` that succeeds did so at every step (`exists_of_bind_eq_ok`), and one that
     fails did so at its first step or after it (`of_bind_eq_error`).  Proofs about functions that may fail peel
     them apart with these two and do not unfold the steps behind.  The same is said of maps over lists.

  2. **Finite checks**: what is asked of one character or of one octet is checked for all of them by computation
     (`ascii_forall`, `octet_forall`).

  3. **Texts are lists**, and reading them is cutting, trimming and searching.  A cut looks only at what stands
     before the mark (`beforeMark_append`), a trim at the end changes no trim (`trim_trimRight`), and a search finds
     just the parts of a text (`hasInfix_iff`).  Everything about cuts comes in two cases, a text without the mark
     and a text that is put together from two with a mark between them, and `exists_cut` says that there are no
     others.

  None of this is about requests.  Facts that hold of lists in general are in Mathlib, and what is here is about the
  functions of `Courier.Text.Basic`.
-/
import Courier.Text.Basic
import Mathlib.Data.List.DropRight
import Mathlib.Data.List.Induction
import Mathlib.Data.List.TakeWhile

namespace Courier

variable {α β ε : Type}

/-! ## Steps

  How a computation that may fail is taken apart. -/

/-- A computation that succeeds succeeds at its first step, and goes on from there. -/
theorem exists_of_bind_eq_ok {x : Except ε α} {f : α → Except ε β} {b : β} (h : (x >>= f) = .ok b) :
    ∃ a, x = .ok a ∧ f a = .ok b := by
  cases x with
  | error e => exact nomatch h
  | ok a => exact ⟨a, rfl, h⟩

/-- A computation that fails fails at its first step, or after it. -/
theorem of_bind_eq_error {x : Except ε α} {f : α → Except ε β} {e : ε} (h : (x >>= f) = .error e) :
    x = .error e ∨ ∃ a, x = .ok a ∧ f a = .error e := by
  cases x with
  | error e' => exact Or.inl (congrArg Except.error (Except.error.inj h))
  | ok a => exact Or.inr ⟨a, rfl, h⟩

theorem toOption_eq_some_iff {x : Except ε α} {a : α} : x.toOption = some a ↔ x = .ok a := by
  cases x with
  | error e => exact ⟨nofun, nofun⟩
  | ok b => exact ⟨fun h => congrArg Except.ok (Option.some.inj h), fun h => congrArg some (Except.ok.inj h)⟩

/-! ## Finite checks -/

/-- What is checked of every ASCII character. -/
@[elab_as_elim]
theorem ascii_forall {P : Char → Prop} (c : Char) (hc : c.toNat < 128) (h : ∀ n : Fin 128, P (Char.ofNat n)) : P c := by
  have hchar := h ⟨c.toNat, hc⟩
  rwa [Char.ofNat_toNat] at hchar

/-- What is checked of every octet. -/
@[elab_as_elim]
theorem octet_forall {P : UInt8 → Prop} (b : UInt8) (h : ∀ n : Fin 256, P (UInt8.ofNat n)) : P b := by
  have hb := h ⟨b.toNat, b.toNat_lt⟩
  rwa [UInt8.ofNat_toNat] at hb

/-- Only ASCII letters have a small one of the core library. -/
theorem toLower_of_not_ascii {c : Char} (h : 128 ≤ c.toNat) : c.toLower = c := by
  refine dif_neg ?_
  rintro ⟨_, hle⟩
  have hsmall : c.toNat ≤ 90 := UInt32.le_iff_toNat_le.mp hle
  omega

/-! ## Fallible maps

  A map over a list that fails as soon as one of its steps does. -/

/-- What a fallible map writes comes from one of the inputs. -/
theorem exists_of_mem_mapM {f : α → Except ε β} {xs : List α} {ys : List β} (h : xs.mapM f = .ok ys) {y : β}
    (hy : y ∈ ys) : ∃ x ∈ xs, f x = .ok y := by
  induction xs generalizing ys with
  | nil =>
    rw [← Except.ok.inj h] at hy
    exact absurd hy List.not_mem_nil
  | cons x rest ih =>
    rw [List.mapM_cons] at h
    obtain ⟨first, hx, h⟩ := exists_of_bind_eq_ok h
    obtain ⟨others, hrest, h⟩ := exists_of_bind_eq_ok h
    rw [← Except.ok.inj h] at hy
    rcases List.mem_cons.mp hy with rfl | hy
    · exact ⟨x, List.mem_cons_self .., hx⟩
    · obtain ⟨x', hx', hf⟩ := ih hrest hy
      exact ⟨x', List.mem_cons_of_mem _ hx', hf⟩

/-- A fallible map fails because it fails for one of the inputs. -/
theorem exists_of_mapM_eq_error {f : α → Except ε β} {xs : List α} {e : ε} (h : xs.mapM f = .error e) :
    ∃ x ∈ xs, f x = .error e := by
  induction xs with
  | nil => exact nomatch h
  | cons x rest ih =>
    rw [List.mapM_cons] at h
    rcases of_bind_eq_error h with hx | ⟨first, _, h⟩
    · exact ⟨x, List.mem_cons_self .., hx⟩
    · rcases of_bind_eq_error h with hrest | ⟨others, _, h⟩
      · obtain ⟨x', hx', hf⟩ := ih hrest
        exact ⟨x', List.mem_cons_of_mem _ hx', hf⟩
      · exact nomatch h

/-- A fallible map that fails nowhere is a map. -/
theorem mapM_eq_map {f : α → Except ε β} {g : α → β} {xs : List α} (h : ∀ x ∈ xs, f x = .ok (g x)) :
    xs.mapM f = .ok (xs.map g) := by
  induction xs with
  | nil => rfl
  | cons x rest ih =>
    rw [List.mapM_cons, h x (List.mem_cons_self ..), ih fun y hy => h y (List.mem_cons_of_mem _ hy)]
    rfl

/-! ## Members

  What a function on lists can bring in and what it can lose. -/

/-- What stands in a list that is put together stands between the parts or in one of them. -/
theorem mem_of_mem_intercalate {between : List α} {parts : List (List α)} {x : α}
    (h : x ∈ between.intercalate parts) : x ∈ between ∨ ∃ p ∈ parts, x ∈ p := by
  rw [List.intercalate] at h
  obtain ⟨p, hp, hx⟩ := List.mem_flatten.mp h
  induction parts with
  | nil => exact absurd hp List.not_mem_nil
  | cons q rest ih =>
    cases rest with
    | nil =>
      rw [List.mem_singleton.mp hp] at hx
      exact Or.inr ⟨q, List.mem_cons_self .., hx⟩
    | cons q' rest =>
      rw [List.intersperse_cons_cons] at hp
      rcases List.mem_cons.mp hp with rfl | hp
      · exact Or.inr ⟨p, List.mem_cons_self .., hx⟩
      · rcases List.mem_cons.mp hp with rfl | hp
        · exact Or.inl hx
        · rcases ih (List.mem_flatten.mpr ⟨p, hp, hx⟩) hp with hbetween | ⟨p', hp', hx'⟩
          · exact Or.inl hbetween
          · exact Or.inr ⟨p', List.mem_cons_of_mem _ hp', hx'⟩

theorem mem_of_mem_trim {p : α → Bool} {s : List α} {x : α} (h : x ∈ trim p s) : x ∈ s := by
  rw [trim, trimRight, List.mem_reverse] at h
  exact (List.dropWhile_sublist _).subset (List.mem_reverse.mp ((List.dropWhile_sublist _).subset h))

/-- What is dropped in front is of the class. -/
theorem mem_dropWhile_or {p : α → Bool} {s : List α} {x : α} (h : x ∈ s) : x ∈ s.dropWhile p ∨ p x = true := by
  rw [← List.takeWhile_append_dropWhile (p := p) (l := s)] at h
  rcases List.mem_append.mp h with h | h
  · exact Or.inr (List.all_eq_true.mp List.all_takeWhile x h)
  · exact Or.inl h

/-- A trim drops only what is of its class. -/
theorem mem_trim_or {p : α → Bool} {s : List α} {x : α} (h : x ∈ s) : x ∈ trim p s ∨ p x = true := by
  rcases mem_dropWhile_or (p := p) h with h | h
  · -- dropped in front, or dropped at the end
    rcases mem_dropWhile_or (p := p) (List.mem_reverse.mpr h) with h | h
    · exact Or.inl (List.mem_reverse.mpr h)
    · exact Or.inr h
  · exact Or.inr h

/-! ## Trims

  A trim takes characters of a class off both ends and stops at the first that is not of the class. -/

/-- A text without a character of the class is not trimmed. -/
theorem trim_of_forall {p : α → Bool} {s : List α} (h : ∀ x ∈ s, p x = false) : trim p s = s := by
  have hdrop {t : List α} (ht : ∀ x ∈ t, x ∈ s) : t.dropWhile p = t := by
    rw [List.dropWhile_eq_self_iff]
    intro hlength
    rw [h _ (ht _ (List.getElem_mem hlength))]
    exact Bool.false_ne_true
  rw [trim, trimLeft, hdrop fun _ hx => hx, trimRight, hdrop fun _ hx => List.mem_reverse.mp hx, List.reverse_reverse]

/-- What is of the class at the end does not count. -/
theorem trim_concat {p : α → Bool} (s : List α) {x : α} (hx : p x = true) : trim p (s ++ [x]) = trim p s := by
  rw [trim, trim, trimLeft, trimLeft, List.dropWhile_append]
  cases h : s.dropWhile p with
  | nil =>
    rw [List.isEmpty_nil, if_pos rfl, List.dropWhile_cons_of_pos hx]
    rfl
  | cons y rest =>
    rw [List.isEmpty_cons, if_neg Bool.false_ne_true, trimRight, trimRight, List.reverse_append, List.reverse_singleton,
      List.singleton_append, List.dropWhile_cons_of_pos hx]

/-- A trim at the end before a trim changes nothing. -/
theorem trim_trimRight (p : α → Bool) (s : List α) : trim p (trimRight p s) = trim p s := by
  induction s using List.reverseRecOn with
  | nil => rfl
  -- the last character is dropped, or it stops the trim
  | append_singleton s x ih =>
    cases hx : p x with
    | true =>
      rw [trim_concat s hx, ← ih, trimRight, List.reverse_append, List.reverse_singleton, List.singleton_append,
        List.dropWhile_cons_of_pos hx]
      rfl
    | false =>
      rw [trimRight, List.reverse_append, List.reverse_singleton, List.singleton_append,
        List.dropWhile_cons_of_neg (by rw [hx]; exact Bool.false_ne_true), List.reverse_cons, List.reverse_reverse]

theorem trim_trim (p : α → Bool) (s : List α) : trim p (trim p s) = trim p s := by
  show trim p (trimRight p (trimLeft p s)) = trim p s
  rw [trim_trimRight, trim, trim, trimLeft, trimLeft, List.dropWhile_idempotent]

theorem trim_infix (p : α → Bool) (s : List α) : trim p s <:+: s := by
  have hright (t : List α) : trimRight p t <+: t := by
    rw [← List.reverse_suffix, trimRight, List.reverse_reverse]
    exact List.dropWhile_suffix p
  exact (hright _).isInfix.trans (List.dropWhile_suffix p).isInfix

/-- Dropping at the end stops at a character that is not of the class. -/
theorem trimRight_append_cons {p : α → Bool} {x : α} (hx : p x = false) (s t : List α) :
    trimRight p (s ++ x :: t) = s ++ x :: trimRight p t := by
  have hstop : (x :: s.reverse).dropWhile p = x :: s.reverse := List.dropWhile_cons_of_neg (by rw [hx]; decide)
  rw [trimRight, trimRight, List.reverse_append, List.reverse_cons, List.append_assoc, List.singleton_append,
    List.dropWhile_append]
  cases h : t.reverse.dropWhile p with
  | nil =>
    rw [List.isEmpty_nil, if_pos rfl, hstop, List.reverse_cons, List.reverse_reverse]
    rfl
  | cons y rest =>
    rw [List.isEmpty_cons, if_neg Bool.false_ne_true]
    simp

/-! ## Search

  A text stands in another one at some place, and a mark that it does not hold parts the places. -/

theorem hasInfix_iff [BEq α] [LawfulBEq α] {needle s : List α} : hasInfix needle s = true ↔ needle <:+: s := by
  induction s with
  | nil => rw [hasInfix, List.isEmpty_iff, List.infix_nil]
  | cons x rest ih => rw [hasInfix, Bool.or_eq_true, ih, List.isPrefixOf_iff_prefix, List.infix_cons_iff]

/-- A text without the mark stands on one side of it. -/
theorem infix_append_cons_iff {mark : α} {needle s t : List α} (h : mark ∉ needle) :
    needle <:+: s ++ mark :: t ↔ needle <:+: s ∨ needle <:+: t := by
  constructor
  · rintro ⟨before, after, heq⟩
    rcases List.append_eq_append_iff.mp heq with ⟨rest, hs, _⟩ | ⟨rest, hneedle, ht⟩
    · exact Or.inl ⟨before, rest, hs.symm⟩
    · cases rest with
      | nil => exact Or.inl ⟨before, [], by rw [List.append_nil, hneedle, List.append_nil]⟩
      | cons x rest =>
        -- the needle ends behind the mark, so it begins behind it
        obtain ⟨hmark, htail⟩ := List.cons.inj ht
        rw [← hmark] at hneedle
        rcases List.append_eq_append_iff.mp hneedle with ⟨front, _, hfront⟩ | ⟨front, hbefore, hfront⟩
        · rw [hfront] at h
          exact absurd (List.mem_append_right _ (List.mem_cons_self ..)) h
        · cases front with
          | nil =>
            rw [List.nil_append] at hfront
            rw [← hfront] at h
            exact absurd (List.mem_cons_self ..) h
          | cons y front =>
            obtain ⟨_, hfront⟩ := List.cons.inj hfront
            exact Or.inr ⟨front, after, by rw [htail, hfront]; rfl⟩
  · rintro (hs | ht)
    · exact hs.trans (List.prefix_append ..).isInfix
    · exact ht.trans ((List.suffix_cons ..).isInfix.trans (List.suffix_append ..).isInfix)

/-! ## Cuts

  Every text without the mark is one case, and every text with it is a front without the mark, the mark and the
  rest. -/

section

variable [BEq α] [LawfulBEq α] {mark : α} {s before : List α}

/-- A text without the mark is not cut. -/
theorem cut_of_notMem (h : mark ∉ s) : cut mark s = (s, none) := by
  have hall : ∀ x ∈ s, (x != mark) = true := by
    intro x hx
    rw [bne_iff_ne]
    rintro rfl
    exact h hx
  rw [cut, List.takeWhile_eq_self_iff.mpr hall, List.dropWhile_eq_nil_iff.mpr hall]
  rfl

theorem beforeMark_of_notMem (h : mark ∉ s) : beforeMark mark s = s := by
  rw [beforeMark, cut_of_notMem h]

/-- A text is cut at the first mark. -/
theorem cut_append_mark (h : mark ∉ before) (after : List α) :
    cut mark (before ++ mark :: after) = (before, some after) := by
  induction before with
  | nil => simp [cut]
  | cons a t ih =>
    have ha : a ≠ mark := fun he => h (he ▸ List.mem_cons_self ..)
    have ht := ih (fun hm => h (List.mem_cons_of_mem _ hm))
    simp only [cut, Prod.mk.injEq] at ht ⊢
    simp only [List.cons_append, bne_iff_ne, ne_eq, ha, not_false_eq_true, List.takeWhile_cons_of_pos,
      List.dropWhile_cons_of_pos]
    exact ⟨by rw [ht.1], ht.2⟩

theorem notMem_of_cut {after : Option (List α)} (h : cut mark s = (before, after)) : mark ∉ before := by
  have hs := mark_notMem_beforeMark mark s
  rw [beforeMark, h] at hs
  exact hs

/-- A text with the mark is cut in two. -/
theorem exists_cut (h : mark ∈ s) : ∃ before after, mark ∉ before ∧ s = before ++ mark :: after := by
  rcases hcut : cut mark s with ⟨before, _ | after⟩
  · have hall : s.dropWhile (· != mark) = [] := by
      rw [cut, Prod.mk.injEq] at hcut
      cases hdrop : s.dropWhile (· != mark) with
      | nil => rfl
      | cons x rest =>
        rw [hdrop] at hcut
        exact absurd hcut.2 (by simp)
    have hne := List.dropWhile_eq_nil_iff.mp hall mark h
    rw [bne_self_eq_false] at hne
    exact Bool.noConfusion hne
  · exact ⟨before, after, notMem_of_cut hcut, cut_eq_some hcut⟩

/-- No part that a text is split into has the mark. -/
theorem notMem_of_mem_splitOn {part : List α} (h : part ∈ s.splitOn mark) : mark ∉ part := by
  induction hn : s.length using Nat.strongRecOn generalizing s with
  | ind n ih =>
    -- the first part, and then the parts of what is behind it, which is shorter
    by_cases hs : mark ∈ s
    · obtain ⟨before, after, hnot, rfl⟩ := exists_cut hs
      rw [List.splitOn_append_cons_self_of_not_mem hnot] at h
      rcases List.mem_cons.mp h with rfl | h
      · exact hnot
      · refine ih after.length ?_ h rfl
        rw [← hn, List.length_append, List.length_cons]
        omega
    · rw [List.splitOn_eq_singleton hs] at h
      rwa [List.mem_singleton.mp h]

/-- A text is cut at the last mark. -/
theorem cutLast_append_mark {after : List α} (h : mark ∉ after) (before : List α) :
    cutLast mark (before ++ mark :: after) = (some before, after) := by
  have hreverse : mark ∉ after.reverse := fun hmem => h (List.mem_reverse.mp hmem)
  rw [cutLast, List.reverse_append, List.reverse_cons, List.append_assoc, List.singleton_append,
    cut_append_mark hreverse]
  dsimp only
  rw [Option.map_some, List.reverse_reverse, List.reverse_reverse]

/-- Without the mark, all of the text is behind it. -/
theorem cutLast_of_notMem (h : mark ∉ s) : cutLast mark s = (none, s) := by
  rw [cutLast, cut_of_notMem fun hmem => h (List.mem_reverse.mp hmem)]
  dsimp only
  rw [List.reverse_reverse]
  rfl

/-- A text with the mark is cut in two at its last one. -/
theorem exists_cutLast (h : mark ∈ s) : ∃ before after, mark ∉ after ∧ s = before ++ mark :: after := by
  obtain ⟨after, before, hnot, hs⟩ := exists_cut (List.mem_reverse.mpr h)
  refine ⟨before.reverse, after.reverse, fun hmem => hnot (List.mem_reverse.mp hmem), ?_⟩
  rw [← List.reverse_reverse s, hs, List.reverse_append, List.reverse_cons, List.append_assoc]
  rfl

end

/-- **What comes behind the mark does not count.** -/
theorem beforeMark_append {mark : Char} (s t : Text) :
    beforeMark mark (s ++ mark :: t) = beforeMark mark s := by
  induction s with
  | nil => simp [beforeMark, cut]
  | cons c rest ih =>
    rw [beforeMark, beforeMark, cut, cut] at ih
    rw [beforeMark, beforeMark, cut, cut, List.cons_append, List.takeWhile_cons, List.takeWhile_cons]
    cases hc : c != mark with
    | true =>
      rw [if_pos rfl, if_pos rfl]
      exact congrArg (c :: ·) ih
    | false => rfl

end Courier
