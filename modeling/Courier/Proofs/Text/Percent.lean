/-
  Percent coding loses nothing.

  What percent coding writes is ASCII, so reading takes it apart into octets only: a safe character is its own
  octet, and an escape is the octet it was written for.  These are the octets of the text in eight-bit form, and the
  reader of that form is back between characters after every character, whatever was read before.  The safe set must
  be ASCII without the percent sign; nothing else about it matters.

  1. Characters as octets.  The reader of the eight-bit form is a machine that takes an octet at a time.  For each
     of the four lengths of a character, its octets lead from between characters to between characters and give the
     character (`Utf8.foldl_step_utf8Char`).  The arithmetic is the same in all four, six bits at a time, but the
     ranges are not: some first octets allow fewer second ones, which keeps surrogates and longer forms out.  That
     no character is a surrogate is used there.

  2. Escapes.  The text that was written falls into units, an octet for each safe character and for each escape, in
     the order in which they were written (`percentUnits_percentEncode`).

  3. Together, decoding what was encoded gives the text (`percentDecode_percentEncode`).

  On the way stand two facts about lengths.  A text of safe characters is written as it is
  (`percentEncode_of_forall`), and every character that is escaped makes it longer
  (`length_add_countP_le_percentEncode`), so a text that is not longer afterwards was safe throughout
  (`forall_of_length_percentEncode_le`).
-/
import Courier.Text.Percent
import Courier.Proofs.Basic

namespace Courier

/-! ## Characters as octets

  A character is one to four octets, and reading them is a small machine with the pending octets as its state.
  There is one case for each length, and the values of the octets are bounded by arithmetic. -/

theorem toNat_bounds (c : Char) : c.toNat < 0xd800 ∨ 0xdfff < c.toNat ∧ c.toNat < 0x110000 := c.valid

namespace Utf8

theorem step_first (read : Text) {n : Nat} (hn : n < 256) : step { read } (UInt8.ofNat n) = first read n := by
  rw [step, UInt8.toNat_ofNat_of_lt' hn]

/-- An octet that goes on with a character, and does not end it. -/
theorem step_more (read : Text) {p : Pending} {n : Nat} (hn : n < 256) (hrange : p.low ≤ n ∧ n ≤ p.high)
    (hmissing : 1 < p.missing) :
    step { read, pending := some p } (UInt8.ofNat n) =
      { read, pending := some ⟨p.missing - 1, p.value * 64 + (n - 0x80), 0x80, 0xbf⟩ } := by
  simp only [step, UInt8.toNat_ofNat_of_lt' hn]
  rw [if_pos hrange, if_neg (by omega)]

theorem step_last (read : Text) {p : Pending} {n : Nat} (hn : n < 256) (hrange : p.low ≤ n ∧ n ≤ p.high)
    (hmissing : p.missing = 1) :
    step { read, pending := some p } (UInt8.ofNat n) =
      { read := Char.ofNat (p.value * 64 + (n - 0x80)) :: read } := by
  simp only [step, UInt8.toNat_ofNat_of_lt' hn]
  rw [if_pos hrange, if_pos (by omega)]

/-- An octet that begins a character leaves it pending. -/
theorem first_of_begin {read : Text} {n : Nat} {p : Pending} (h : begin n = some (.inr p)) :
    first read n = { read, pending := some p } := by
  rw [first, h]

/-- What the first of three octets begins; two values of it allow fewer second octets. -/
theorem begin_three {n : Nat} (h : n < 16) :
    begin (0xe0 + n) =
      some (.inr ⟨2, n, if n = 0 then 0xa0 else 0x80, if n = 13 then 0x9f else 0xbf⟩) := by
  rw [begin, if_neg (by omega), if_neg (by omega)]
  by_cases h0 : n = 0
  · subst h0
    rfl
  · by_cases h13 : n = 13
    · subst h13
      rfl
    · rw [if_neg (by omega), if_neg (by omega), if_pos (by omega), if_neg h0, if_neg h13, Nat.add_sub_cancel_left]

/-- What the first of four octets begins. -/
theorem begin_four {n : Nat} (h : n < 5) :
    begin (0xf0 + n) =
      some (.inr ⟨3, n, if n = 0 then 0x90 else 0x80, if n = 4 then 0x8f else 0xbf⟩) := by
  rw [begin, if_neg (by omega), if_neg (by omega), if_neg (by omega), if_neg (by omega), if_neg (by omega)]
  by_cases h0 : n = 0
  · subst h0
    rfl
  · by_cases h4 : n = 4
    · subst h4
      rfl
    · rw [if_neg (by omega), if_pos (by omega), if_neg h0, if_neg h4, Nat.add_sub_cancel_left]

/-- **The octets of a character are read as that character**, from between characters to between characters. -/
theorem foldl_step_utf8Char (read : Text) (c : Char) :
    (utf8Char c).foldl step { read } = { read := c :: read } := by
  have hbounds := toNat_bounds c
  have hchar : Char.ofNat c.toNat = c := Char.ofNat_toNat c
  simp only [utf8Char]
  generalize c.toNat = n at hbounds hchar
  split
  · -- one octet
    rw [List.foldl_cons, step_first read (by omega), first, begin, if_pos (by assumption), hchar]
    rfl
  · split
    · -- two octets
      have hbegin : begin (0xc0 + n / 64) = some (.inr ⟨1, n / 64, 0x80, 0xbf⟩) := by
        rw [begin, if_neg (by omega), if_pos (by omega), Nat.add_sub_cancel_left]
      have hvalue : n / 64 * 64 + (0x80 + n % 64 - 0x80) = n := by omega
      rw [List.foldl_cons, step_first read (by omega), first_of_begin hbegin, List.foldl_cons,
        step_last read (by omega) (by dsimp only; omega) rfl, List.foldl_nil, hvalue, hchar]
    · split
      · -- three octets: the second is at least `0xa0` after `0xe0`, and below the surrogates after `0xed`
        have hbegin := begin_three (n := n / 4096) (by omega)
        have hvalue : (n / 4096 * 64 + (0x80 + n / 64 % 64 - 0x80)) * 64 + (0x80 + n % 64 - 0x80) = n := by
          omega
        rw [List.foldl_cons, step_first read (by omega), first_of_begin hbegin, List.foldl_cons,
          step_more read (by omega) (by dsimp only; split <;> split <;> omega) (by dsimp only; omega), List.foldl_cons,
          step_last read (by omega) (by dsimp only; omega) rfl, List.foldl_nil]
        dsimp only
        rw [hvalue, hchar]
      · -- four octets: the second is at least `0x90` after `0xf0`, and at most `0x8f` after `0xf4`
        have hbegin := begin_four (n := n / 262144) (by omega)
        have hvalue : ((n / 262144 * 64 + (0x80 + n / 4096 % 64 - 0x80)) * 64 + (0x80 + n / 64 % 64 - 0x80)) * 64 +
            (0x80 + n % 64 - 0x80) = n := by
          omega
        rw [List.foldl_cons, step_first read (by omega), first_of_begin hbegin, List.foldl_cons,
          step_more read (by omega) (by dsimp only; split <;> split <;> omega) (by dsimp only; omega), List.foldl_cons,
          step_more read (by omega) (by dsimp only; omega) (by dsimp only; omega), List.foldl_cons,
          step_last read (by omega) (by dsimp only; omega) rfl, List.foldl_nil]
        dsimp only
        rw [hvalue, hchar]

/-- The octets of a text are read as that text. -/
theorem foldl_step_utf8 (s : Text) : (utf8 s).foldl step {} = { read := s.reverse } := by
  have hread (read : Text) : (utf8 s).foldl step { read } = { read := s.reverse ++ read } := by
    induction s generalizing read with
    | nil => rfl
    | cons c rest ih =>
      rw [utf8] at ih
      rw [utf8, List.flatMap_cons, List.foldl_append, foldl_step_utf8Char, ih, List.reverse_cons, List.append_assoc]
      rfl
  rw [hread, List.append_nil]

end Utf8

/-! ## Escapes

  A percent sign with two digits is one octet, and a character that begins no escape is one unit. -/

/-- An escape has two digits, the higher one first. -/
theorem percentByte_digits (b : UInt8) :
    ∃ x y, percentByte b = ['%', x, y] ∧ hexDigit? x = some (b.toNat / 16) ∧ hexDigit? y = some (b.toNat % 16) := by
  have hall : ∀ n : Fin 256,
      percentByte (UInt8.ofNat n) = ['%', (Nat.digitChar (n / 16)).toUpper, (Nat.digitChar (n % 16)).toUpper] ∧
        hexDigit? (Nat.digitChar (n / 16)).toUpper = some (n / 16) ∧
        hexDigit? (Nat.digitChar (n % 16)).toUpper = some (n % 16) := by
    decide +kernel
  have hb := hall ⟨b.toNat, b.toNat_lt⟩
  rw [UInt8.ofNat_toNat] at hb
  exact ⟨_, _, hb⟩

/-- An escape is one unit, its octet. -/
theorem percentUnits_percentByte (done : List (Sum UInt8 Char)) (b : UInt8) (s : Text) :
    percentUnits done (percentByte b ++ s) = percentUnits (.inl b :: done) s := by
  obtain ⟨x, y, hb, hx, hy⟩ := percentByte_digits b
  have hvalue : UInt8.ofNat (b.toNat / 16 * 16 + b.toNat % 16) = b := by
    rw [Nat.div_add_mod', UInt8.ofNat_toNat]
  rw [hb]
  simp only [List.cons_append, List.nil_append, percentUnits, hx, hy, hvalue]

/-- Escapes in a row are their octets in a row. -/
theorem percentUnits_flatMap (done : List (Sum UInt8 Char)) (bs : Bytes) (s : Text) :
    percentUnits done (bs.flatMap percentByte ++ s) = percentUnits ((bs.map .inl).reverse ++ done) s := by
  induction bs generalizing done with
  | nil => rfl
  | cons b rest ih =>
    rw [List.flatMap_cons, List.append_assoc, percentUnits_percentByte, ih, List.map_cons, List.reverse_cons,
      List.append_assoc]
    rfl

/-- A character that begins no escape is one unit. -/
theorem percentUnits_cons {c : Char} (hc : c ≠ '%') (done : List (Sum UInt8 Char)) (s : Text) :
    percentUnits done (c :: s) =
      percentUnits ((if isAscii c then .inl (UInt8.ofNat c.toNat) else .inr c) :: done) s := by
  rw [percentUnits]
  intro a b rest h
  exact absurd h hc

/-- Every character has an octet. -/
theorem exists_cons_of_utf8Char (c : Char) : ∃ b more, utf8Char c = b :: more := by
  simp only [utf8Char]
  split
  · exact ⟨_, _, rfl⟩
  · split
    · exact ⟨_, _, rfl⟩
    · split <;> exact ⟨_, _, rfl⟩

theorem utf8Char_of_isAscii {c : Char} (h : isAscii c = true) : utf8Char c = [UInt8.ofNat c.toNat] := by
  rw [isAscii, decide_eq_true_iff] at h
  simp only [utf8Char]
  rw [if_pos h]

/-- A text of safe characters is written as it is. -/
theorem percentEncode_of_forall {safe : Char → Bool} {s : Text} (h : ∀ c ∈ s, safe c = true) :
    percentEncode safe s = s := by
  induction s with
  | nil => rfl
  | cons c rest ih =>
    have hrest := ih fun d hd => h d (List.mem_cons_of_mem _ hd)
    rw [percentEncode] at hrest ⊢
    rw [List.flatMap_cons, hrest, h c (List.mem_cons_self ..), if_pos rfl]
    rfl

/-- Every character that is escaped makes a text longer. -/
theorem length_add_countP_le_percentEncode (safe : Char → Bool) (s : Text) :
    s.length + s.countP (fun c => !safe c) ≤ (percentEncode safe s).length := by
  induction s with
  | nil => exact Nat.le_refl _
  | cons c rest ih =>
    rw [percentEncode] at ih ⊢
    rw [List.flatMap_cons, List.length_append, List.length_cons]
    cases hc : safe c with
    | true =>
      rw [if_pos rfl, List.countP_cons_of_neg (by rw [hc]; decide), List.length_singleton]
      omega
    | false =>
      -- one octet at least, and three characters for it
      have hlength : 3 ≤ ((utf8Char c).flatMap percentByte).length := by
        obtain ⟨b, more, hb⟩ := exists_cons_of_utf8Char c
        obtain ⟨x, y, hbyte, _⟩ := percentByte_digits b
        rw [hb, List.flatMap_cons, hbyte, List.length_append]
        exact Nat.le_add_right 3 _
      rw [if_neg Bool.false_ne_true, List.countP_cons_of_pos (by rw [hc]; rfl)]
      omega

/-- Nothing else than a text of safe characters is written as it is. -/
theorem forall_of_length_percentEncode_le {safe : Char → Bool} {s : Text}
    (h : (percentEncode safe s).length ≤ s.length) : ∀ c ∈ s, safe c = true := by
  intro c hc
  by_contra hescaped
  rw [Bool.not_eq_true] at hescaped
  have hcount : 0 < s.countP fun c => !safe c := List.countP_pos_iff.mpr ⟨c, hc, by rw [hescaped]; rfl⟩
  have hlength := length_add_countP_le_percentEncode safe s
  omega

/-! ## Reading back

  The units of an encoded text are the octets of the text, in order, so decoding them gives the text. -/

section

variable {safe : Char → Bool} (hsafe : ∀ c, safe c = true → isAscii c = true ∧ c ≠ '%')

include hsafe

/-- The units of an encoded text are the octets of the text. -/
theorem percentUnits_percentEncode (done : List (Sum UInt8 Char)) (s : Text) :
    percentUnits done (percentEncode safe s) = done.reverse ++ (utf8 s).map .inl := by
  induction s generalizing done with
  | nil => exact (List.append_nil _).symm
  | cons c rest ih =>
    rw [percentEncode] at ih
    rw [percentEncode, utf8, List.flatMap_cons, List.flatMap_cons, List.map_append]
    split
    · -- a safe character is its own octet
      rename_i hc
      obtain ⟨hascii, hpercent⟩ := hsafe c hc
      rw [List.singleton_append, percentUnits_cons hpercent, if_pos hascii, ih, utf8Char_of_isAscii hascii,
        List.reverse_cons, List.append_assoc]
      rfl
    · rw [percentUnits_flatMap, ih, List.reverse_append, List.reverse_reverse, List.append_assoc]
      rfl

/-- **A percent-encoded text is read back as it was.** -/
theorem percentDecode_percentEncode (s : Text) : percentDecode (percentEncode safe s) = s := by
  have hread : ((utf8 s).map Sum.inl).foldl readUnit {} = (utf8 s).foldl Utf8.step {} := List.foldl_map
  rw [percentDecode, percentUnits_percentEncode hsafe, List.reverse_nil, List.nil_append, hread, Utf8.foldl_step_utf8]
  exact List.reverse_reverse s

theorem percentDecode_of_forall {s : Text} (h : ∀ c ∈ s, safe c = true) : percentDecode s = s := by
  have hread := percentDecode_percentEncode hsafe s
  rwa [percentEncode_of_forall h] at hread

end

end Courier
