import JobLog.Proofs.Json.Grammar
import JobLog.Proofs.Text.Utf8

/-!
# Strings

A string is read in two stages, its bytes first and then the text that they are (`string`). Both
stages together accept exactly the form `Quoted`, which knows characters only
(`string_eq_ok_iff`): escapes stand for whole characters, so raw bytes before and after an escape
are never joined to one. A skipped string is exactly `Unchecked` (`skipString_eq_ok_iff`), which
every text is as well (`Quoted.unchecked`).
-/

namespace JobLog.Json

open String (utf8EncodeChar)

/-! ## Units -/

/-- Hexadecimal digits are those of the grammar, in either case. -/
theorem hexDigit?_eq_some_iff {b : UInt8} {n : Nat} : hexDigit? b = some n ↔ HexDigit b n := by
  -- the same values, counted from the letter
  have hUpper (hLow : 65 ≤ b) : b.toNat - 55 = b.toNat - 65 + 10 := by
    have hNat : 65 ≤ b.toNat := UInt8.le_iff_toNat_le.1 hLow
    omega
  have hLower (hLow : 97 ≤ b) : b.toNat - 87 = b.toNat - 97 + 10 := by
    have hNat : 97 ≤ b.toNat := UInt8.le_iff_toNat_le.1 hLow
    omega
  unfold hexDigit?
  constructor
  · intro h
    split at h
    · rename_i hRange
      cases h
      exact .digit b hRange.1 hRange.2
    · split at h
      · rename_i hRange
        cases h
        exact hLower hRange.1 ▸ .lower b hRange.1 hRange.2
      · split at h
        · rename_i hRange
          cases h
          exact hUpper hRange.1 ▸ .upper b hRange.1 hRange.2
        · cases h
  · intro h
    cases h with
    | digit hLow hHigh => rw [if_pos ⟨hLow, hHigh⟩]
    | upper hLow hHigh =>
        have hDigit : ¬ (48 ≤ b ∧ b ≤ 57) := fun h =>
          absurd (UInt8.le_trans hLow h.2) (by decide)
        have hNotLower : ¬ (97 ≤ b ∧ b ≤ 102) := fun h =>
          absurd (UInt8.le_trans h.1 hHigh) (by decide)
        rw [if_neg hDigit, if_neg hNotLower, if_pos ⟨hLow, hHigh⟩, hUpper hLow]
    | lower hLow hHigh =>
        have hDigit : ¬ (48 ≤ b ∧ b ≤ 57) := fun h =>
          absurd (UInt8.le_trans hLow h.2) (by decide)
        rw [if_neg hDigit, if_pos ⟨hLow, hHigh⟩, hLower hLow]

/-- A unit is four hexadecimal digits. -/
theorem unit_eq_ok_iff {s r : Bytes} {n : Nat} : unit s = .ok (n, r) ↔ Unit16 (117 :: s) n r := by
  constructor
  · intro h
    unfold unit at h
    split at h
    · rename_i a b c d t
      split at h
      · rename_i m hNumber
        cases h
        simp only [hexNumber?, Option.bind_eq_bind, Option.bind_eq_some_iff,
          Option.pure_def, Option.some.injEq] at hNumber
        obtain ⟨i, hA, j, hB, k, hC, l, hD, rfl⟩ := hNumber
        exact .hex a b c d i j k l r (hexDigit?_eq_some_iff.1 hA) (hexDigit?_eq_some_iff.1 hB)
          (hexDigit?_eq_some_iff.1 hC) (hexDigit?_eq_some_iff.1 hD)
      · cases h
    · cases h
  · intro h
    cases h with
    | hex a b c d i j k l _ hA hB hC hD =>
        have hNumber : hexNumber? a b c d = some (((i * 16 + j) * 16 + k) * 16 + l) := by
          simp [hexNumber?, hexDigit?_eq_some_iff.2 hA, hexDigit?_eq_some_iff.2 hB,
            hexDigit?_eq_some_iff.2 hC, hexDigit?_eq_some_iff.2 hD]
        simp only [unit, hNumber]

theorem HexDigit.lt {b : UInt8} {n : Nat} (h : HexDigit b n) : n < 16 := by
  cases h with
  | digit _ hHigh =>
      have hNat : b.toNat ≤ 57 := UInt8.le_iff_toNat_le.1 hHigh
      omega
  | upper _ hHigh =>
      have hNat : b.toNat ≤ 70 := UInt8.le_iff_toNat_le.1 hHigh
      omega
  | lower _ hHigh =>
      have hNat : b.toNat ≤ 102 := UInt8.le_iff_toNat_le.1 hHigh
      omega

theorem Unit16.lt {s r : Bytes} {n : Nat} (h : Unit16 s n r) : n < 0x10000 := by
  cases h with
  | hex a b c d i j k l _ hA hB hC hD =>
      have hI := hA.lt
      have hJ := hB.lt
      have hK := hC.lt
      have hL := hD.lt
      omega

theorem Unit16.starts {s r : Bytes} {n : Nat} (h : Unit16 s n r) : ∃ t, s = 117 :: t := by
  cases h
  exact ⟨_, rfl⟩

/-! ## Escapes -/

/-- Each letter of the table is read as the byte of its character. -/
theorem shortEscape?_of_mem :
    ∀ p ∈ shortEscapes,
      p.1 ≠ 117 ∧ (shortEscape? p.1).map (fun k => [k]) = some (utf8EncodeChar p.2) := by
  decide

theorem mem_of_shortEscape? {b k : UInt8} (h : shortEscape? b = some k) :
    ∃ c, (b, c) ∈ shortEscapes ∧ utf8EncodeChar c = [k] := by
  refine ⟨Char.ofNat k.toNat, ?_⟩
  unfold shortEscape? at h
  repeat' split at h
  all_goals cases h
  all_goals
    subst b
    decide

/-- A number that is a character is read as it. -/
theorem pointBytes_eq {n : Nat} (h : n.isValidChar) :
    ∃ c : Char, c.toNat = n ∧ pointBytes n = utf8EncodeChar c := by
  refine ⟨Char.ofNat n, ?_, rfl⟩
  rw [Char.ofNat, dif_pos h]
  rfl

/-- The bytes of the code point of a character are its encoding. -/
theorem pointBytes_toNat (c : Char) : pointBytes c.toNat = utf8EncodeChar c := by
  rw [pointBytes, Char.ofNat_toNat]

/-- No character is a surrogate. -/
theorem toNat_not_surrogate (c : Char) : ¬ (0xD800 ≤ c.toNat ∧ c.toNat ≤ 0xDFFF) := by
  have hValid : c.toNat < 0xD800 ∨ 0xDFFF < c.toNat ∧ c.toNat < 0x110000 := c.valid
  omega

/-- What is read as the second half of a pair is an escape of one, and both halves together make a
code point. -/
theorem lowSurrogate_sound {high : Nat} {s b r : Bytes} (h : lowSurrogate high s = .ok (b, r)) :
    ∃ t low, s = 92 :: t ∧ Unit16 t low r ∧ (0xDC00 ≤ low ∧ low ≤ 0xDFFF) ∧
      b = pointBytes ((high - 0xD800) * 0x400 + (low - 0xDC00) + 0x10000) := by
  unfold lowSurrogate at h
  split at h
  · rename_i t
    split at h
    · cases h
    · rename_i low u hUnit
      split at h
      · rename_i hLow
        obtain ⟨rfl, rfl⟩ := Prod.mk.inj (Except.ok.inj h)
        exact ⟨117 :: t, low, rfl, unit_eq_ok_iff.1 hUnit, hLow, rfl⟩
      · cases h
  all_goals cases h

/-- The second half of a pair is read if it is one. -/
theorem lowSurrogate_complete (high : Nat) {t r : Bytes} {low : Nat} (hUnit : Unit16 t low r)
    (hLow : 0xDC00 ≤ low ∧ low ≤ 0xDFFF) :
    lowSurrogate high (92 :: t) =
      .ok (pointBytes ((high - 0xD800) * 0x400 + (low - 0xDC00) + 0x10000), r) := by
  obtain ⟨u, rfl⟩ := hUnit.starts
  simp only [lowSurrogate, unit_eq_ok_iff.2 hUnit, if_pos hLow]

/-- An escape is read as the bytes of the character that it stands for. -/
theorem escape_sound {s b r : Bytes} (h : escape s = .ok (b, r)) :
    ∃ c, Escape s c r ∧ b = utf8EncodeChar c := by
  unfold escape at h
  split at h
  · cases h
  · rename_i letter s
    split at h
    · rename_i hLetter
      subst hLetter
      split at h
      · cases h
      · rename_i n t hRead
        have hUnit := unit_eq_ok_iff.1 hRead
        have hBound := hUnit.lt
        split at h
        · cases h
        · rename_i hNotLow
          -- Surrogates name a character in pairs only; every other unit is one itself.
          split at h
          · rename_i hHigh
            obtain ⟨u, low, rfl, hSecond, hLow, hPair⟩ := lowSurrogate_sound h
            have hValid : Nat.isValidChar
                ((n - 0xD800) * 0x400 + (low - 0xDC00) + 0x10000) := by
              right
              omega
            obtain ⟨c, hChar, hBytes⟩ := pointBytes_eq hValid
            exact ⟨c, .pair _ u r n low c hHigh hLow hUnit hSecond hChar, hPair.trans hBytes⟩
          · rename_i hNotHigh
            cases h
            have hValid : Nat.isValidChar n := by
              rw [Nat.isValidChar]
              omega
            obtain ⟨c, rfl, hBytes⟩ := pointBytes_eq hValid
            exact ⟨c, .unit _ r c hUnit, hBytes⟩
    · split at h
      · rename_i k hShort
        cases h
        obtain ⟨c, hMem, hBytes⟩ := mem_of_shortEscape? hShort
        exact ⟨c, .short letter c r hMem, hBytes.symm⟩
      · cases h

/-- Every escape of a character is read. -/
theorem escape_complete {s r : Bytes} {c : Char} (h : Escape s c r) :
    escape s = .ok (utf8EncodeChar c, r) := by
  cases h with
  | short letter _ _ hMem =>
      obtain ⟨hNotUnit, hShort⟩ := shortEscape?_of_mem (letter, c) hMem
      obtain ⟨k, hLetter, hBytes⟩ := Option.map_eq_some_iff.1 hShort
      simp only [escape, if_neg hNotUnit, hLetter, ← hBytes]
  | unit _ _ _ hUnit =>
      obtain ⟨u, rfl⟩ := hUnit.starts
      have hNot := toNat_not_surrogate c
      have hNotLow : ¬ (0xDC00 ≤ c.toNat ∧ c.toNat ≤ 0xDFFF) := by omega
      have hNotHigh : ¬ (0xD800 ≤ c.toNat ∧ c.toNat ≤ 0xDBFF) := by omega
      simp only [escape, if_true, unit_eq_ok_iff.2 hUnit, if_neg hNotLow, if_neg hNotHigh,
        pointBytes_toNat]
  | pair _ t _ high low _ hHigh hLow hFirst hSecond hChar =>
      obtain ⟨u, rfl⟩ := hFirst.starts
      have hNotLow : ¬ (0xDC00 ≤ high ∧ high ≤ 0xDFFF) := by omega
      simp only [escape, if_true, unit_eq_ok_iff.2 hFirst, if_neg hNotLow, if_pos hHigh,
        lowSurrogate_complete high hSecond hLow, ← hChar, pointBytes_toNat]

/-! ## Texts -/

/-- The bytes of a string up to its closing quote: those that stand for themselves and those of
escaped characters. -/
inductive Pieces : Bytes → Bytes → Bytes → Prop where
  | close (r : Bytes) : Pieces (34 :: r) [] r
  | raw (b : UInt8) (s bytes r : Bytes) (hPlain : Plain b) (hRest : Pieces s bytes r) :
      Pieces (b :: s) (b :: bytes) r
  | escape (c : Char) (s t bytes r : Bytes) (hEscape : Escape s c t) (hRest : Pieces t bytes r) :
      Pieces (92 :: s) (utf8EncodeChar c ++ bytes) r

/-- What is read up to the closing quote are the bytes of the pieces, in order. -/
theorem contents_sound {taken s b r : Bytes} (h : contents taken s = .ok (b, r)) :
    ∃ bytes, b = taken.reverse ++ bytes ∧ Pieces s bytes r := by
  fun_induction contents taken s with
  | case1 => cases h
  | case2 taken s =>
      cases h
      exact ⟨[], (List.append_nil _).symm, .close r⟩
  | case3 => cases h
  | case4 taken s bytes t hRead _ ih =>
      obtain ⟨more, rfl, hRest⟩ := ih h
      obtain ⟨c, hEscape, rfl⟩ := escape_sound hRead
      exact ⟨_, by simp, .escape c s t more r hEscape hRest⟩
  | case5 => cases h
  | case6 taken b s hQuote hBackslash hControl ih =>
      obtain ⟨more, rfl, hRest⟩ := ih h
      have hPlain : Plain b := ⟨UInt8.not_lt.1 hControl, hQuote, hBackslash⟩
      exact ⟨b :: more, by simp, .raw b s more r hPlain hRest⟩

/-- The pieces of a string are read one after the other. -/
theorem contents_complete {s bytes r : Bytes} (h : Pieces s bytes r) (taken : Bytes) :
    contents taken s = .ok (taken.reverse ++ bytes, r) := by
  induction h generalizing taken with
  | close r =>
      rw [contents, if_pos rfl, List.append_nil]
  | raw b s bytes r hPlain _ ih =>
      obtain ⟨hControl, hQuote, hBackslash⟩ := hPlain
      rw [contents, if_neg hQuote, if_neg hBackslash, if_neg (UInt8.not_lt.2 hControl), ih]
      simp
  | escape c s t bytes r hEscape _ ih =>
      rw [contents, if_neg (by decide), if_pos rfl]
      split
      · rename_i hRead
        rw [escape_complete hEscape] at hRead
        cases hRead
      · rename_i hRead
        rw [escape_complete hEscape] at hRead
        cases hRead
        rw [ih]
        simp

/-- A character stands for itself if all its bytes do. -/
theorem plain_utf8EncodeChar_iff (c : Char) :
    (∀ b ∈ utf8EncodeChar c, Plain b) ↔ 32 ≤ c.toNat ∧ c ≠ '"' ∧ c ≠ '\\' := by
  by_cases hAscii : c.toNat < 128
  · have hByte : ∀ n < 128, Plain (UInt8.ofNat n) ↔ 32 ≤ n ∧ n ≠ 34 ∧ n ≠ 92 := by decide
    have hQuote : c ≠ '"' ↔ c.toNat ≠ 34 := not_congr Char.toNat_inj.symm
    have hBackslash : c ≠ '\\' ↔ c.toNat ≠ 92 := not_congr Char.toNat_inj.symm
    rw [Text.utf8EncodeChar_of_lt hAscii, hQuote, hBackslash, ← hByte _ hAscii]
    simp
  · have hHigh : 128 ≤ c.toNat := Nat.not_lt.1 hAscii
    refine iff_of_true (fun b hb => ?_) ⟨by omega, ?_, ?_⟩
    · have hLarge := Text.le_of_mem_utf8EncodeChar hHigh hb
      refine ⟨UInt8.le_trans (by decide) hLarge, ?_, ?_⟩
      · rintro rfl
        exact absurd hLarge (by decide)
      · rintro rfl
        exact absurd hLarge (by decide)
    · rintro rfl
      exact absurd hHigh (by decide)
    · rintro rfl
      exact absurd hHigh (by decide)

/-- Bytes that cannot begin a character are raw. -/
theorem Pieces.take_tail {tail s bytes r : Bytes} (h : Pieces s (tail ++ bytes) r)
    (hTail : ∀ k ∈ tail, ¬ k.IsUTF8FirstByte) :
    ∃ t, s = tail ++ t ∧ (∀ k ∈ tail, Plain k) ∧ Pieces t bytes r := by
  induction tail generalizing s with
  | nil => exact ⟨s, rfl, by simp, h⟩
  | cons k tail ih =>
      have hNot : ¬ k.IsUTF8FirstByte := hTail k List.mem_cons_self
      have hTail' : ∀ k ∈ tail, ¬ k.IsUTF8FirstByte := fun k hk =>
        hTail k (List.mem_cons_of_mem _ hk)
      generalize hBytes : k :: tail ++ bytes = all at h
      cases h with
      | close => cases hBytes
      | raw b s more _ hPlain hRest =>
          obtain ⟨rfl, rfl⟩ := List.cons.inj hBytes
          obtain ⟨t, rfl, hAll, hLater⟩ := ih hRest hTail'
          exact ⟨t, rfl, List.forall_mem_cons.2 ⟨hPlain, hAll⟩, hLater⟩
      | escape c s t more _ _ _ =>
          -- The bytes of an escaped character begin with a first byte.
          obtain ⟨b, others, hChar, hFirst, -⟩ := Text.utf8EncodeChar_eq_cons c
          rw [hChar] at hBytes
          obtain ⟨rfl, -⟩ := List.cons.inj hBytes
          exact absurd hFirst hNot

/-- The bytes of a text are written as its characters are. -/
theorem Pieces.quoted {cs : List Char} {s r : Bytes}
    (h : Pieces s (cs.flatMap utf8EncodeChar) r) : Quoted s cs r := by
  induction cs generalizing s with
  | nil =>
      generalize hBytes : [].flatMap utf8EncodeChar = all at h
      cases h with
      | close => exact .close r
      | raw => cases hBytes
      | escape c =>
          have hNil : utf8EncodeChar c = [] := (List.append_eq_nil_iff.1 hBytes.symm).1
          exact absurd hNil String.utf8EncodeChar_ne_nil
  | cons c cs ih =>
      generalize hBytes : (c :: cs).flatMap utf8EncodeChar = all at h
      rw [List.flatMap_cons] at hBytes
      cases h with
      | close =>
          have hNil : utf8EncodeChar c = [] := (List.append_eq_nil_iff.1 hBytes).1
          exact absurd hNil String.utf8EncodeChar_ne_nil
      | escape d s t more _ hEscape hRest =>
          -- The bytes of `d` come first, so `d` is the first character.
          obtain ⟨rfl, rfl⟩ := Text.utf8EncodeChar_append_inj hBytes
          exact .escape c s t r cs hEscape (ih hRest)
      | raw b s more _ hPlain hRest =>
          -- A raw first byte: the other bytes of the character are raw too.
          obtain ⟨first, tail, hChar, -, hTail⟩ := Text.utf8EncodeChar_eq_cons c
          rw [hChar] at hBytes
          obtain ⟨rfl, rfl⟩ := List.cons.inj hBytes
          obtain ⟨t, rfl, hAll, hLater⟩ := hRest.take_tail hTail
          have hPlainChar : ∀ b ∈ utf8EncodeChar c, Plain b := by
            rw [hChar]
            exact List.forall_mem_cons.2 ⟨hPlain, hAll⟩
          obtain ⟨hControl, hQuote, hBackslash⟩ := (plain_utf8EncodeChar_iff c).1 hPlainChar
          have hSplit : first :: (tail ++ t) = utf8EncodeChar c ++ t := by rw [hChar]; rfl
          rw [hSplit]
          exact .raw c t r cs hControl hQuote hBackslash (ih hLater)

theorem Pieces.raw_append {s bytes r front : Bytes} (h : Pieces s bytes r)
    (hPlain : ∀ b ∈ front, Plain b) : Pieces (front ++ s) (front ++ bytes) r := by
  induction front with
  | nil => exact h
  | cons b front ih =>
      obtain ⟨hFirst, hLater⟩ := List.forall_mem_cons.1 hPlain
      exact .raw b _ _ r hFirst (ih hLater)

/-- A character that is written raw is a piece for each of its bytes. -/
theorem Quoted.pieces {cs : List Char} {s r : Bytes} (h : Quoted s cs r) :
    Pieces s (cs.flatMap utf8EncodeChar) r := by
  induction h with
  | close r => exact .close r
  | raw c s r cs hControl hQuote hBackslash _ ih =>
      exact ih.raw_append ((plain_utf8EncodeChar_iff c).2 ⟨hControl, hQuote, hBackslash⟩)
  | escape c s t r cs hEscape _ ih => exact .escape c s t _ r hEscape ih

/-- A string reader accepts exactly the texts. -/
theorem string_eq_ok_iff {s r : Bytes} {t : String} :
    string s = .ok (t, r) ↔ Quoted s t.toList r := by
  unfold string
  constructor
  · intro h
    split at h
    · cases h
    · rename_i bytes rest hRead
      obtain ⟨_, rfl, hPieces⟩ := contents_sound hRead
      split at h
      · rename_i text hDecode
        cases h
        rw [Text.decode?_eq_some_iff] at hDecode
        exact (hDecode ▸ hPieces).quoted
      · cases h
  · intro h
    simp only [contents_complete h.pieces [], List.reverse_nil, List.nil_append,
      Text.decode?_eq_some_iff.2 rfl]

/-! ## Skipped strings -/

/-- An escape that is skipped has a letter of the table or a unit, which may be half of a pair. -/
theorem skipEscape_sound {s r : Bytes} (h : skipEscape s = .ok r) :
    (∃ b c, s = b :: r ∧ (b, c) ∈ shortEscapes) ∨ ∃ n, Unit16 s n r := by
  unfold skipEscape at h
  split at h
  · cases h
  · rename_i b s
    split at h
    · rename_i hLetter
      subst hLetter
      split at h
      · cases h
      · rename_i n t hRead
        cases h
        exact .inr ⟨n, unit_eq_ok_iff.1 hRead⟩
    · split at h
      · rename_i hShort
        cases h
        obtain ⟨k, hShort⟩ := Option.isSome_iff_exists.1 hShort
        obtain ⟨c, hMem, -⟩ := mem_of_shortEscape? hShort
        exact .inl ⟨b, c, rfl, hMem⟩
      · cases h

theorem skipEscape_short {b : UInt8} {c : Char} (h : (b, c) ∈ shortEscapes) (r : Bytes) :
    skipEscape (b :: r) = .ok r := by
  obtain ⟨hNotUnit, hShort⟩ := shortEscape?_of_mem (b, c) h
  obtain ⟨k, hLetter, -⟩ := Option.map_eq_some_iff.1 hShort
  simp only [skipEscape, if_neg hNotUnit, hLetter, Option.isSome_some, if_true]

theorem skipEscape_unit {n : Nat} {s r : Bytes} (h : Unit16 s n r) : skipEscape s = .ok r := by
  obtain ⟨t, rfl⟩ := h.starts
  simp only [skipEscape, if_true, unit_eq_ok_iff.2 h]

/-- A string that is skipped is checked for escapes and control characters, not for its encoding. -/
theorem skipString_sound {s r : Bytes} (h : skipString s = .ok r) : Unchecked s r := by
  fun_induction skipString s with
  | case1 => cases h
  | case2 s =>
      cases h
      exact .close r
  | case3 => cases h
  | case4 s t hRead _ ih =>
      rcases skipEscape_sound hRead with ⟨b, c, rfl, hMem⟩ | ⟨n, hUnit⟩
      · exact .short b c t r hMem (ih h)
      · exact .unit n s t r hUnit (ih h)
  | case5 => cases h
  | case6 b s hQuote hBackslash hControl ih =>
      exact .raw b s r ⟨UInt8.not_lt.1 hControl, hQuote, hBackslash⟩ (ih h)

theorem skipString_escape {s t : Bytes} (h : skipEscape s = .ok t) :
    skipString (92 :: s) = skipString t := by
  rw [skipString, if_neg (by decide), if_pos rfl]
  split
  · rename_i hRead
    rw [h] at hRead
    cases hRead
  · rename_i hRead
    rw [h] at hRead
    cases hRead
    rfl

/-- A string is skipped exactly if its syntax is right. -/
theorem skipString_eq_ok_iff {s r : Bytes} : skipString s = .ok r ↔ Unchecked s r := by
  refine ⟨skipString_sound, fun h => ?_⟩
  induction h with
  | close r => rw [skipString, if_pos rfl]
  | raw b s r hPlain _ ih =>
      obtain ⟨hControl, hQuote, hBackslash⟩ := hPlain
      rw [skipString, if_neg hQuote, if_neg hBackslash, if_neg (UInt8.not_lt.2 hControl), ih]
  | short b c s r hMem _ ih => rw [skipString_escape (skipEscape_short hMem s), ih]
  | unit n s t r hUnit _ ih => rw [skipString_escape (skipEscape_unit hUnit), ih]

theorem Unchecked.raw_append {s r front : Bytes} (h : Unchecked s r)
    (hPlain : ∀ b ∈ front, Plain b) : Unchecked (front ++ s) r := by
  induction front with
  | nil => exact h
  | cons b front ih =>
      obtain ⟨hFirst, hLater⟩ := List.forall_mem_cons.1 hPlain
      exact .raw b _ r hFirst (ih hLater)

/-- Every text passes where strings are not decoded. -/
theorem Quoted.unchecked {cs : List Char} {s r : Bytes} (h : Quoted s cs r) : Unchecked s r := by
  induction h with
  | close r => exact .close r
  | raw c s r cs hControl hQuote hBackslash _ ih =>
      exact ih.raw_append ((plain_utf8EncodeChar_iff c).2 ⟨hControl, hQuote, hBackslash⟩)
  | escape c s t r cs hEscape _ ih =>
      cases hEscape with
      | short b _ _ hMem => exact .short b c t r hMem ih
      | unit _ _ _ hUnit => exact .unit c.toNat s t r hUnit ih
      | pair _ u _ high low _ _ _ hFirst hSecond _ =>
          exact .unit high s _ r hFirst (.unit low u t r hSecond ih)

end JobLog.Json
