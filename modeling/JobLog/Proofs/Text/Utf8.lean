import JobLog.Text.Utf8

/-!
# The bytes of characters

The bytes of a text are those of its characters in their order, and `decode?` accepts nothing else
(`decode?_eq_some_iff`). The characters are found again in their bytes without looking ahead: the
bytes of one character never begin those of another (`utf8EncodeChar_append_inj`), and only the
first byte of a character can begin one (`utf8EncodeChar_eq_cons`).
-/

namespace JobLog.Text

open String (utf8EncodeChar)

theorem encode_eq (t : String) : encode t = t.toList.flatMap utf8EncodeChar := by
  have h := String.utf8Encode_toList (b := t)
  rw [List.utf8Encode] at h
  rw [encode, String.toUTF8_eq_toByteArray, ← h, List.toList_data_toByteArray]

/-- Bytes decode to a text exactly if they are the bytes of the text. -/
theorem decode?_eq_some_iff {bytes : List UInt8} {t : String} :
    decode? bytes = some t ↔ bytes = t.toList.flatMap utf8EncodeChar := by
  rw [← encode_eq, decode?, String.fromUTF8?]
  constructor
  · intro h
    split at h
    · cases h
      rfl
    · cases h
  · rintro rfl
    have hValid : (⟨(encode t).toArray⟩ : ByteArray).IsValidUTF8 := by
      simpa [encode] using t.isValidUTF8
    rw [dif_pos hValid]
    rfl

theorem utf8EncodeChar_append_inj {c d : Char} {s t : List UInt8}
    (h : utf8EncodeChar c ++ s = utf8EncodeChar d ++ t) : c = d ∧ s = t := by
  have hChars : c = d := by
    have hc := ByteArray.utf8DecodeChar?_utf8EncodeChar_append (b := s.toByteArray) (c := c)
    have hd := ByteArray.utf8DecodeChar?_utf8EncodeChar_append (b := t.toByteArray) (c := d)
    rw [← List.toByteArray_append, h, List.toByteArray_append, hd] at hc
    exact (Option.some.inj hc).symm
  subst hChars
  exact ⟨rfl, List.append_cancel_left h⟩

/-- A character has a first byte, and none of its other bytes can be one. -/
theorem utf8EncodeChar_eq_cons (c : Char) :
    ∃ b tail, utf8EncodeChar c = b :: tail ∧ b.IsUTF8FirstByte ∧
      ∀ k ∈ tail, ¬ k.IsUTF8FirstByte := by
  cases hc : utf8EncodeChar c with
  | nil => exact absurd hc String.utf8EncodeChar_ne_nil
  | cons b tail =>
    have hFirst (i : Nat) (hi : i < (b :: tail).length) :
        (b :: tail)[i].IsUTF8FirstByte ↔ i = 0 := by
      have hLength : i < (utf8EncodeChar c).length := hc ▸ hi
      have h : (utf8EncodeChar c)[i].IsUTF8FirstByte ↔ i = 0 :=
        UInt8.isUTF8FirstByte_getElem_utf8EncodeChar
      simpa only [hc] using h
    refine ⟨b, tail, rfl, (hFirst 0 (by simp)).2 rfl, fun k hk => ?_⟩
    obtain ⟨i, hi, rfl⟩ := List.getElem_of_mem hk
    have h := hFirst (i + 1) (by simpa using hi)
    simpa using h

/-! ## Bytes below and above 128 -/

theorem utf8EncodeChar_of_lt {c : Char} (h : c.toNat < 128) :
    utf8EncodeChar c = [UInt8.ofNat c.toNat] := by
  have hSize : c.utf8Size = 1 := by
    rw [Char.utf8Size_eq_one_iff, UInt32.le_iff_toNat_le]
    exact Nat.le_of_lt_succ h
  rw [String.utf8EncodeChar_eq_singleton hSize]
  rfl

/-- A byte with its high bit set stays so. -/
theorem high_or (x mask : UInt8) (h : 128 ≤ mask) : 128 ≤ x ||| mask := by
  rw [UInt8.le_iff_toNat_le] at *
  rw [UInt8.toNat_or]
  exact Nat.le_trans h Nat.right_le_or

theorem le_of_mem_utf8EncodeChar {c : Char} {b : UInt8} (h : 128 ≤ c.toNat)
    (hb : b ∈ utf8EncodeChar c) : 128 ≤ b := by
  have hSize : c.utf8Size ≠ 1 := by
    rw [Ne, Char.utf8Size_eq_one_iff, UInt32.le_iff_toNat_le]
    exact Nat.not_le_of_lt h
  have hPos := c.utf8Size_pos
  have hLe := c.utf8Size_le_four
  obtain hTwo | hThree | hFour : c.utf8Size = 2 ∨ c.utf8Size = 3 ∨ c.utf8Size = 4 := by omega
  · rw [String.utf8EncodeChar_eq_cons_cons hTwo] at hb
    simp only [List.mem_cons, List.not_mem_nil, or_false] at hb
    rcases hb with rfl | rfl <;> exact high_or _ _ (by decide)
  · rw [String.utf8EncodeChar_eq_cons_cons_cons hThree] at hb
    simp only [List.mem_cons, List.not_mem_nil, or_false] at hb
    rcases hb with rfl | rfl | rfl <;> exact high_or _ _ (by decide)
  · rw [String.utf8EncodeChar_eq_cons_cons_cons_cons hFour] at hb
    simp only [List.mem_cons, List.not_mem_nil, or_false] at hb
    rcases hb with rfl | rfl | rfl | rfl <;> exact high_or _ _ (by decide)

end JobLog.Text
