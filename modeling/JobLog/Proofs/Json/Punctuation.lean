import JobLog.Json.Record
import JobLog.Proofs.Json.Grammar

/-!
# White space and punctuation

What the readers see of the input is what follows its white space (`skipSpace_eq_cons_iff`). Colons,
commas and closing brackets are then read exactly where the grammar has them. `Ends` is what can
follow a value; a numeral stops there.
-/

namespace JobLog.Json

theorem map_eq_ok {ε α β : Type} {f : α → β} {e : Except ε α} {b : β} (h : e.map f = .ok b) :
    ∃ a, e = .ok a ∧ f a = b := by
  cases e with
  | error _ => cases h
  | ok a =>
      cases h
      exact ⟨a, rfl, rfl⟩

/-! ## White space -/

/-- The test of the reader is the class of the grammar. -/
theorem isSpace_iff {b : UInt8} : isSpace b = true ↔ Blank b := by
  simp [isSpace, Blank, or_assoc]

theorem Space.trans {s t r : Bytes} (h : Space s t) (hNext : Space t r) : Space s r := by
  induction h with
  | none => exact hNext
  | blank b s r hBlank _ ih => exact .blank b s _ hBlank (ih hNext)

/-- White space makes no difference to what is found after it. -/
theorem Space.skipSpace_eq {s r : Bytes} (h : Space s r) : skipSpace s = skipSpace r := by
  induction h with
  | none => rfl
  | blank b s r hBlank _ ih =>
      rw [← ih]
      exact List.dropWhile_cons_of_pos (isSpace_iff.2 hBlank)

theorem skipSpace_cons {b : UInt8} (h : ¬ Blank b) (s : Bytes) : skipSpace (b :: s) = b :: s :=
  List.dropWhile_cons_of_neg (mt isSpace_iff.1 h)

/-- What is skipped is white space. -/
theorem space_skipSpace (s : Bytes) : Space s (skipSpace s) := by
  induction s with
  | nil => exact .none []
  | cons b s ih =>
      by_cases hBlank : Blank b
      · have hSkip : skipSpace (b :: s) = skipSpace s :=
          (Space.blank b s s hBlank (.none s)).skipSpace_eq
        rw [hSkip]
        exact .blank b s _ hBlank ih
      · rw [skipSpace_cons hBlank]
        exact .none _

/-- All white space is skipped. -/
theorem not_blank_of_skipSpace {s t : Bytes} {b : UInt8} (h : skipSpace s = b :: t) :
    ¬ Blank b := by
  have hHead := List.head?_dropWhile_not isSpace s
  rw [← skipSpace, h] at hHead
  rw [← isSpace_iff]
  simpa using hHead

/-- A byte is found after white space if and only if it is none itself and only white space stands
before it. -/
theorem skipSpace_eq_cons_iff {s t : Bytes} {b : UInt8} :
    skipSpace s = b :: t ↔ Space s (b :: t) ∧ ¬ Blank b := by
  constructor
  · intro h
    exact ⟨h ▸ space_skipSpace s, not_blank_of_skipSpace h⟩
  · rintro ⟨hSpace, hBlank⟩
    rw [hSpace.skipSpace_eq, skipSpace_cons hBlank]

/-- Nothing is found if and only if there is only white space. -/
theorem skipSpace_eq_nil_iff {s : Bytes} : skipSpace s = [] ↔ Space s [] := by
  constructor
  · intro h
    exact h ▸ space_skipSpace s
  · intro h
    rw [h.skipSpace_eq]
    rfl

/-- What follows white space and a byte that is none of it, as the readers see it. -/
theorem Space.skipSpace_cons {s t : Bytes} {b : UInt8} (h : Space s (b :: t))
    (hBlank : ¬ Blank b := by decide) : skipSpace s = b :: t :=
  skipSpace_eq_cons_iff.2 ⟨h, hBlank⟩

/-! ## Colons, commas and brackets -/

theorem colon_eq_ok_iff {s r : Bytes} : colon s = .ok r ↔ Space s (58 :: r) := by
  unfold colon
  constructor
  · intro h
    split at h
    · cases h
    · rename_i b t hSkip
      split at h
      · rename_i hColon
        cases h
        exact (skipSpace_eq_cons_iff.1 (hColon ▸ hSkip)).1
      · cases h
  · intro h
    rw [h.skipSpace_cons]
    rfl

theorem closeList_eq_ok_iff {s r : Bytes} : closeList s = .ok r ↔ Space s (93 :: r) := by
  unfold closeList
  constructor
  · intro h
    split at h
    · cases h
    · rename_i b t hSkip
      split at h
      · rename_i hClose
        cases h
        exact (skipSpace_eq_cons_iff.1 (hClose ▸ hSkip)).1
      · repeat' split at h
        all_goals cases h
  · intro h
    rw [h.skipSpace_cons]
    rfl

/-- A list is closed, or an element follows, which does not start with its closing bracket. -/
theorem nextElement_sound {first more : Bool} {s r : Bytes}
    (h : nextElement first s = .ok (more, r)) :
    if more then ∃ t b u, Comma first s t ∧ Space t r ∧ r = b :: u ∧ ¬ Blank b ∧ b ≠ 93
    else ∃ t, Space s r ∧ r = 93 :: t := by
  unfold nextElement at h
  split at h
  · cases h
  · rename_i b t hSkip
    obtain ⟨hSpace, hBlank⟩ := skipSpace_eq_cons_iff.1 hSkip
    split at h
    · rename_i hClose
      cases h
      exact ⟨t, hSpace, by rw [hClose]⟩
    · rename_i hClose
      split at h
      · rename_i hFirst
        -- The first element needs no comma; whether it starts with one is not asked here.
        cases h
        rw [hFirst]
        exact ⟨s, b, t, .first s, hSpace, rfl, hBlank, hClose⟩
      · rename_i hFirst
        split at h
        · rename_i hComma
          split at h
          · cases h
          · rename_i c u hNext
            obtain ⟨hSpace', hBlank'⟩ := skipSpace_eq_cons_iff.1 hNext
            split at h
            · cases h
            · rename_i hClose'
              cases h
              rw [Bool.eq_false_iff.2 hFirst]
              exact ⟨t, c, u, .next s t (hComma ▸ hSpace), hSpace', rfl, hBlank', hClose'⟩
        · cases h

/-- The bracket that closes a list ends its elements, after a comma or not. -/
theorem nextElement_close (first : Bool) {s t : Bytes} (h : Space s (93 :: t)) :
    nextElement first s = .ok (false, 93 :: t) := by
  rw [nextElement, h.skipSpace_cons]
  rfl

/-- An element is found after the comma that it needs. -/
theorem nextElement_item {first : Bool} {s t u : Bytes} {b : UInt8} (hComma : Comma first s t)
    (hSpace : Space t (b :: u)) (hBlank : ¬ Blank b) (hClose : b ≠ 93) :
    nextElement first s = .ok (true, b :: u) := by
  cases hComma with
  | first =>
      rw [nextElement, hSpace.skipSpace_cons hBlank]
      simp only [if_neg hClose, if_true]
  | next _ _ hNext =>
      have hNotClose : (44 : UInt8) ≠ 93 := by decide
      simp only [nextElement, hNext.skipSpace_cons, hSpace.skipSpace_cons hBlank, if_neg hNotClose,
        if_neg hClose, if_true, Bool.false_eq_true, if_false]

/-- An object is closed, or a key follows. -/
theorem nextMember_sound {first more : Bool} {s r : Bytes}
    (h : nextMember first s = .ok (more, r)) :
    if more then ∃ t, Comma first s t ∧ Space t (34 :: r) else Space s (125 :: r) := by
  unfold nextMember at h
  split at h
  · cases h
  · rename_i b t hSkip
    obtain ⟨hSpace, -⟩ := skipSpace_eq_cons_iff.1 hSkip
    split at h
    · rename_i hClose
      cases h
      exact hClose ▸ hSpace
    · split at h
      · rename_i hFirst
        split at h
        · rename_i hQuote
          cases h
          rw [hFirst]
          exact ⟨s, .first s, hQuote ▸ hSpace⟩
        · cases h
      · rename_i hFirst
        split at h
        · rename_i hComma
          split at h
          · cases h
          · rename_i c u hNext
            obtain ⟨hSpace', -⟩ := skipSpace_eq_cons_iff.1 hNext
            split at h
            · rename_i hQuote
              cases h
              rw [Bool.eq_false_iff.2 hFirst]
              exact ⟨t, .next s t (hComma ▸ hSpace), hQuote ▸ hSpace'⟩
            · cases h
        · cases h

/-- The bracket that closes an object ends its members. -/
theorem nextMember_close (first : Bool) {s r : Bytes} (h : Space s (125 :: r)) :
    nextMember first s = .ok (false, r) := by
  rw [nextMember, h.skipSpace_cons]
  rfl

/-- A key is found after the comma that it needs. -/
theorem nextMember_item {first : Bool} {s t r : Bytes} (hComma : Comma first s t)
    (hSpace : Space t (34 :: r)) : nextMember first s = .ok (true, r) := by
  cases hComma with
  | first =>
      rw [nextMember, hSpace.skipSpace_cons]
      rfl
  | next _ _ hNext =>
      have hNotClose : (44 : UInt8) ≠ 125 := by decide
      simp only [nextMember, hNext.skipSpace_cons, hSpace.skipSpace_cons, if_neg hNotClose,
        if_true, Bool.false_eq_true, if_false]

/-! ## What follows a value -/

/-- After white space the input ends, or a comma or a closing bracket is next. -/
inductive Ends : Bytes → Prop where
  | done (r : Bytes) (hSpace : Space r []) : Ends r
  | byte (b : UInt8) (r t : Bytes) (hSpace : Space r (b :: t)) (hByte : b = 44 ∨ b = 93 ∨ b = 125) :
      Ends r

/-- A comma ends the value before it. -/
theorem Comma.ends {s t : Bytes} (h : Comma false s t) : Ends s := by
  cases h with
  | next _ _ hSpace => exact .byte 44 s t hSpace (.inl rfl)

/-- Where a value ends there is no byte that could belong to it. -/
theorem Ends.head {r : Bytes} (h : Ends r) :
    r = [] ∨ ∃ b t, r = b :: t ∧ (Blank b ∨ b = 44 ∨ b = 93 ∨ b = 125) := by
  cases h with
  | done _ hSpace =>
      cases hSpace with
      | none => exact .inl rfl
      | blank c s _ hBlank _ => exact .inr ⟨c, s, rfl, .inl hBlank⟩
  | byte b _ t hSpace hByte =>
      cases hSpace with
      | none => exact .inr ⟨b, t, rfl, .inr hByte⟩
      | blank c s _ hBlank _ => exact .inr ⟨c, s, rfl, .inl hBlank⟩

end JobLog.Json
