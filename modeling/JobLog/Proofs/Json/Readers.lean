import JobLog.Proofs.Json.Skipping

/-!
# Readers and their forms

`Reads reader form` says that a reader accepts exactly the values of a form, after any white space.
What it accepts is a value of the grammar of any kind, and where it is complete nothing but the end
of a value may follow. The readers of scalars have their forms here: integers of a range, strings,
`true` and `false`, and what may also be `null`.
-/

namespace JobLog.Json

/-- A reader accepts the values of a form and nothing else. -/
structure Reads {α : Type} (reader : Reader α) (form : Bytes → α → Bytes → Prop) : Prop where
  sound : ∀ {s r : Bytes} {a : α}, reader.read s = .ok (a, r) → ∃ t, Space s t ∧ form t a r
  complete : ∀ {s t r : Bytes} {a : α}, Space s t → form t a r → Ends r →
    reader.read s = .ok (a, r)
  loose : ∀ {s r : Bytes} {a : α}, form s a r → Loose s r

variable {α β : Type} {reader : Reader α} {form : Bytes → α → Bytes → Prop}

/-- A mapped reader takes what the reader takes. -/
theorem Reader.map_read_eq_ok_iff {f : α → β} {s r : Bytes} {b : β} :
    (reader.map f).read s = .ok (b, r) ↔ ∃ a, reader.read s = .ok (a, r) ∧ f a = b := by
  rw [Reader.map]
  dsimp only
  cases reader.read s with
  | error e => simp
  | ok p =>
      obtain ⟨a, u⟩ := p
      simp only [Except.ok.injEq, Prod.mk.injEq]
      constructor
      · rintro ⟨rfl, rfl⟩
        exact ⟨a, ⟨rfl, rfl⟩, rfl⟩
      · rintro ⟨_, ⟨rfl, rfl⟩, rfl⟩
        exact ⟨rfl, rfl⟩

/-- The values of a mapped reader are those of the form it reads, mapped. -/
theorem Reads.map (h : Reads reader form) (f : α → β) :
    Reads (reader.map f) fun s b r => ∃ a, form s a r ∧ f a = b where
  sound hRead := by
    obtain ⟨a, hRead', rfl⟩ := Reader.map_read_eq_ok_iff.1 hRead
    obtain ⟨t, hSpace, hForm⟩ := h.sound hRead'
    exact ⟨t, hSpace, a, hForm, rfl⟩
  complete hSpace hForm hEnds := by
    obtain ⟨a, hForm', rfl⟩ := hForm
    exact Reader.map_read_eq_ok_iff.2 ⟨a, h.complete hSpace hForm' hEnds, rfl⟩
  loose hForm := by
    obtain ⟨a, hForm', -⟩ := hForm
    exact h.loose hForm'

/-- A whole text is decoded if it is one value with nothing but white space around it. -/
theorem Reads.decode_eq_ok_iff (h : Reads reader form) {input : Bytes} {a : α} :
    decode reader input = .ok a ↔ ∃ s r, Space input s ∧ form s a r ∧ Space r [] := by
  unfold decode
  constructor
  · intro hDecode
    split at hDecode
    · cases hDecode
    · rename_i b r hRead
      obtain ⟨s, hSpace, hForm⟩ := h.sound hRead
      unfold finish at hDecode
      split at hDecode
      · rename_i hEnd
        cases hDecode
        exact ⟨s, r, hSpace, hForm, skipSpace_eq_nil_iff.1 hEnd⟩
      · cases hDecode
  · rintro ⟨s, r, hSpace, hForm, hEnd⟩
    have hFinish : finish a r = .ok a := by
      rw [finish, skipSpace_eq_nil_iff.2 hEnd]
    simp only [h.complete hSpace hForm (.done r hEnd), hFinish]
    rfl

/-! ## Integers -/

/-- An integer is a value of JSON. -/
theorem Integer.loose {s r : Bytes} {v : Int} (h : Integer s v r) : Loose s r := by
  cases h with
  | positive ds _ hWhole =>
      exact .number _ r (.number [] ds [] [] r (.inl rfl) hWhole .none .none)
  | negative ds _ hWhole =>
      exact .number _ r (.number [45] ds [] [] r (.inr rfl) hWhole .none .none)

/-- The reader of a range reads the integers of the range, if they fit the words that numerals are
read into. -/
theorem reads_integer (range : IntegerRange) (hLow : Int64.minValue.toInt ≤ range.low)
    (hHigh : range.high < UInt64.size) :
    Reads (integer range) fun s v r => Integer s v r ∧ range.low ≤ v ∧ v ≤ range.high where
  sound hRead := by
    obtain ⟨hRange, t, hSpace, hForm⟩ := IntegerRange.read_sound hRead
    exact ⟨t, hSpace, hForm, hRange⟩
  complete hSpace hForm hEnds :=
    IntegerRange.read_complete hSpace hForm.1 hEnds hForm.2 hLow hHigh
  loose hForm := hForm.1.loose

/-! ## Words -/

/-- A word is read if it stands there. -/
theorem readWord_eq_ok_iff {a b : α} {cs s r : Bytes} :
    readWord a (word cs s) = .ok (b, r) ↔ b = a ∧ s = cs ++ r := by
  rw [← word_eq_ok_iff]
  unfold readWord
  cases word cs s with
  | error e => simp
  | ok u => simp [eq_comm]

/-- The reader of truth values reads two words. -/
theorem reads_flag : Reads flag Truth where
  sound {s r a} hRead := by
    change readFlag s = .ok (a, r) at hRead
    unfold readFlag at hRead
    split at hRead
    · cases hRead
    · rename_i b t hSkip
      obtain ⟨hSpace, -⟩ := skipSpace_eq_cons_iff.1 hSkip
      split at hRead
      · rename_i hTrue
        obtain ⟨rfl, rfl⟩ := readWord_eq_ok_iff.1 hRead
        exact ⟨_, hSpace, hTrue ▸ .true r⟩
      · split at hRead
        · rename_i hFalse
          obtain ⟨rfl, rfl⟩ := readWord_eq_ok_iff.1 hRead
          exact ⟨_, hSpace, hFalse ▸ .false r⟩
        · exact absurd hRead mismatch_ne_ok
  complete {s t r a} hSpace hForm _ := by
    show readFlag s = .ok (a, r)
    cases hForm with
    | true =>
        have hRead : readWord true (word trueTail (trueTail ++ r)) = .ok (true, r) :=
          readWord_eq_ok_iff.2 ⟨rfl, rfl⟩
        rw [readFlag, Space.skipSpace_cons (b := 116) (t := trueTail ++ r) hSpace]
        exact hRead
    | false =>
        have hRead : readWord false (word falseTail (falseTail ++ r)) = .ok (false, r) :=
          readWord_eq_ok_iff.2 ⟨rfl, rfl⟩
        rw [readFlag, Space.skipSpace_cons (b := 102) (t := falseTail ++ r) hSpace]
        exact hRead
  loose hForm := by
    cases hForm with
    | true => exact .true _
    | false => exact .false _

/-! ## Strings -/

/-- The reader of strings returns the text that a string writes. -/
theorem reads_text (expected : String) : Reads (text expected) Textual where
  sound {s r a} hRead := by
    change readText expected s = .ok (a, r) at hRead
    unfold readText at hRead
    split at hRead
    · cases hRead
    · rename_i b t hSkip
      obtain ⟨hSpace, -⟩ := skipSpace_eq_cons_iff.1 hSkip
      split at hRead
      · rename_i hQuote
        exact ⟨_, hSpace, hQuote ▸ .text t r a (string_eq_ok_iff.1 hRead)⟩
      · exact absurd hRead mismatch_ne_ok
  complete {s t r a} hSpace hForm _ := by
    show readText expected s = .ok (a, r)
    cases hForm with
    | text u _ _ hText =>
        rw [readText, hSpace.skipSpace_cons]
        exact string_eq_ok_iff.2 hText
  loose hForm := by
    cases hForm with
    | text u _ _ hText => exact .text u _ hText.unchecked

/-! ## What may be `null` -/

/-- A form that never starts with the first letter of `null` can be read beside it. -/
theorem reads_nullable (h : Reads reader form)
    (hNotNull : ∀ {s r : Bytes} {a : α}, form (110 :: s) a r → False) :
    Reads (nullable reader) (Nullable form) where
  sound {s r a} hRead := by
    have hValue {s r : Bytes} {a : Option α} (hRead : (reader.map some).read s = .ok (a, r)) :
        ∃ t, Space s t ∧ Nullable form t a r := by
      obtain ⟨t, hSpace, v, hForm, rfl⟩ := (h.map some).sound hRead
      exact ⟨t, hSpace, .value t r v hForm⟩
    change readNullable reader s = .ok (a, r) at hRead
    unfold readNullable at hRead
    split at hRead
    · exact hValue hRead
    · rename_i b t hSkip
      obtain ⟨hSpace, -⟩ := skipSpace_eq_cons_iff.1 hSkip
      split at hRead
      · rename_i hNull
        obtain ⟨rfl, rfl⟩ := readWord_eq_ok_iff.1 hRead
        exact ⟨_, hSpace, hNull ▸ .null r⟩
      · exact hValue hRead
  complete {s t r a} hSpace hForm hEnds := by
    show readNullable reader s = .ok (a, r)
    cases hForm with
    | null =>
        have hRead : readWord (none : Option α) (word nullTail (nullTail ++ r)) = .ok (none, r) :=
          readWord_eq_ok_iff.2 ⟨rfl, rfl⟩
        rw [readNullable, Space.skipSpace_cons (b := 110) (t := nullTail ++ r) hSpace]
        exact hRead
    | value _ _ v hValue =>
        have hRead : (reader.map some).read s = .ok (some v, r) :=
          (h.map some).complete hSpace ⟨v, hValue, rfl⟩ hEnds
        obtain ⟨b, u, rfl, hStarts⟩ := (h.loose hValue).starts
        have hByte : b ≠ 110 := by
          rintro rfl
          exact hNotNull hValue
        rw [readNullable, hSpace.skipSpace_cons hStarts.not_blank]
        show (if b = 110 then _ else (reader.map some).read s) = _
        rw [if_neg hByte, hRead]
  loose hForm := by
    cases hForm with
    | null => exact .null _
    | value _ _ _ hValue => exact h.loose hValue

theorem reads_nullable_text (expected : String) :
    Reads (nullable (text expected)) (Nullable Textual) := by
  apply reads_nullable (reads_text expected)
  intro s r t h
  cases h

end JobLog.Json
