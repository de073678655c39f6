import JobLog.Proofs.Json.Readers

/-!
# Choices between names

A choice is written as one of its names, or as an object with the name as its only key and `null`
as the value of it. The reader of a choice accepts exactly these two forms (`reads_choice`).
-/

namespace JobLog.Json

variable {α : Type} {choices : List (String × α)} {s r : Bytes} {a : α}

/-! ## `null` -/

/-- `null`, where there is nothing to say. -/
inductive Nothing : Bytes → Unit → Bytes → Prop where
  | null (r : Bytes) : Nothing (Text.encode "null" ++ r) () r

/-- The reader of `null` takes that word and no other. -/
theorem reads_nothing (expected : String) : Reads (nothing expected) Nothing where
  sound {s r a} hRead := by
    change readNothing expected s = .ok (a, r) at hRead
    unfold readNothing at hRead
    split at hRead
    · cases hRead
    · rename_i b t hSkip
      obtain ⟨hSpace, -⟩ := skipSpace_eq_cons_iff.1 hSkip
      split at hRead
      · rename_i hNull
        obtain ⟨-, rfl⟩ := readWord_eq_ok_iff.1 hRead
        exact ⟨_, hSpace, hNull ▸ .null r⟩
      · exact absurd hRead mismatch_ne_ok
  complete {s t r a} hSpace hForm _ := by
    show readNothing expected s = .ok (a, r)
    cases hForm with
    | null =>
        have hRead : readWord () (word nullTail (nullTail ++ r)) = .ok ((), r) :=
          readWord_eq_ok_iff.2 ⟨rfl, rfl⟩
        rw [readNothing, Space.skipSpace_cons (b := 110) (t := nullTail ++ r) hSpace]
        exact hRead
  loose hForm := by
    cases hForm with
    | null => exact .null _

/-! ## Names -/

/-- A name that chooses a value, alone or as the only key of an object with `null`. -/
inductive Chosen (choices : List (String × α)) : Bytes → α → Bytes → Prop where
  | name (s r : Bytes) (name : String) (a : α) (hName : Textual s name r)
      (hChoice : choices.lookup name = some a) : Chosen choices s a r
  | object (s key colon space value close r : Bytes) (name : String) (a : α)
      (hOpen : Space s key) (hKey : Textual key name colon) (hColon : Space colon (58 :: space))
      (hSpace : Space space value) (hValue : Nothing value () close)
      (hClose : Space close (125 :: r)) (hChoice : choices.lookup name = some a) :
      Chosen choices (123 :: s) a r

/-- A name chooses the value that the list gives it. -/
theorem choose_eq_ok_iff {read : Except Failure (String × Bytes)} :
    choose choices read = .ok (a, r) ↔
      ∃ name, read = .ok (name, r) ∧ choices.lookup name = some a := by
  cases read with
  | error e => exact ⟨nofun, nofun⟩
  | ok found =>
      obtain ⟨name, t⟩ := found
      rw [choose]
      constructor
      · intro h
        split at h
        · rename_i hLookup
          cases h
          exact ⟨name, rfl, hLookup⟩
        · cases h
      · rintro ⟨_, ⟨⟩, hLookup⟩
        simp only [hLookup]

/-- After the name of a choice in an object there is a colon, `null` and the closing bracket. -/
theorem closeChoice_eq_ok_iff :
    closeChoice s = .ok r ↔ ∃ space value close, Space s (58 :: space) ∧ Space space value ∧
      Nothing value () close ∧ Space close (125 :: r) := by
  constructor
  · intro h
    unfold closeChoice at h
    split at h
    · cases h
    · rename_i space hColon
      split at h
      · cases h
      · rename_i close hNull
        obtain ⟨value, hSpace, hValue⟩ := (reads_nothing "unit").sound hNull
        split at h
        · cases h
        · rename_i b t hSkip
          split at h
          · rename_i hByte
            cases h
            obtain ⟨hClose, -⟩ := skipSpace_eq_cons_iff.1 hSkip
            exact ⟨space, value, close, colon_eq_ok_iff.1 hColon, hSpace, hValue, hByte ▸ hClose⟩
          · cases h
  · rintro ⟨space, value, close, hColon, hSpace, hValue, hClose⟩
    have hEnds : Ends close := .byte 125 close r hClose (.inr (.inr rfl))
    have hNull := (reads_nothing "unit").complete hSpace hValue hEnds
    simp only [closeChoice, colon_eq_ok_iff.2 hColon, hNull, hClose.skipSpace_cons, if_true]

theorem Textual.string_eq {t : String} (h : Textual s t r) :
    ∃ u, s = 34 :: u ∧ string u = .ok (t, r) := by
  cases h with
  | text u _ _ hText => exact ⟨u, rfl, string_eq_ok_iff.2 hText⟩

/-- Both ways to write a choice are values. -/
theorem Chosen.loose (h : Chosen choices s a r) : Loose s r := by
  cases h with
  | name _ _ name _ hName => exact (reads_text "").loose hName
  | object s key colon space value close _ name _ hOpen hKey hColon hSpace hValue hClose =>
      cases hKey with
      | text u _ _ hText =>
          have hLabel : Label .object s space :=
            .object s u colon space hOpen hText.unchecked hColon
          exact .bracket .object s r (.item .object true s s space value close r (.first s) hLabel
            hSpace ((reads_nothing "").loose hValue) (.close .object false close r hClose))

/-- The reader of a choice accepts its names, and objects that stand for them. -/
theorem reads_choice (choices : List (String × α)) : Reads (choice choices) (Chosen choices) where
  sound {s r a} hRead := by
    change readChoice choices s = .ok (a, r) at hRead
    unfold readChoice at hRead
    split at hRead
    · cases hRead
    · rename_i b t hSkip
      obtain ⟨hSpace, -⟩ := skipSpace_eq_cons_iff.1 hSkip
      split at hRead
      · rename_i hQuote
        obtain ⟨name, hName, hChoice⟩ := choose_eq_ok_iff.1 hRead
        have hText : Textual (34 :: t) name r := .text t r name (string_eq_ok_iff.1 hName)
        exact ⟨b :: t, hSpace, .name _ r name a (hQuote ▸ hText) hChoice⟩
      · split at hRead
        · rename_i hBrace
          split at hRead
          · cases hRead
          · rename_i found colon hChoose
            split at hRead
            · cases hRead
            · rename_i rest hClose
              cases hRead
              obtain ⟨name, hName, hChoice⟩ := choose_eq_ok_iff.1 hChoose
              obtain ⟨key, hOpen, hKey⟩ := (reads_text "variant identifier").sound hName
              obtain ⟨space, value, close, hColon, hSpace', hValue, hEnd⟩ :=
                closeChoice_eq_ok_iff.1 hClose
              have hForm : Chosen choices (123 :: t) a r :=
                .object t key colon space value close r name a hOpen hKey hColon hSpace' hValue hEnd
                  hChoice
              exact ⟨b :: t, hSpace, hBrace ▸ hForm⟩
        · cases hRead
  complete {s t r a} hSpace hForm _ := by
    show readChoice choices s = .ok (a, r)
    cases hForm with
    | name _ _ name _ hName hChoice =>
        obtain ⟨u, rfl, hString⟩ := hName.string_eq
        rw [readChoice, hSpace.skipSpace_cons]
        exact choose_eq_ok_iff.2 ⟨name, hString, hChoice⟩
    | object u key colon space value close _ name _ hOpen hKey hColon hSpace' hValue hClose hChoice =>
        obtain ⟨v, rfl, hString⟩ := hKey.string_eq
        have hName : readText "variant identifier" u = .ok (name, colon) := by
          rw [readText, hOpen.skipSpace_cons]
          exact hString
        have hChoose : choose choices (readText "variant identifier" u) = .ok (a, colon) :=
          choose_eq_ok_iff.2 ⟨name, hName, hChoice⟩
        have hEnd : closeChoice colon = .ok r :=
          closeChoice_eq_ok_iff.2 ⟨space, value, close, hColon, hSpace', hValue, hClose⟩
        have hQuote : (123 : UInt8) ≠ 34 := by decide
        rw [readChoice, hSpace.skipSpace_cons]
        simp only [if_neg hQuote, if_true, hChoose, hEnd]
  loose hForm := hForm.loose

end JobLog.Json
