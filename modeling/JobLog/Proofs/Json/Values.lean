import JobLog.Json.Value
import JobLog.Proofs.Json.Records

/-!
# Values that are read

`Written depth` is the form of the values that a reader of any value returns as they are written:
`null`, `true`, `false`, integers of up to 64 bits, texts, lists and objects, with less than `depth`
brackets inside each other. Lists keep the order of their elements and objects that of their
members. `Written.read_eq` says that the reader returns exactly what is written.
-/

namespace JobLog.Json

variable {α : Type} {reader : Reader α} {form : Bytes → α → Bytes → Prop}

/-- An element of a list, after white space. -/
inductive Spaced (form : Bytes → α → Bytes → Prop) : Bytes → α → Bytes → Prop where
  | value (s value r : Bytes) (a : α) (hSpace : Space s value) (hValue : form value a r) :
      Spaced form s a r

/-- A member of an object with its key. -/
inductive Keyed (form : Bytes → α → Bytes → Prop) : Bytes → String × α → Bytes → Prop where
  | member (s keyStart colon space value r : Bytes) (key : String) (a : α)
      (hOpen : Space s keyStart) (hKey : Textual keyStart key colon)
      (hColon : Space colon (58 :: space)) (hSpace : Space space value)
      (hValue : form value a r) : Keyed form s (key, a) r

/-! ## Lists and objects -/

theorem elements_eq (reader : Reader α) (first : Bool) (taken : List α) (s : Bytes) :
    elements reader first taken s =
      match nextElement first s with
      | .error e => .error e
      | .ok (false, r) =>
        match closeList r with
        | .error e => .error e
        | .ok r => .ok (taken.reverse, r)
      | .ok (true, r) =>
        match reader.read r with
        | .error e => .error e
        | .ok (a, r) => elements reader false (a :: taken) r := by
  rw [elements]
  split
  · rename_i hNext
    simp only [hNext]
  · rename_i hNext
    split <;> rename_i hClose <;> simp only [hNext, hClose]
  · rename_i hNext
    split <;> rename_i hRead <;> simp only [hNext, hRead]

theorem members_eq (reader : Reader α) (first : Bool) (taken : List (String × α)) (s : Bytes) :
    members reader first taken s =
      match nextMember first s with
      | .error e => .error e
      | .ok (false, r) => .ok (taken.reverse, r)
      | .ok (true, r) =>
        match string r with
        | .error e => .error e
        | .ok (key, r) =>
          match colon r with
          | .error e => .error e
          | .ok r =>
            match reader.read r with
            | .error e => .error e
            | .ok (a, r) => members reader false ((key, a) :: taken) r := by
  rw [members]
  split <;> rename_i hNext <;> simp only [hNext]
  split <;> rename_i hKey <;> simp only [hKey]
  split <;> rename_i hColon <;> simp only [hColon]
  split <;> rename_i hRead <;> simp only [hRead]

/-- A reader returns the values of a form, after any white space. -/
def Returns (reader : Reader α) (form : Bytes → α → Bytes → Prop) : Prop :=
  ∀ {s t r : Bytes} {a : α}, Space s t → form t a r → Ends r → reader.read s = .ok (a, r)

/-- The elements of a list are read to its end, in their order. -/
theorem elements_complete (hRead : Returns reader form)
    (hStarts : ∀ {t r : Bytes} {a : α}, form t a r → ∃ b u, t = b :: u ∧ Starts b)
    {first : Bool} {s r : Bytes} {as : List α} (h : Sequence (Spaced form) 93 first s as r)
    (taken : List α) : elements reader first taken s = .ok (taken.reverse ++ as, r) := by
  induction h generalizing taken with
  | close first s r hClose =>
      rw [elements_eq, nextElement_close first hClose]
      simp only [closeList_eq_ok_iff.2 (Space.none (93 :: r)), List.append_nil]
  | item first s start rest r a as hComma hItem hRest ih =>
      cases hItem with
      | value value _ _ hSpace hValue =>
          obtain ⟨b, u, rfl, hFirst⟩ := hStarts hValue
          have hNext := nextElement_item hComma hSpace hFirst.not_blank (hFirst.ne (by decide))
          have hEnds : Ends rest := hRest.ends (.inl rfl)
          rw [elements_eq, hNext]
          simp only [hRead (.none _) hValue hEnds, ih]
          simp

/-- The members of an object are read to its end, in their order. -/
theorem members_complete (hRead : Returns reader form) {first : Bool} {s r : Bytes}
    {as : List (String × α)} (h : Sequence (Keyed form) 125 first s as r)
    (taken : List (String × α)) :
    members reader first taken s = .ok (taken.reverse ++ as, r) := by
  induction h generalizing taken with
  | close first s r hClose =>
      rw [members_eq, nextMember_close first hClose]
      simp only [List.append_nil]
  | item first s start rest r member as hComma hItem hRest ih =>
      have hEnds : Ends rest := hRest.ends (.inr rfl)
      cases hItem with
      | member keyStart colon space value _ key a hOpen hKey hColon hSpace hValue =>
          cases hKey with
          | text k _ _ hText =>
              rw [members_eq, nextMember_item hComma hOpen]
              simp only [string_eq_ok_iff.2 hText, colon_eq_ok_iff.2 hColon,
                hRead hSpace hValue hEnds, ih]
              simp

/-! ## Values -/

/-- A value whose items have the form `inner`; brackets need a positive `depth`. -/
inductive Layer (depth : Nat) (inner : Bytes → Value → Bytes → Prop) :
    Bytes → Value → Bytes → Prop where
  | null (r : Bytes) : Layer depth inner (Text.encode "null" ++ r) .null r
  | flag (s r : Bytes) (b : Bool) (hFlag : Truth s b r) : Layer depth inner s (.flag b) r
  | integer (s r : Bytes) (n : Int) (hInteger : Integer s n r)
      (hLow : Int64.minValue.toInt ≤ n) (hHigh : n < UInt64.size) :
      Layer depth inner s (.integer n) r
  | text (s r : Bytes) (t : String) (hText : Textual s t r) : Layer depth inner s (.text t) r
  | list (s r : Bytes) (items : List Value) (hDepth : 0 < depth)
      (hItems : Sequence (Spaced inner) 93 true s items r) :
      Layer depth inner (91 :: s) (.list items) r
  | object (s r : Bytes) (members : List (String × Value)) (hDepth : 0 < depth)
      (hMembers : Sequence (Keyed inner) 125 true s members r) :
      Layer depth inner (123 :: s) (.object members) r

/-- A value with less than `depth` brackets inside each other. -/
def Written : Nat → Bytes → Value → Bytes → Prop
  | 0 => fun _ _ _ => False
  | depth + 1 => Layer depth (Written depth)

theorem Written.starts {depth : Nat} {s r : Bytes} {v : Value} (h : Written depth s v r) :
    ∃ b t, s = b :: t ∧ Starts b := by
  cases depth with
  | zero => exact h.elim
  | succ depth =>
      cases h with
      | null => exact ⟨110, _, rfl, .inl (.inl rfl)⟩
      | flag _ _ _ hFlag => exact (reads_flag.loose hFlag).starts
      | integer _ _ _ hInteger => exact hInteger.loose.starts
      | text _ _ _ hText => exact ((reads_text "").loose hText).starts
      | list => exact ⟨91, _, rfl, .inr (.inl rfl)⟩
      | object => exact ⟨123, _, rfl, .inr (.inr rfl)⟩

/-- A numeral in an integer form is read as this integer. -/
theorem readNumber_integer (negative : Bool) {ds r : Bytes} (hWhole : Whole ds)
    (hNonzero : negative = true → ds ≠ [48]) (hEnds : Ends r)
    (hLow : Int64.minValue.toInt ≤ withSign negative ds)
    (hHigh : withSign negative ds < UInt64.size) :
    readNumber (numeral .endInValue negative (ds ++ r)) =
      .ok (.integer (withSign negative ds), r) := by
  obtain ⟨n, hNumeral, rfl, rfl, rfl, hFraction, hExponent⟩ :=
    numeral_complete .endInValue negative hWhole .none .none hEnds
  have hValue := Numeral.value_complete (hFraction.2 rfl) (hExponent.2 rfl)
    (fun hNegative hZero => hNonzero hNegative (hWhole.decimal_eq_zero_iff.1 hZero)) hLow hHigh
  have hNumeral' : numeral .endInValue n.negative (n.whole ++ n.rest) = .ok n := hNumeral
  rw [hNumeral']
  simp only [readNumber, hValue]
  rfl

/-- The value at the front of the input is read by its first byte. -/
theorem readValue_scalar (depth : Nat) (inner : Reader Value) {s t : Bytes} {b : UInt8}
    (hSpace : Space s (b :: t)) (hScalar : Scalar b) :
    readValue depth inner s = readScalar b t := by
  have hList : b ≠ 91 := hScalar.ne (by decide)
  have hObject : b ≠ 123 := hScalar.ne (by decide)
  rw [readValue, hSpace.skipSpace_cons hScalar.not_blank]
  show (if b = 91 ∨ b = 123 then _ else _) = _
  rw [if_neg (not_or.2 ⟨hList, hObject⟩)]

theorem readValue_integer (depth : Nat) (inner : Reader Value) {s t r : Bytes} {n : Int}
    (hSpace : Space s t) (hInteger : Integer t n r) (hEnds : Ends r)
    (hLow : Int64.minValue.toInt ≤ n) (hHigh : n < UInt64.size) :
    readValue depth inner s = .ok (.integer n, r) := by
  cases hInteger with
  | negative ds _ hWhole hNonzero =>
      rw [readValue_scalar depth inner hSpace (by simp [Scalar])]
      exact readNumber_integer true hWhole (fun _ => hNonzero) hEnds hLow hHigh
  | positive ds _ hWhole =>
      obtain ⟨d, ds', rfl, hDigit⟩ := hWhole.first
      have hScalar : Scalar d := .inr (.inr (.inr (.inr (.inl hDigit))))
      have hNull : d ≠ 110 := by rintro rfl; exact absurd hDigit (by decide)
      have hTrue : d ≠ 116 := by rintro rfl; exact absurd hDigit (by decide)
      have hFalse : d ≠ 102 := by rintro rfl; exact absurd hDigit (by decide)
      rw [readValue_scalar depth inner hSpace hScalar, readScalar, if_neg hNull, if_neg hTrue,
        if_neg hFalse, if_neg hDigit.ne_minus, if_pos (isDigit_iff.2 hDigit)]
      exact readNumber_integer false hWhole nofun hEnds hLow hHigh

/-- A reader of any value returns what is written. -/
theorem Written.read_eq {depth : Nat} : Returns (anyValue depth) (Written depth) := by
  induction depth with
  | zero =>
      intro s t r v _ h
      exact h.elim
  | succ depth ih =>
      intro s t r v hSpace h hEnds
      show readValue depth (anyValue depth) s = _
      cases h with
      | null =>
          rw [readValue_scalar (b := 110) (t := nullTail ++ r) depth _ hSpace (by simp [Scalar])]
          show readWord Value.null (word nullTail (nullTail ++ r)) = _
          exact readWord_eq_ok_iff.2 ⟨rfl, rfl⟩
      | flag _ _ b hFlag =>
          cases hFlag with
          | true =>
              rw [readValue_scalar (b := 116) (t := trueTail ++ r) depth _ hSpace
                (by simp [Scalar])]
              show readWord (Value.flag true) (word trueTail (trueTail ++ r)) = _
              exact readWord_eq_ok_iff.2 ⟨rfl, rfl⟩
          | false =>
              rw [readValue_scalar (b := 102) (t := falseTail ++ r) depth _ hSpace
                (by simp [Scalar])]
              show readWord (Value.flag false) (word falseTail (falseTail ++ r)) = _
              exact readWord_eq_ok_iff.2 ⟨rfl, rfl⟩
      | integer _ _ n hInteger hLow hHigh =>
          exact readValue_integer depth _ hSpace hInteger hEnds hLow hHigh
      | text _ _ text hText =>
          cases hText with
          | text u _ _ hQuoted =>
              rw [readValue_scalar depth _ hSpace (by simp [Scalar])]
              show (match string u with | .error e => _ | .ok (s, r) => _) = _
              rw [string_eq_ok_iff.2 hQuoted]
      | list u _ items hDepth hItems =>
          rw [readValue, hSpace.skipSpace_cons]
          have hRead := elements_complete ih Written.starts hItems []
          simp [Nat.ne_of_gt hDepth, hRead]
      | object u _ items hDepth hMembers =>
          rw [readValue, hSpace.skipSpace_cons]
          have hRead := members_complete ih hMembers []
          simp [Nat.ne_of_gt hDepth, hRead]

/-- A text that is one value is read as this value. -/
theorem parse_of_written {input : Bytes} {v : Value} (h : Written depthLimit input v []) :
    Value.parse input = .ok v := by
  have hRead := Written.read_eq (.none input) h (.done [] (.none []))
  simp only [Value.parse, decode, hRead]
  rfl

end JobLog.Json
