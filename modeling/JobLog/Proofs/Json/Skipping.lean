import JobLog.Proofs.Json.Numerals
import JobLog.Proofs.Json.Strings

/-!
# Skipped values

`skip` keeps a list of the brackets that are open instead of calling itself. `Closes` says what
those brackets still ask of the input: for each of them the items up to its end. An item that is
skipped is any value, followed by what its brackets ask for (`skipItem_skipAfter_sound`); conversely
every value leads from the front of an item to the place after it, whatever brackets are open around
it (`Loose.skipItem_eq`). So `skip` passes over exactly the values of the grammar.
-/

namespace JobLog.Json

/-! ## Scalars and labels -/

/-- A word is taken if its letters stand there. -/
theorem word_eq_ok_iff {cs s r : Bytes} : word cs s = .ok r ↔ s = cs ++ r := by
  fun_induction word cs s with
  | case1 s => simp
  | case2 c cs => simp [refuse]
  | case3 c cs s ih => simp [ih]
  | case4 c cs b s hOther => simp [refuse, hOther]

theorem numeric_of_numeral {atEnd : Cause} {negative : Bool} {s : Bytes} {n : Numeral}
    (h : numeral atEnd negative s = .ok n) :
    Numeric (if negative then 45 :: s else s) n.rest := by
  obtain ⟨-, fraction, exponent, hWhole, hFraction, hExponent, rfl, -⟩ := numeral_sound h
  cases negative with
  | false => exact .number [] n.whole fraction exponent _ (.inl rfl) hWhole hFraction hExponent
  | true => exact .number [45] n.whole fraction exponent _ (.inr rfl) hWhole hFraction hExponent

/-- What is skipped as a scalar is a word, a string or a numeral. -/
theorem skipScalar_sound {b : UInt8} {s r : Bytes} (h : skipScalar b s = .ok r) :
    Loose (b :: s) r := by
  unfold skipScalar at h
  split at h
  · rename_i hNull
    obtain rfl := word_eq_ok_iff.1 h
    exact hNull ▸ .null r
  · split at h
    · rename_i hTrue
      obtain rfl := word_eq_ok_iff.1 h
      exact hTrue ▸ .true r
    · split at h
      · rename_i hFalse
        obtain rfl := word_eq_ok_iff.1 h
        exact hFalse ▸ .false r
      · split at h
        · rename_i hMinus
          obtain ⟨n, hRead, rfl⟩ := map_eq_ok h
          exact hMinus ▸ .number _ _ (numeric_of_numeral hRead)
        · split at h
          · obtain ⟨n, hRead, rfl⟩ := map_eq_ok h
            exact .number _ _ (numeric_of_numeral hRead)
          · split at h
            · rename_i hQuote
              exact hQuote ▸ .text s r (skipString_sound h)
            · cases h

/-- The bytes with which values other than lists and objects start. -/
def Scalar (b : UInt8) : Prop :=
  b = 110 ∨ b = 116 ∨ b = 102 ∨ b = 45 ∨ Digit b ∨ b = 34

theorem Scalar.not_blank {b : UInt8} (h : Scalar b) : ¬ Blank b := by
  rcases h with rfl | rfl | rfl | rfl | hDigit | rfl
  · decide
  · decide
  · decide
  · decide
  · exact hDigit.not_blank
  · decide

/-- No value starts with punctuation. -/
theorem Scalar.ne {b c : UInt8} (h : Scalar b) (hOther : c ∈ [91, 123, 93, 125, 44]) : b ≠ c := by
  rintro rfl
  simp only [List.mem_cons, List.not_mem_nil, or_false] at hOther
  rcases hOther with rfl | rfl | rfl | rfl | rfl <;>
    rcases h with h | h | h | h | h | h <;> exact absurd h (by decide)

theorem Numeric.skipScalar_eq {t r : Bytes} (h : Numeric t r) (hEnds : Ends r) :
    ∃ b s, t = b :: s ∧ Scalar b ∧ skipScalar b s = .ok r := by
  cases h with
  | number sign whole fraction exponent _ hSign hWhole hFraction hExponent =>
      rcases hSign with rfl | rfl
      · obtain ⟨n, hRead, -, -, rfl, -⟩ :=
          numeral_complete .invalidNumber false hWhole hFraction hExponent hEnds
        obtain ⟨d, ds, rfl, hDigit⟩ := hWhole.first
        refine ⟨d, ds ++ (fraction ++ (exponent ++ n.rest)), rfl, by simp [Scalar, hDigit], ?_⟩
        have hNull : d ≠ 110 := by rintro rfl; exact absurd hDigit (by decide)
        have hTrue : d ≠ 116 := by rintro rfl; exact absurd hDigit (by decide)
        have hFalse : d ≠ 102 := by rintro rfl; exact absurd hDigit (by decide)
        rw [skipScalar, if_neg hNull, if_neg hTrue, if_neg hFalse, if_neg hDigit.ne_minus,
          if_pos (isDigit_iff.2 hDigit), ← List.cons_append, hRead]
        rfl
      · obtain ⟨n, hRead, -, -, rfl, -⟩ :=
          numeral_complete .invalidNumber true hWhole hFraction hExponent hEnds
        refine ⟨45, whole ++ (fraction ++ (exponent ++ n.rest)), rfl, by simp [Scalar], ?_⟩
        show (numeral .invalidNumber true _).map (·.rest) = _
        rw [hRead]
        rfl

/-- A key is a string before a colon. -/
theorem skipKey_eq_ok_iff {s r : Bytes} : skipKey s = .ok r ↔ Label .object s r := by
  unfold skipKey
  constructor
  · intro h
    split at h
    · cases h
    · rename_i b t hSkip
      split at h
      · rename_i hQuote
        split at h
        · cases h
        · rename_i u hKey
          have hOpen := (skipSpace_eq_cons_iff.1 (hQuote ▸ hSkip)).1
          exact .object s t u r hOpen (skipString_sound hKey) (colon_eq_ok_iff.1 h)
      · cases h
  · intro h
    cases h with
    | object _ key after _ hOpen hKey hColon =>
        rw [hOpen.skipSpace_cons]
        simp only [if_true, skipString_eq_ok_iff.2 hKey, colon_eq_ok_iff.2 hColon]

theorem Frame.skipLabel_eq_ok_iff {frame : Frame} {s r : Bytes} :
    frame.skipLabel s = .ok r ↔ Label frame s r := by
  cases frame with
  | list =>
      constructor
      · intro h
        cases h
        exact .list s
      · intro h
        cases h
        rfl
  | object => exact skipKey_eq_ok_iff

/-! ## Soundness -/

/-- What the brackets that are open ask of the input: the items up to the end of each; `first`
tells that the innermost has none yet. -/
inductive Closes : List Frame → Bool → Bytes → Bytes → Prop where
  | nil (first : Bool) (r : Bytes) : Closes [] first r r
  | cons (frame : Frame) (outer : List Frame) (first : Bool) (s t r : Bytes)
      (hItems : Items frame first s t) (hOuter : Closes outer false t r) :
      Closes (frame :: outer) first s r

/-- An item is any value, and its brackets get what they ask for. -/
def Passes (frames : List Frame) (s r : Bytes) : Prop :=
  ∃ value rest, Space s value ∧ Loose value rest ∧ Closes frames false rest r

/-- White space before a label belongs to it or to the value. -/
theorem Label.of_space {frame : Frame} {s t u : Bytes} (h : Label frame t u) (hSpace : Space s t) :
    ∃ v, Label frame s v ∧ Space v u := by
  cases h with
  | list => exact ⟨s, .list s, hSpace⟩
  | object _ key after _ hOpen hKey hColon =>
      exact ⟨u, .object s key after u (hSpace.trans hOpen) hKey hColon, .none u⟩

theorem Passes.item {frame : Frame} {outer : List Frame} {first : Bool} {s start label u r : Bytes}
    (h : Passes (frame :: outer) u r) (hComma : Comma first s start) (hSpace : Space start label)
    (hLabel : Label frame label u) : Closes (frame :: outer) first s r := by
  obtain ⟨v, hLabel', hSpace'⟩ := hLabel.of_space hSpace
  obtain ⟨value, rest, hValueSpace, hValue, hCloses⟩ := h
  cases hCloses with
  | cons _ _ _ _ t _ hItems hOuter =>
      exact .cons frame outer first s t r (.item frame first s start v value rest t hComma hLabel'
        (hSpace'.trans hValueSpace) hValue hItems) hOuter

/-- Passing over an item, or what follows one, takes what the open brackets ask for. -/
theorem skipItem_skipAfter_sound :
    (∀ (frames : List Frame) (s r : Bytes), skipItem frames s = .ok r → Passes frames s r) ∧
      ∀ (frames : List Frame) (item : Bool) (s r : Bytes),
        skipAfter frames item s = .ok r → Closes frames (!item) s r := by
  -- Induction along the calls of both functions; the cases are their branches.
  apply skipItem.mutual_induct
    (fun frames s => ∀ r, skipItem frames s = .ok r → Passes frames s r)
    (fun frames item s => ∀ r, skipAfter frames item s = .ok r → Closes frames (!item) s r)
  · intro frames s space r h
    simp [skipItem_eq, space, refuse] at h
  · intro frames s t space ih r h
    obtain ⟨hSpace, -⟩ := skipSpace_eq_cons_iff.1 space
    cases ih r (by simpa [skipItem_eq, space] using h) with
    | cons _ _ _ _ u _ hItems hOuter =>
        exact ⟨_, u, hSpace, .bracket .list t u hItems, hOuter⟩
  · intro frames s t space hne ih r h
    obtain ⟨hSpace, -⟩ := skipSpace_eq_cons_iff.1 space
    cases ih r (by simpa [skipItem_eq, space] using h) with
    | cons _ _ _ _ u _ hItems hOuter =>
        exact ⟨_, u, hSpace, .bracket .object t u hItems, hOuter⟩
  · intro frames s b t space h1 h2 e he r h
    simp [skipItem_eq, space, h1, h2, he] at h
  · intro frames s b t space h1 h2 u hu ih r h
    obtain ⟨hSpace, -⟩ := skipSpace_eq_cons_iff.1 space
    have hCloses := ih r (by simpa [skipItem_eq, space, h1, h2, hu] using h)
    exact ⟨_, u, hSpace, skipScalar_sound hu, hCloses⟩
  -- No bracket is open any more.
  · intro item s r h
    rw [skipAfter_nil] at h
    cases h
    exact .nil _ _
  · intro item s frame outer space r h
    simp [skipAfter_cons, space, refuse] at h
  · intro item s frame outer b t space hc e he r h
    rw [skipAfter_cons, space] at h
    dsimp only at h
    rw [if_pos hc, he] at h
    cases h
  · intro item s frame outer b t space hc u hu ih r h
    obtain ⟨hSpace, -⟩ := skipSpace_eq_cons_iff.1 space
    rw [skipAfter_cons, space] at h
    dsimp only at h
    rw [if_pos hc, hu] at h
    obtain ⟨rfl, rfl⟩ := hc
    exact (ih r h).item (.next s t hSpace) (.none t) (Frame.skipLabel_eq_ok_iff.1 hu)
  · intro item s frame outer t space hc ih r h
    obtain ⟨hSpace, -⟩ := skipSpace_eq_cons_iff.1 space
    rw [skipAfter_cons, space] at h
    dsimp only at h
    rw [if_neg hc, if_pos rfl] at h
    exact .cons frame outer _ s t r (.close frame _ s t hSpace) (ih r h)
  · intro s frame outer b t space hb hc r h
    rw [skipAfter_cons, space] at h
    dsimp only at h
    rw [if_neg hc, if_neg hb, if_pos rfl] at h
    cases h
  · intro item s frame outer b t space hc hb hi e he r h
    rw [skipAfter_cons, space] at h
    dsimp only at h
    rw [if_neg hc, if_neg hb, if_neg hi, he] at h
    cases h
  · intro item s frame outer b t space hc hb hi u hu ih r h
    obtain ⟨hSpace, -⟩ := skipSpace_eq_cons_iff.1 space
    rw [skipAfter_cons, space] at h
    dsimp only at h
    rw [if_neg hc, if_neg hb, if_neg hi, hu] at h
    obtain rfl := Bool.eq_false_iff.2 hi
    exact (ih r h).item (.first s) hSpace (Frame.skipLabel_eq_ok_iff.1 hu)

/-- What is skipped is a value. -/
theorem skip_sound {s r : Bytes} (h : skip s = .ok r) : ∃ t, Space s t ∧ Loose t r := by
  obtain ⟨value, rest, hSpace, hValue, hCloses⟩ := skipItem_skipAfter_sound.1 [] s r h
  cases hCloses with
  | nil => exact ⟨value, hSpace, hValue⟩

/-! ## Completeness -/

theorem Items.ends {frame : Frame} {s r : Bytes} (h : Items frame false s r) : Ends s := by
  cases h with
  | close _ _ _ _ hClose =>
      refine .byte frame.close s r hClose (.inr ?_)
      cases frame with
      | list => exact .inl rfl
      | object => exact .inr rfl
  | item _ _ _ _ _ _ _ _ hComma => exact hComma.ends

/-- The byte with which a value starts. -/
def Starts (b : UInt8) : Prop :=
  Scalar b ∨ b = 91 ∨ b = 123

theorem Starts.not_blank {b : UInt8} (h : Starts b) : ¬ Blank b := by
  rcases h with h | rfl | rfl
  · exact h.not_blank
  · decide
  · decide

/-- No value starts with a comma or a closing bracket. -/
theorem Starts.ne {b c : UInt8} (h : Starts b) (hOther : c ∈ [93, 125, 44]) : b ≠ c := by
  rintro rfl
  rcases h with h | rfl | rfl
  · exact h.ne (List.mem_cons_of_mem _ (List.mem_cons_of_mem _ hOther)) rfl
  · exact absurd hOther (by decide)
  · exact absurd hOther (by decide)

/-- A value starts with a byte that tells of which kind it is. -/
theorem Loose.starts {s r : Bytes} (h : Loose s r) : ∃ b t, s = b :: t ∧ Starts b := by
  cases h with
  | null => exact ⟨110, _, rfl, by simp [Starts, Scalar]⟩
  | true => exact ⟨116, _, rfl, by simp [Starts, Scalar]⟩
  | false => exact ⟨102, _, rfl, by simp [Starts, Scalar]⟩
  | number _ _ hNumber =>
      cases hNumber with
      | number sign whole fraction exponent _ hSign hWhole =>
          obtain ⟨d, ds, rfl, hDigit⟩ := hWhole.first
          rcases hSign with rfl | rfl
          · exact ⟨d, _, rfl, by simp [Starts, Scalar, hDigit]⟩
          · exact ⟨45, _, rfl, by simp [Starts, Scalar]⟩
  | text => exact ⟨34, _, rfl, by simp [Starts, Scalar]⟩
  | bracket frame =>
      cases frame with
      | list => exact ⟨91, _, rfl, by simp [Starts]⟩
      | object => exact ⟨123, _, rfl, by simp [Starts]⟩

/-- A scalar is passed over at once. -/
theorem skipItem_scalar (frames : List Frame) {s t r : Bytes} {b : UInt8}
    (hSpace : Space s (b :: t)) (hScalar : Scalar b) (hRead : skipScalar b t = .ok r) :
    skipItem frames s = skipAfter frames true r := by
  rw [skipItem_eq, hSpace.skipSpace_cons hScalar.not_blank]
  have hList : b ≠ 91 := hScalar.ne (by decide)
  have hObject : b ≠ 123 := hScalar.ne (by decide)
  simp only [if_neg hList, if_neg hObject, hRead]

/-- An opening bracket is one more that is open. -/
theorem skipItem_bracket (frames : List Frame) (frame : Frame) {s t : Bytes}
    (hSpace : Space s (frame.opening :: t)) :
    skipItem frames s = skipAfter (frame :: frames) false t := by
  cases frame with
  | list =>
      rw [skipItem_eq, Space.skipSpace_cons (b := 91) hSpace]
      rfl
  | object =>
      rw [skipItem_eq, Space.skipSpace_cons (b := 123) hSpace]
      rfl

/-- A closing bracket ends the innermost of those that are open. -/
theorem skipAfter_close (frame : Frame) (outer : List Frame) (item : Bool) {s r : Bytes}
    (hClose : Space s (frame.close :: r)) :
    skipAfter (frame :: outer) item s = skipAfter outer true r := by
  cases frame with
  | list =>
      rw [skipAfter_cons, Space.skipSpace_cons (b := 93) hClose]
      simp [Frame.close]
  | object =>
      rw [skipAfter_cons, Space.skipSpace_cons (b := 125) hClose]
      simp [Frame.close]

/-- After a comma and a label the next item is passed over. -/
theorem skipAfter_next (frame : Frame) (outer : List Frame) {s t u : Bytes}
    (hComma : Space s (44 :: t)) (hLabel : Label frame t u) :
    skipAfter (frame :: outer) true s = skipItem (frame :: outer) u := by
  rw [skipAfter_cons, hComma.skipSpace_cons]
  simp only [and_self, if_true, Frame.skipLabel_eq_ok_iff.2 hLabel]

/-- The first item is found where its label or, in a list, its value starts. -/
theorem skipAfter_first (frame : Frame) (outer : List Frame) {s u value rest : Bytes}
    (hLabel : Label frame s u) (hSpace : Space u value) (hValue : Loose value rest) :
    ∃ v, Space v value ∧ skipAfter (frame :: outer) false s = skipItem (frame :: outer) v := by
  cases hLabel with
  | list =>
      obtain ⟨b, t, rfl, hStarts⟩ := hValue.starts
      have hClose : b ≠ 93 := hStarts.ne (by decide)
      refine ⟨b :: t, .none _, ?_⟩
      rw [skipAfter_cons, hSpace.skipSpace_cons hStarts.not_blank]
      simp [Frame.close, hClose, Frame.skipLabel]
  | object _ key after _ hOpen hKey hColon =>
      have hRead : Frame.object.skipLabel (34 :: key) = .ok u :=
        Frame.skipLabel_eq_ok_iff.2 (.object _ key after u (.none _) hKey hColon)
      refine ⟨u, hSpace, ?_⟩
      rw [skipAfter_cons, hOpen.skipSpace_cons]
      simp [Frame.close, hRead]

mutual

/-- A value leads from the front of an item to the place after it. -/
theorem Loose.skipItem_eq (frames : List Frame) {s t r : Bytes} :
    Loose t r → Ends r → Space s t → skipItem frames s = skipAfter frames true r
  | .null _, _, hSpace =>
      have hRead : skipScalar 110 (nullTail ++ r) = .ok r := word_eq_ok_iff.2 rfl
      skipItem_scalar frames hSpace (by simp [Scalar]) hRead
  | .true _, _, hSpace =>
      have hRead : skipScalar 116 (trueTail ++ r) = .ok r := word_eq_ok_iff.2 rfl
      skipItem_scalar frames hSpace (by simp [Scalar]) hRead
  | .false _, _, hSpace =>
      have hRead : skipScalar 102 (falseTail ++ r) = .ok r := word_eq_ok_iff.2 rfl
      skipItem_scalar frames hSpace (by simp [Scalar]) hRead
  | .number _ _ hNumber, hEnds, hSpace => by
      obtain ⟨b, u, rfl, hScalar, hRead⟩ := hNumber.skipScalar_eq hEnds
      exact skipItem_scalar frames hSpace hScalar hRead
  | .text u _ hText, _, hSpace =>
      have hRead : skipScalar 34 u = .ok r := skipString_eq_ok_iff.2 hText
      skipItem_scalar frames hSpace (by simp [Scalar]) hRead
  | .bracket frame _ _ hItems, _, hSpace => by
      rw [skipItem_bracket frames frame hSpace]
      exact hItems.skipAfter_eq frames

/-- The items of a bracket lead to the place after it. -/
theorem Items.skipAfter_eq (outer : List Frame) {frame : Frame} {first : Bool} {s r : Bytes} :
    Items frame first s r → skipAfter (frame :: outer) (!first) s = skipAfter outer true r
  | .close _ _ _ _ hClose => skipAfter_close frame outer _ hClose
  | .item _ _ _ _ _ value rest _ hComma hLabel hSpace hValue hRest => by
      -- The value stops before the comma or bracket that follows, and the rest is shorter.
      have hOuter := hRest.skipAfter_eq outer
      have hAfter {v : Bytes} (hv : Space v value) :
          skipItem (frame :: outer) v = skipAfter outer true r :=
        (hValue.skipItem_eq (frame :: outer) hRest.ends hv).trans hOuter
      cases hComma with
      | first =>
          obtain ⟨v, hv, hRead⟩ := skipAfter_first frame outer hLabel hSpace hValue
          exact hRead.trans (hAfter hv)
      | next _ _ hComma => exact (skipAfter_next frame outer hComma hLabel).trans (hAfter hSpace)

end

/-- Every value is skipped. -/
theorem skip_complete {s t r : Bytes} (hSpace : Space s t) (hValue : Loose t r) (hEnds : Ends r) :
    skip s = .ok r := by
  rw [skip, hValue.skipItem_eq [] hEnds hSpace, skipAfter_nil]

end JobLog.Json
