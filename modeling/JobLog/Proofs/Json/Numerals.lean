import JobLog.Json.Reader
import JobLog.Proofs.Json.Punctuation
import Mathlib.Data.List.TakeWhile

/-!
# Numerals

`numeral` takes a whole number, a fraction and an exponent from the input, each as far as it goes
(`numeral_sound`). Where a comma, a bracket or white space follows, that is the whole form
(`numeral_complete`). Its value is an integer if there is neither fraction nor exponent, it is not
`-0`, and a 64-bit word holds it; so an integer reader accepts the integers of its range only, and
all of them (`IntegerRange.read_sound`, `IntegerRange.read_complete`).
-/

namespace JobLog.Json

variable {atEnd : Cause} {negative : Bool}

/-! ## Digits -/

/-- No digit is white space, so that a numeral starts where white space ends. -/
theorem Digit.not_blank {b : UInt8} (h : Digit b) : ¬ Blank b := by
  rintro (rfl | rfl | rfl | rfl) <;> exact absurd h (by decide)

/-- No digit is taken for a sign. -/
theorem Digit.ne_minus {b : UInt8} (h : Digit b) : b ≠ 45 := by
  rintro rfl
  exact absurd h (by decide)

/-- A whole number starts with a digit. -/
theorem Whole.first {ds : Bytes} (h : Whole ds) : ∃ d ds', ds = d :: ds' ∧ Digit d := by
  cases h with
  | zero => exact ⟨48, [], rfl, by decide⟩
  | digits d ds hFirst => exact ⟨d, ds, rfl, hFirst⟩

/-- The test of the reader is the class of the grammar. -/
theorem isDigit_iff {b : UInt8} : isDigit b = true ↔ Digit b := by
  simp [isDigit, Digit]

/-- No digit is next. -/
def Stops (r : Bytes) : Prop :=
  ∀ b ∈ r.head?, ¬ Digit b

/-- A byte that is no digit stops a row of digits. -/
theorem stops_cons {b : UInt8} (s : Bytes) (h : ¬ Digit b) : Stops (b :: s) := by
  intro c hc
  cases Option.mem_some.1 hc
  exact h

/-- After all digits are taken no digit is next. -/
theorem stops_dropWhile (s : Bytes) : Stops (s.dropWhile isDigit) := by
  intro b hb
  have hHead := List.head?_dropWhile_not isDigit s
  rw [Option.mem_def.1 hb] at hHead
  rw [← isDigit_iff]
  simpa using hHead

/-- What is taken as digits are digits. -/
theorem digit_of_mem_takeWhile {s : Bytes} {b : UInt8} (h : b ∈ s.takeWhile isDigit) : Digit b :=
  isDigit_iff.1 (List.mem_takeWhile_imp h)

/-- A row of digits is taken to its end. -/
theorem takeWhile_digits {ds r : Bytes} (hDigits : ∀ d ∈ ds, Digit d) (hStop : Stops r) :
    (ds ++ r).takeWhile isDigit = ds ∧ (ds ++ r).dropWhile isDigit = r := by
  have hAll : ∀ d ∈ ds, isDigit d = true := fun d hd => isDigit_iff.2 (hDigits d hd)
  rw [List.takeWhile_append_of_pos hAll, List.dropWhile_append_of_pos hAll]
  cases r with
  | nil => exact ⟨List.append_nil ds, rfl⟩
  | cons b r =>
      have hb : ¬ isDigit b = true := mt isDigit_iff.1 (hStop b rfl)
      rw [List.takeWhile_cons_of_neg hb, List.dropWhile_cons_of_neg hb]
      exact ⟨List.append_nil ds, rfl⟩

/-! ## The parts of a numeral -/

/-- What is taken before the point is a whole number of the grammar. -/
theorem wholePart_sound {s w r : Bytes} (h : wholePart atEnd s = .ok (w, r)) :
    Whole w ∧ s = w ++ r ∧ Stops r := by
  unfold wholePart at h
  split at h
  · cases h
  · rename_i b s
    split at h
    · rename_i hZero
      subst hZero
      split at h
      · cases h
        exact ⟨.zero, rfl, by intro b hb; cases hb⟩
      · rename_i c r
        split at h
        · cases h
        · rename_i hDigit
          cases h
          exact ⟨.zero, rfl, stops_cons r (mt isDigit_iff.2 hDigit)⟩
    · rename_i hZero
      split at h
      · rename_i hDigit
        cases h
        refine ⟨.digits b _ (isDigit_iff.1 hDigit) hZero fun _ => digit_of_mem_takeWhile, ?_,
          stops_dropWhile s⟩
        rw [List.cons_append, List.takeWhile_append_dropWhile]
      · cases h

/-- A whole number of the grammar is taken as it is written, if no digit follows. -/
theorem wholePart_complete (atEnd : Cause) {w r : Bytes} (h : Whole w) (hStop : Stops r) :
    wholePart atEnd (w ++ r) = .ok (w, r) := by
  cases h with
  | zero =>
      cases r with
      | nil => rfl
      | cons b r =>
          have hb : ¬ isDigit b = true := mt isDigit_iff.1 (hStop b rfl)
          show (if isDigit b = true then refuse .invalidNumber r else .ok ([48], b :: r)) = _
          rw [if_neg hb]
  | digits d ds hFirst hNonzero hRest =>
      obtain ⟨hTake, hDrop⟩ := takeWhile_digits hRest hStop
      rw [List.cons_append, wholePart.eq_def]
      dsimp only
      rw [if_neg hNonzero, if_pos (isDigit_iff.2 hFirst), hTake, hDrop]

/-- What is taken as a fraction is one of the grammar; it may be empty. -/
theorem fraction?_sound {s r : Bytes} {f : Option Bytes} (h : fraction? atEnd s = .ok (f, r)) :
    ∃ fraction, Fraction fraction ∧ s = fraction ++ r ∧ (f = none ↔ fraction = []) := by
  unfold fraction? at h
  split at h
  · cases h
    exact ⟨[], .none, rfl, by simp⟩
  · rename_i b s
    split at h
    · rename_i hPoint
      split at h
      · split at h <;> cases h
      · rename_i hDigits
        cases h
        cases hTake : s.takeWhile isDigit with
        | nil => exact absurd (by rw [hTake]; rfl) hDigits
        | cons d ds =>
            have hSplit : s = (d :: ds) ++ s.dropWhile isDigit := by
              rw [← hTake, List.takeWhile_append_dropWhile]
            refine ⟨46 :: d :: ds, .digits d ds fun e he => ?_, ?_, by simp⟩
            · exact digit_of_mem_takeWhile (hTake ▸ he)
            · rw [hPoint, List.cons_append, ← hSplit]
    · cases h
      exact ⟨[], .none, rfl, by simp⟩

/-- A fraction is taken as it is written, if neither a digit nor a point follows. -/
theorem fraction?_complete (atEnd : Cause) {fraction r : Bytes} (h : Fraction fraction)
    (hStop : Stops r) (hPoint : r.head? ≠ some 46) :
    ∃ f, fraction? atEnd (fraction ++ r) = .ok (f, r) ∧ (f = none ↔ fraction = []) := by
  cases h with
  | none =>
      cases r with
      | nil => exact ⟨none, rfl, by simp⟩
      | cons b r =>
          have hb : b ≠ 46 := by simpa using hPoint
          exact ⟨none, by rw [List.nil_append, fraction?, if_neg hb], by simp⟩
  | digits d ds hDigits =>
      obtain ⟨hTake, hDrop⟩ := takeWhile_digits hDigits hStop
      refine ⟨some (d :: ds), ?_, by simp⟩
      rw [List.cons_append, fraction?, if_pos rfl, hTake, hDrop]
      rfl

/-- The sign of an exponent is plus, minus or nothing. -/
theorem exponentSign_eq (s : Bytes) :
    ∃ sign, (sign = [] ∨ sign = [43] ∨ sign = [45]) ∧ s = sign ++ (exponentSign s).2 := by
  cases s with
  | nil => exact ⟨[], .inl rfl, rfl⟩
  | cons b s =>
      rw [exponentSign]
      by_cases hPlus : b = 43
      · exact ⟨[43], .inr (.inl rfl), by rw [if_pos hPlus, hPlus]; rfl⟩
      · rw [if_neg hPlus]
        by_cases hMinus : b = 45
        · exact ⟨[45], .inr (.inr rfl), by rw [if_pos hMinus, hMinus]; rfl⟩
        · exact ⟨[], .inl rfl, by rw [if_neg hMinus]; rfl⟩

/-- The digits of an exponent are what follows its sign. -/
theorem exponentSign_append {sign : Bytes} (h : sign = [] ∨ sign = [43] ∨ sign = [45])
    {d : UInt8} (hDigit : Digit d) (s : Bytes) :
    (exponentSign (sign ++ d :: s)).2 = d :: s := by
  rcases h with rfl | rfl | rfl
  · have hPlus : d ≠ 43 := by rintro rfl; exact absurd hDigit (by decide)
    have hMinus : d ≠ 45 := by rintro rfl; exact absurd hDigit (by decide)
    rw [List.nil_append, exponentSign, if_neg hPlus, if_neg hMinus]
  · rfl
  · rfl

/-- What is taken as an exponent is one of the grammar; it may be empty. -/
theorem exponent?_sound {s r : Bytes} {x : Option (Bool × Bytes)}
    (h : exponent? atEnd s = .ok (x, r)) :
    ∃ exponent, Exponent exponent ∧ s = exponent ++ r ∧ (x = none ↔ exponent = []) := by
  unfold exponent? at h
  split at h
  · cases h
    exact ⟨[], .none, rfl, by simp⟩
  · rename_i e s
    split at h
    · rename_i hE
      obtain ⟨sign, hSign, hSplit⟩ := exponentSign_eq s
      unfold exponentDigits at h
      split at h
      · cases h
      · rename_i hRead
        cases h
        split at hRead
        · cases hRead
        · rename_i d t hAfter
          split at hRead
          · rename_i hDigit
            cases hRead
            refine ⟨e :: (sign ++ d :: t.takeWhile isDigit), .digits e sign d _ ?_ hSign ?_, ?_,
              by simp⟩
            · simpa using hE
            · intro c hc
              rcases List.mem_cons.1 hc with rfl | hc
              · exact isDigit_iff.1 hDigit
              · exact digit_of_mem_takeWhile hc
            · rw [hAfter] at hSplit
              rw [List.cons_append, List.append_assoc, List.cons_append,
                List.takeWhile_append_dropWhile, ← hSplit]
          · cases hRead
    · cases h
      exact ⟨[], .none, rfl, by simp⟩

/-- An exponent is taken as it is written, if neither a digit nor the letter of another one follows.
-/
theorem exponent?_complete (atEnd : Cause) {exponent r : Bytes} (h : Exponent exponent)
    (hStop : Stops r) (hE : ∀ b ∈ r.head?, b ≠ 101 ∧ b ≠ 69) :
    ∃ x, exponent? atEnd (exponent ++ r) = .ok (x, r) ∧ (x = none ↔ exponent = []) := by
  cases h with
  | none =>
      cases r with
      | nil => exact ⟨none, rfl, by simp⟩
      | cons b r =>
          obtain ⟨hLower, hUpper⟩ := hE b rfl
          exact ⟨none, by simp [exponent?, hLower, hUpper], by simp⟩
  | digits e sign d ds hLetter hSign hDigits =>
      have hFirst : Digit d := hDigits d List.mem_cons_self
      have hRest : ∀ c ∈ ds, Digit c := fun c hc => hDigits c (List.mem_cons_of_mem d hc)
      obtain ⟨hTake, hDrop⟩ := takeWhile_digits hRest hStop
      refine ⟨some ((exponentSign (sign ++ d :: (ds ++ r))).1, d :: ds), ?_, by simp⟩
      rw [List.cons_append, List.append_assoc, List.cons_append, exponent?,
        if_pos (by simpa using hLetter), exponentSign_append hSign hFirst, exponentDigits,
        if_pos (isDigit_iff.2 hFirst), hTake, hDrop]

/-! ## Whole numerals -/

/-- What is taken as a numeral is a whole number, a fraction and an exponent, with nothing in
between. -/
theorem numeral_sound {s : Bytes} {n : Numeral} (h : numeral atEnd negative s = .ok n) :
    n.negative = negative ∧ ∃ fraction exponent, Whole n.whole ∧ Fraction fraction ∧
      Exponent exponent ∧ s = n.whole ++ (fraction ++ (exponent ++ n.rest)) ∧
      (n.fraction = none ↔ fraction = []) ∧ (n.exponent = none ↔ exponent = []) := by
  unfold numeral at h
  split at h
  · cases h
  · rename_i w s hw
    obtain ⟨hWhole, hSplit, -⟩ := wholePart_sound hw
    split at h
    · cases h
    · rename_i f t hf
      obtain ⟨fraction, hFraction, hSplit', hNone⟩ := fraction?_sound hf
      split at h
      · cases h
      · rename_i x r hx
        obtain ⟨exponent, hExponent, hSplit'', hNone'⟩ := exponent?_sound hx
        cases h
        refine ⟨rfl, fraction, exponent, hWhole, hFraction, hExponent, ?_, hNone, hNone'⟩
        show _ = w ++ (fraction ++ (exponent ++ r))
        rw [hSplit, hSplit', hSplit'']

/-- Where a value ends no numeral goes on. -/
theorem Ends.stops {r : Bytes} (h : Ends r) :
    Stops r ∧ r.head? ≠ some 46 ∧ ∀ b ∈ r.head?, b ≠ 101 ∧ b ≠ 69 := by
  rcases h.head with rfl | ⟨b, t, rfl, hByte⟩
  · exact ⟨by simp [Stops], by simp, by simp⟩
  · rw [Blank] at hByte
    rcases hByte with (rfl | rfl | rfl | rfl) | rfl | rfl | rfl <;>
      exact ⟨stops_cons t (by decide), by simp, by simp⟩

/-- An exponent ends the fraction before it. -/
theorem exponent_head {exponent r : Bytes} (h : Exponent exponent) (hStop : Stops r)
    (hPoint : r.head? ≠ some 46) : Stops (exponent ++ r) ∧ (exponent ++ r).head? ≠ some 46 := by
  cases h with
  | none => exact ⟨hStop, hPoint⟩
  | digits e sign d ds hLetter =>
      rcases hLetter with rfl | rfl <;> exact ⟨stops_cons _ (by decide), by simp⟩

/-- A fraction ends the whole number before it. -/
theorem fraction_head {fraction r : Bytes} (h : Fraction fraction) (hStop : Stops r) :
    Stops (fraction ++ r) := by
  cases h with
  | none => exact hStop
  | digits d ds => exact stops_cons _ (by decide)

/-- A numeral is taken as it is written where a value ends. -/
theorem numeral_complete (atEnd : Cause) (negative : Bool) {whole fraction exponent r : Bytes}
    (hWhole : Whole whole) (hFraction : Fraction fraction) (hExponent : Exponent exponent)
    (hEnds : Ends r) :
    ∃ n, numeral atEnd negative (whole ++ (fraction ++ (exponent ++ r))) = .ok n ∧
      n.negative = negative ∧ n.whole = whole ∧ n.rest = r ∧
      (n.fraction = none ↔ fraction = []) ∧ (n.exponent = none ↔ exponent = []) := by
  obtain ⟨hStop, hPoint, hE⟩ := hEnds.stops
  obtain ⟨hStop', hPoint'⟩ := exponent_head hExponent hStop hPoint
  obtain ⟨x, hx, hNone'⟩ := exponent?_complete atEnd hExponent hStop hE
  obtain ⟨f, hf, hNone⟩ := fraction?_complete atEnd hFraction hStop' hPoint'
  -- Each part stops where the next one starts.
  refine ⟨⟨negative, whole, f, x, r⟩, ?_, rfl, rfl, rfl, hNone, hNone'⟩
  rw [numeral, wholePart_complete atEnd hWhole (fraction_head hFraction hStop')]
  simp only [hf, hx]

/-! ## Integers -/

/-- Digits never make a number smaller. -/
theorem le_foldl_digits (k : Nat) (ds : Bytes) :
    k ≤ ds.foldl (fun n d => n * 10 + (d.toNat - 48)) k := by
  induction ds generalizing k with
  | nil => exact Nat.le_refl k
  | cons d ds ih => exact Nat.le_trans (by omega) (ih (k * 10 + (d.toNat - 48)))

/-- Digits of a number that fits a word are all absorbed. -/
theorem absorb_of_lt {k : Nat} {ds : Bytes}
    (h : ds.foldl (fun n d => n * 10 + (d.toNat - 48)) k < UInt64.size) :
    absorb k ds = (ds.foldl (fun n d => n * 10 + (d.toNat - 48)) k, []) := by
  induction ds generalizing k with
  | nil => rfl
  | cons d ds ih =>
      rw [List.foldl_cons] at h ⊢
      have hFits := Nat.lt_of_le_of_lt (le_foldl_digits _ ds) h
      rw [absorb, if_pos hFits, ih h]

/-- If all digits are absorbed, their number is what they write. -/
theorem absorb_eq_foldl {k m : Nat} {ds : Bytes} (h : absorb k ds = (m, [])) :
    m = ds.foldl (fun n d => n * 10 + (d.toNat - 48)) k := by
  induction ds generalizing k with
  | nil =>
      cases h
      rfl
  | cons d ds ih =>
      rw [absorb] at h
      split at h
      · exact ih h
      · cases h

/-- Only the numeral `0` writes zero. -/
theorem Whole.decimal_eq_zero_iff {ds : Bytes} (h : Whole ds) : decimal ds = 0 ↔ ds = [48] := by
  cases h with
  | zero => exact iff_of_true rfl rfl
  | digits d ds hFirst hNonzero =>
      have hLow : 48 ≤ d.toNat := UInt8.le_iff_toNat_le.1 hFirst.1
      have hNe : d.toNat ≠ 48 := fun hEq => hNonzero (UInt8.toNat_inj.1 hEq)
      have hPos := le_foldl_digits (0 * 10 + (d.toNat - 48)) ds
      refine iff_of_false ?_ fun hEq => hNonzero (List.cons.inj hEq).1
      show List.foldl _ (0 * 10 + (d.toNat - 48)) ds ≠ 0
      omega

/-- The integer that a sign and digits write. -/
def withSign (negative : Bool) (ds : Bytes) : Int :=
  if negative then -decimal ds else decimal ds

/-- Only a numeral without fraction and exponent has an integer value, which is the one it writes. A
zero with a sign has none. -/
theorem Numeral.value_sound {n : Numeral} {v : Int} (h : n.value = .ok (.integer v)) :
    n.fraction = none ∧ n.exponent = none ∧ v = withSign n.negative n.whole ∧
      (n.negative = true → decimal n.whole ≠ 0) := by
  unfold Numeral.value at h
  split at h
  · rename_i magnitude hFraction hExponent hAbsorb
    have hMagnitude : magnitude = decimal n.whole := absorb_eq_foldl hAbsorb
    refine ⟨hFraction, hExponent, ?_⟩
    rw [← hMagnitude, withSign, ← hMagnitude]
    split at h
    · rename_i hNegative
      split at h
      · cases h
      · rename_i hReal
        cases h
        rw [if_pos hNegative]
        exact ⟨rfl, fun _ hZero => hReal (.inl hZero)⟩
    · rename_i hNegative
      cases h
      rw [if_neg hNegative]
      exact ⟨rfl, fun hTrue => absurd hTrue hNegative⟩
  · cases hReal : n.real with
    | error e => rw [hReal] at h; cases h
    | ok x => rw [hReal] at h; cases h

/-- Such a numeral has its integer as a value if that fits a signed or an unsigned word. -/
theorem Numeral.value_complete {n : Numeral} (hFraction : n.fraction = none)
    (hExponent : n.exponent = none) (hNonzero : n.negative = true → decimal n.whole ≠ 0)
    (hLow : Int64.minValue.toInt ≤ withSign n.negative n.whole)
    (hHigh : withSign n.negative n.whole < UInt64.size) :
    n.value = .ok (.integer (withSign n.negative n.whole)) := by
  rw [withSign] at hLow hHigh ⊢
  have hSize : decimal n.whole < UInt64.size := by
    by_cases hNegative : n.negative = true
    · rw [if_pos hNegative] at hLow
      change -9223372036854775808 ≤ -(decimal n.whole : Int) at hLow
      change decimal n.whole < 18446744073709551616
      omega
    · rw [if_neg hNegative] at hHigh
      exact Int.ofNat_lt.1 hHigh
  have hAbsorb : absorb 0 n.whole = (decimal n.whole, []) := absorb_of_lt hSize
  rw [Numeral.value, hFraction, hExponent, hAbsorb]
  dsimp only
  by_cases hNegative : n.negative = true
  · rw [if_pos hNegative] at hLow
    rw [if_pos hNegative, if_pos hNegative, if_neg]
    -- The two cases in which a negative numeral is read as a double.
    rintro (hZero | hLarge)
    · exact hNonzero hNegative hZero
    · change -9223372036854775808 ≤ -(decimal n.whole : Int) at hLow
      change 9223372036854775808 < decimal n.whole at hLarge
      omega
  · rw [if_neg hNegative, if_neg hNegative]

/-- An integer that is taken lies in the range and is written by the digits that were taken. -/
theorem IntegerRange.take_sound {range : IntegerRange} {s r : Bytes} {v : Int}
    (h : range.take (numeral atEnd negative s) = .ok (v, r)) :
    (range.low ≤ v ∧ v ≤ range.high) ∧ ∃ ds, Whole ds ∧ s = ds ++ r ∧ v = withSign negative ds ∧
      (negative = true → ds ≠ [48]) := by
  unfold IntegerRange.take at h
  split at h
  · cases h
  · rename_i n hRead
    obtain ⟨rfl, fraction, exponent, hWhole, -, -, hSplit, hNone, hNone'⟩ := numeral_sound hRead
    split at h
    · cases h
    · cases h
    · rename_i m hValue
      obtain ⟨hFraction, hExponent, hSigned, hNonzero⟩ := Numeral.value_sound hValue
      split at h
      · rename_i hRange
        cases h
        rw [hNone.1 hFraction, hNone'.1 hExponent] at hSplit
        exact ⟨hRange, n.whole, hWhole, hSplit, hSigned,
          fun hNegative hZero => hNonzero hNegative (hWhole.decimal_eq_zero_iff.2 hZero)⟩
      · cases h

/-- Digits that write an integer of the range are taken for it. -/
theorem IntegerRange.take_complete (atEnd : Cause) (negative : Bool) {range : IntegerRange}
    {ds r : Bytes} (hWhole : Whole ds) (hNonzero : negative = true → ds ≠ [48]) (hEnds : Ends r)
    (hRange : range.low ≤ withSign negative ds ∧ withSign negative ds ≤ range.high)
    (hLow : Int64.minValue.toInt ≤ range.low) (hHigh : range.high < UInt64.size) :
    range.take (numeral atEnd negative (ds ++ r)) = .ok (withSign negative ds, r) := by
  obtain ⟨n, hRead, rfl, rfl, rfl, hFraction, hExponent⟩ :=
    numeral_complete atEnd negative hWhole .none .none hEnds
  have hValue := Numeral.value_complete (hFraction.2 rfl) (hExponent.2 rfl)
    (fun hNegative hZero => hNonzero hNegative (hWhole.decimal_eq_zero_iff.1 hZero))
    (by omega) (by omega)
  have hRead' : numeral atEnd n.negative (n.whole ++ n.rest) = .ok n := hRead
  rw [hRead', IntegerRange.take]
  simp only [hValue, if_pos hRange]

/-- An integer reader accepts integers of its range only. -/
theorem IntegerRange.read_sound {range : IntegerRange} {s r : Bytes} {v : Int}
    (h : range.read s = .ok (v, r)) :
    (range.low ≤ v ∧ v ≤ range.high) ∧ ∃ t, Space s t ∧ Integer t v r := by
  unfold IntegerRange.read at h
  split at h
  · cases h
  · rename_i b t hSkip
    obtain ⟨hSpace, -⟩ := skipSpace_eq_cons_iff.1 hSkip
    split at h
    · rename_i hMinus
      obtain ⟨hRange, ds, hWhole, rfl, rfl, hNonzero⟩ := IntegerRange.take_sound h
      exact ⟨hRange, _, hMinus ▸ hSpace, .negative ds r hWhole (hNonzero rfl)⟩
    · split at h
      · obtain ⟨hRange, ds, hWhole, hSplit, rfl, -⟩ := IntegerRange.take_sound h
        exact ⟨hRange, _, hSplit ▸ hSpace, .positive ds r hWhole⟩
      · exact absurd h mismatch_ne_ok

/-- An integer reader accepts every integer of its range. -/
theorem IntegerRange.read_complete {range : IntegerRange} {s t r : Bytes} {v : Int}
    (hSpace : Space s t) (hForm : Integer t v r) (hEnds : Ends r)
    (hRange : range.low ≤ v ∧ v ≤ range.high) (hLow : Int64.minValue.toInt ≤ range.low)
    (hHigh : range.high < UInt64.size) : range.read s = .ok (v, r) := by
  cases hForm with
  | negative ds _ hWhole hNonzero =>
      rw [IntegerRange.read, hSpace.skipSpace_cons]
      exact IntegerRange.take_complete .endInValue true hWhole (fun _ => hNonzero) hEnds hRange
        hLow hHigh
  | positive ds _ hWhole =>
      obtain ⟨d, ds', rfl, hDigit⟩ := hWhole.first
      rw [IntegerRange.read, hSpace.skipSpace_cons (Digit.not_blank hDigit)]
      show (if d = 45 then _ else _) = _
      rw [if_neg hDigit.ne_minus, if_pos (isDigit_iff.2 hDigit)]
      exact IntegerRange.take_complete .endInValue false hWhole (by simp) hEnds hRange hLow
        hHigh

end JobLog.Json
