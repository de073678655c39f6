import JobLog.Json.Failure
import JobLog.Text.Utf8

/-!
# The parts of JSON values

Readers of white space, words, strings and numerals, and `skip`, which passes over a value of any
depth with a list of open brackets instead of recursion. A string that is skipped is checked for
escape syntax and raw control characters only; one that is wanted must also be valid UTF-8 with
paired surrogates. Each reader is followed by the lemma that bounds what it leaves.
-/

namespace JobLog.Json

/-- Space, tab, line feed and carriage return. -/
def isSpace (b : UInt8) : Bool :=
  b = 32 || b = 9 || b = 10 || b = 13

/-- Input after the white space at its front. -/
def skipSpace (s : Bytes) : Bytes :=
  s.dropWhile isSpace

/-- White space is dropped, nothing is added. -/
theorem skipSpace_length_le (s : Bytes) : (skipSpace s).length ≤ s.length :=
  (List.dropWhile_sublist _).length_le

/-- Whether a byte is a decimal digit. -/
def isDigit (b : UInt8) : Bool :=
  48 ≤ b && b ≤ 57

/-- Input after the letters of a word. -/
def word : Bytes → Bytes → Except Failure Bytes
  | [], s => .ok s
  | _ :: _, [] => refuse .endInValue []
  | c :: cs, b :: s => if b = c then word cs s else refuse .expectedWord s

/-- A word takes nothing if it has no letters. -/
theorem word_length_le {cs s r : Bytes} (h : word cs s = .ok r) : r.length ≤ s.length := by
  fun_induction word cs s with
  | case1 s => cases h; exact Nat.le_refl _
  | case2 => cases h
  | case3 c cs s ih => exact Nat.le_succ_of_le (ih h)
  | case4 => cases h

/-- The words after their first letters. -/
def nullTail : Bytes := [117, 108, 108]
@[inherit_doc nullTail] def trueTail : Bytes := [114, 117, 101]
@[inherit_doc nullTail] def falseTail : Bytes := [97, 108, 115, 101]

/-! ## Strings -/

/-- The value of a hexadecimal digit. -/
def hexDigit? (b : UInt8) : Option Nat :=
  if 48 ≤ b ∧ b ≤ 57 then some (b.toNat - 48)
  else if 97 ≤ b ∧ b ≤ 102 then some (b.toNat - 87)
  else if 65 ≤ b ∧ b ≤ 70 then some (b.toNat - 55)
  else none

/-- The number that four hexadecimal digits write. -/
def hexNumber? (a b c d : UInt8) : Option Nat := do
  return (((← hexDigit? a) * 16 + (← hexDigit? b)) * 16 + (← hexDigit? c)) * 16 + (← hexDigit? d)

/-- The UTF-16 unit after `\u`. With fewer than four bytes left the string counts as unfinished. -/
def unit : Bytes → Except Failure (Nat × Bytes)
  | a :: b :: c :: d :: s =>
    match hexNumber? a b c d with
    | some n => .ok (n, s)
    | none => refuse .invalidEscape s
  | _ => refuse .endInString []

/-- A unit takes four digits. -/
theorem unit_length_lt {s r : Bytes} {n : Nat} (h : unit s = .ok (n, r)) :
    r.length < s.length := by
  unfold unit at h
  split at h
  · split at h
    · cases h; simp only [List.length_cons]; omega
    · cases h
  · cases h

/-- The character that a backslash and a letter other than `u` stand for. -/
def shortEscape? (b : UInt8) : Option UInt8 :=
  if b = 34 then some 34
  else if b = 92 then some 92
  else if b = 47 then some 47
  else if b = 98 then some 8
  else if b = 102 then some 12
  else if b = 110 then some 10
  else if b = 114 then some 13
  else if b = 116 then some 9
  else none

/-- The bytes of a code point. -/
def pointBytes (n : Nat) : Bytes :=
  String.utf8EncodeChar (Char.ofNat n)

/-- The second half of a surrogate pair whose first half is `high`. -/
def lowSurrogate (high : Nat) : Bytes → Except Failure (Bytes × Bytes)
  | 92 :: 117 :: s =>
    match unit s with
    | .error e => .error e
    | .ok (low, s) =>
      if 0xDC00 ≤ low ∧ low ≤ 0xDFFF then
        .ok (pointBytes ((high - 0xD800) * 0x400 + (low - 0xDC00) + 0x10000), s)
      else refuse .loneSurrogate s
  | 92 :: _ :: s => refuse .endInSurrogate s
  | [92] => refuse .endInString []
  | _ :: s => refuse .endInSurrogate s
  | [] => refuse .endInString []

/-- The second half of a pair takes its escape. -/
theorem lowSurrogate_length_lt {high : Nat} {s b r : Bytes}
    (h : lowSurrogate high s = .ok (b, r)) : r.length < s.length := by
  unfold lowSurrogate at h
  split at h
  · rename_i s
    cases hu : unit s with
    | error e => simp [hu] at h
    | ok p =>
      simp only [hu] at h
      have := unit_length_lt (r := p.2) (n := p.1) hu
      split at h
      · obtain ⟨_, rfl⟩ := Prod.mk.inj (Except.ok.inj h)
        simp only [List.length_cons]; omega
      · cases h
  all_goals cases h

/-- The bytes that an escape stands for, read after its backslash. -/
def escape : Bytes → Except Failure (Bytes × Bytes)
  | [] => refuse .endInString []
  | b :: s =>
    if b = 117 then
      match unit s with
      | .error e => .error e
      | .ok (n, s) =>
        if 0xDC00 ≤ n ∧ n ≤ 0xDFFF then refuse .loneSurrogate s
        else if 0xD800 ≤ n ∧ n ≤ 0xDBFF then lowSurrogate n s
        else .ok (pointBytes n, s)
    else
      match shortEscape? b with
      | some c => .ok ([c], s)
      | none => refuse .invalidEscape s

/-- An escape takes the letter after its backslash at least. -/
theorem escape_length_lt {s b r : Bytes} (h : escape s = .ok (b, r)) : r.length < s.length := by
  unfold escape at h
  split at h
  · cases h
  · rename_i c s
    split at h
    · cases hu : unit s with
      | error e => simp [hu] at h
      | ok p =>
        simp only [hu] at h
        have := unit_length_lt (r := p.2) (n := p.1) hu
        split at h
        · cases h
        · split at h
          · have := lowSurrogate_length_lt h
            simp only [List.length_cons]; omega
          · cases h; simp only [List.length_cons]; omega
    · split at h <;> cases h
      simp

/-- The bytes of a string up to its closing quote; `taken` holds those before `s`, last first. -/
def contents (taken : Bytes) (s : Bytes) : Except Failure (Bytes × Bytes) :=
  match s with
  | [] => refuse .endInString []
  | b :: s =>
    if b = 34 then .ok (taken.reverse, s)
    else if b = 92 then
      match _read : escape s with
      | .error e => .error e
      | .ok (bytes, s') => contents (bytes.reverse ++ taken) s'
    else if b < 32 then refuse .controlCharacter s
    else contents (b :: taken) s
termination_by s.length
decreasing_by
  · have := escape_length_lt _read; simp only [List.length_cons]; omega
  · simp

/-- The contents of a string take the closing quote at least, even if there are none. -/
theorem contents_length_lt {taken s b r : Bytes} (h : contents taken s = .ok (b, r)) :
    r.length < s.length := by
  fun_induction contents taken s with
  | case1 => cases h
  | case2 => cases h; simp
  | case3 => cases h
  | case4 taken s bytes s' he _ ih =>
    have h1 := ih h
    have h2 := escape_length_lt he
    simp only [List.length_cons]; omega
  | case5 => cases h
  | case6 taken b s _ _ _ ih => exact Nat.lt_succ_of_lt (ih h)

/-- The text of a string, read after its opening quote. Bytes that are no UTF-8 are noticed once
the string is complete. They are reported as far before the closing quote as they stand before the
end of the decoded text, in which every escape is shorter than it is written. -/
def string (s : Bytes) : Except Failure (String × Bytes) :=
  match contents [] s with
  | .error e => .error e
  | .ok (bytes, rest) =>
    match Text.decode? bytes with
    | some text => .ok (text, rest)
    | none =>
      let left := (Text.afterFault bytes).length + 1 + rest.length
      refuse .invalidCodePoint (s.drop (s.length - left))

/-- So does a string. -/
theorem string_length_lt {s r : Bytes} {t : String} (h : string s = .ok (t, r)) :
    r.length < s.length := by
  unfold string at h
  cases hc : contents [] s with
  | error e => simp [hc] at h
  | ok p =>
    simp only [hc] at h
    split at h <;> cases h
    exact contents_length_lt (b := p.1) hc

/-- Input after an escape that is not decoded. -/
def skipEscape : Bytes → Except Failure Bytes
  | [] => refuse .endInString []
  | b :: s =>
    if b = 117 then
      match unit s with
      | .error e => .error e
      | .ok (_, s) => .ok s
    else if (shortEscape? b).isSome then .ok s
    else refuse .invalidEscape s

/-- An escape takes as much when it is skipped. -/
theorem skipEscape_length_lt {s r : Bytes} (h : skipEscape s = .ok r) : r.length < s.length := by
  unfold skipEscape at h
  split at h
  · cases h
  · rename_i c s
    split at h
    · cases hu : unit s with
      | error e => simp [hu] at h
      | ok p =>
        simp only [hu] at h
        have := unit_length_lt (r := p.2) (n := p.1) hu
        cases h
        simp only [List.length_cons]; omega
    · split at h <;> cases h
      simp

/-- Input after a string that is not decoded, read after its opening quote. -/
def skipString (s : Bytes) : Except Failure Bytes :=
  match s with
  | [] => refuse .endInString []
  | b :: s =>
    if b = 34 then .ok s
    else if b = 92 then
      match _read : skipEscape s with
      | .error e => .error e
      | .ok s' => skipString s'
    else if b < 32 then refuse .controlCharacter (b :: s)
    else skipString s
termination_by s.length
decreasing_by
  · have := skipEscape_length_lt _read; simp only [List.length_cons]; omega
  · simp

/-- A string takes as much when it is skipped. -/
theorem skipString_length_lt {s r : Bytes} (h : skipString s = .ok r) : r.length < s.length := by
  fun_induction skipString s with
  | case1 => cases h
  | case2 => cases h; simp
  | case3 => cases h
  | case4 s s' he _ ih =>
    have h1 := ih h
    have h2 := skipEscape_length_lt he
    simp only [List.length_cons]; omega
  | case5 => cases h
  | case6 b s _ _ _ ih => exact Nat.lt_succ_of_lt (ih h)

/-! ## Numerals -/

/-- The written form of a number. -/
structure Numeral where
  negative : Bool
  whole : Bytes
  /-- The digits after the point, if there is one. -/
  fraction : Option Bytes
  /-- The sign and digits of the exponent, if there is one. -/
  exponent : Option (Bool × Bytes)
  /-- Input after the numeral. -/
  rest : Bytes

/-- Whether the exponent has a minus sign, and input after its sign. -/
def exponentSign : Bytes → Bool × Bytes
  | [] => (false, [])
  | b :: s => if b = 43 then (false, s) else if b = 45 then (true, s) else (false, b :: s)

/-- The digits of an exponent. An end of the input is reported as `atEnd`. -/
def exponentDigits (atEnd : Cause) : Bytes → Except Failure (Bytes × Bytes)
  | [] => refuse atEnd []
  | b :: s =>
    if isDigit b then .ok (b :: s.takeWhile isDigit, s.dropWhile isDigit)
    else refuse .invalidNumber s

/-- The exponent, if there is one. -/
def exponent? (atEnd : Cause) : Bytes → Except Failure (Option (Bool × Bytes) × Bytes)
  | [] => .ok (none, [])
  | b :: s =>
    if b = 101 || b = 69 then
      match exponentDigits atEnd (exponentSign s).2 with
      | .error e => .error e
      | .ok (digits, r) => .ok (some ((exponentSign s).1, digits), r)
    else .ok (none, b :: s)

/-- The fraction, if there is one. -/
def fraction? (atEnd : Cause) : Bytes → Except Failure (Option Bytes × Bytes)
  | [] => .ok (none, [])
  | b :: s =>
    if b = 46 then
      if (s.takeWhile isDigit).isEmpty then
        if s.isEmpty then refuse atEnd [] else refuseNext .invalidNumber s
      else .ok (some (s.takeWhile isDigit), s.dropWhile isDigit)
    else .ok (none, b :: s)

/-- The digits before the point: a zero alone, or digits that start with another one. -/
def wholePart (atEnd : Cause) : Bytes → Except Failure (Bytes × Bytes)
  | [] => refuse atEnd []
  | b :: s =>
    if b = 48 then
      match s with
      | [] => .ok ([48], [])
      | c :: r => if isDigit c then refuse .invalidNumber r else .ok ([48], c :: r)
    else if isDigit b then .ok (b :: s.takeWhile isDigit, s.dropWhile isDigit)
    else refuse .invalidNumber s

/-- A numeral after its sign. An end of the input inside it is reported as `atEnd`. -/
def numeral (atEnd : Cause) (negative : Bool) (s : Bytes) : Except Failure Numeral :=
  match wholePart atEnd s with
  | .error e => .error e
  | .ok (whole, s) =>
    match fraction? atEnd s with
    | .error e => .error e
    | .ok (fraction, s) =>
      match exponent? atEnd s with
      | .error e => .error e
      | .ok (exponent, s) => .ok ⟨negative, whole, fraction, exponent, s⟩

theorem dropWhile_length_le (p : UInt8 → Bool) (s : Bytes) : (s.dropWhile p).length ≤ s.length :=
  (List.dropWhile_sublist _).length_le

/-- An exponent may have no sign. -/
theorem exponentSign_length_le (s : Bytes) : (exponentSign s).2.length ≤ s.length := by
  unfold exponentSign
  split
  · exact Nat.le_refl _
  · split
    · exact Nat.le_succ _
    · split
      · exact Nat.le_succ _
      · exact Nat.le_refl _

/-- An exponent has one digit at least. -/
theorem exponentDigits_length_lt {atEnd : Cause} {s d r : Bytes}
    (h : exponentDigits atEnd s = .ok (d, r)) : r.length < s.length := by
  unfold exponentDigits at h
  split at h
  · cases h
  · split at h <;> cases h
    exact Nat.lt_succ_of_le (dropWhile_length_le ..)

/-- There may be no exponent. -/
theorem exponent?_length_le {atEnd : Cause} {s r : Bytes} {e : Option (Bool × Bytes)}
    (h : exponent? atEnd s = .ok (e, r)) : r.length ≤ s.length := by
  unfold exponent? at h
  split at h
  · cases h; exact Nat.le_refl _
  · rename_i b s
    split at h
    · cases he : exponentDigits atEnd (exponentSign s).2 with
      | error e => simp [he] at h
      | ok p =>
        simp only [he] at h
        cases h
        have h1 := exponentDigits_length_lt (d := p.1) (r := p.2) he
        have h2 := exponentSign_length_le s
        simp only [List.length_cons]; omega
    · cases h; exact Nat.le_refl _

/-- There may be no fraction. -/
theorem fraction?_length_le {atEnd : Cause} {s r : Bytes} {f : Option Bytes}
    (h : fraction? atEnd s = .ok (f, r)) : r.length ≤ s.length := by
  unfold fraction? at h
  split at h
  · cases h; exact Nat.le_refl _
  · rename_i b s
    split at h
    · split at h
      · split at h <;> cases h
      · cases h; exact Nat.le_succ_of_le (dropWhile_length_le ..)
    · cases h; exact Nat.le_refl _

/-- A whole number has one digit at least. -/
theorem wholePart_length_lt {atEnd : Cause} {s w r : Bytes}
    (h : wholePart atEnd s = .ok (w, r)) : r.length < s.length := by
  unfold wholePart at h
  split at h
  · cases h
  · rename_i b s
    split at h
    · split at h
      · cases h; simp
      · split at h <;> cases h
        simp
    · split at h <;> cases h
      exact Nat.lt_succ_of_le (dropWhile_length_le ..)

/-- A numeral takes at least its first digit. -/
theorem numeral_length_lt {atEnd : Cause} {negative : Bool} {s : Bytes} {n : Numeral}
    (h : numeral atEnd negative s = .ok n) : n.rest.length < s.length := by
  unfold numeral at h
  cases hw : wholePart atEnd s with
  | error e => simp [hw] at h
  | ok w =>
    simp only [hw] at h
    have h1 := wholePart_length_lt (w := w.1) (r := w.2) hw
    cases hf : fraction? atEnd w.2 with
    | error e => simp [hf] at h
    | ok f =>
      simp only [hf] at h
      have h2 := fraction?_length_le (f := f.1) (r := f.2) hf
      cases he : exponent? atEnd f.2 with
      | error e => simp [he] at h
      | ok e =>
        simp only [he] at h
        have h3 := exponent?_length_le (e := e.1) (r := e.2) he
        cases h
        dsimp only
        omega

end JobLog.Json
