import JobLog.Json.Number
import JobLog.Json.Skip

/-!
# Readers of values

A `Reader` takes the value at the front of the input and leaves what follows it. It always takes
at least one byte, which is what lets lists and objects of any length be read by recursion on the
input. This module has the readers of scalars, of a choice between names and of lists.
-/

namespace JobLog.Json

/-- A function that reads one value and takes at least one byte of the input for it. -/
structure Reader (α : Type) where
  read : Bytes → Except Failure (α × Bytes)
  advances : ∀ {s : Bytes} {a : α} {r : Bytes}, read s = .ok (a, r) → r.length < s.length

/-- Apply a function to what is read. -/
def Reader.map {α β : Type} (f : α → β) (reader : Reader α) : Reader β where
  read s :=
    match reader.read s with
    | .error e => .error e
    | .ok (a, r) => .ok (f a, r)
  advances := by
    intro s b r h
    split at h <;> cases h
    exact reader.advances ‹_›

/-- What a number is found to be. -/
def Number.found : Number → Found
  | .integer n => .integer n
  | .real x => .real x

/-- Refuse a numeral, once it is read, since something else is expected. -/
def refuseNumeral {α : Type} (expected : String) (n : Except Failure Numeral) :
    Except Failure α :=
  match n with
  | .error e => .error e
  | .ok n =>
    match n.value with
    | .error e => .error e
    | .ok v => refuse (.wrongKind v.found expected) n.rest

/-- Refuse a word, once it is read, since something else is expected. -/
def refuseWord {α : Type} (found : Found) (expected : String) (r : Except Failure Bytes) :
    Except Failure α :=
  match r with
  | .error e => .error e
  | .ok r => refuse (.wrongKind found expected) r

/-- Refuse the value at the front of the input, where `expected` should be. Scalars are read
first, so that what is wrong inside them is reported instead. -/
def mismatch {α : Type} (expected : String) : Bytes → Except Failure α
  | [] => refuse .endInValue []
  | b :: s =>
    if b = 110 then refuseWord .null expected (word nullTail s)
    else if b = 116 then refuseWord (.flag true) expected (word trueTail s)
    else if b = 102 then refuseWord (.flag false) expected (word falseTail s)
    else if b = 45 then refuseNumeral expected (numeral .endInValue true s)
    else if isDigit b then refuseNumeral expected (numeral .endInValue false (b :: s))
    else if b = 34 then
      match string s with
      | .error e => .error e
      | .ok (text, r) => refuse (.wrongKind (.text text) expected) r
    else if b = 91 then refuse (.wrongKind .list expected) (b :: s)
    else if b = 123 then refuse (.wrongKind .object expected) (b :: s)
    else refuse .expectedValue s

/-- A mismatch is always refused. -/
theorem mismatch_ne_ok {α : Type} {expected : String} {s r : Bytes} {a : α} :
    mismatch expected s ≠ .ok (a, r) := by
  unfold mismatch refuseWord refuseNumeral
  split
  · simp [refuse]
  · repeat' split
    all_goals simp [refuse]

/-- The bounds of an integer type and the name that messages give it. -/
structure IntegerRange where
  name : String
  low : Int
  high : Int

/-- Take the integer value of a numeral. -/
def IntegerRange.take (range : IntegerRange) (n : Except Failure Numeral) :
    Except Failure (Int × Bytes) :=
  match n with
  | .error e => .error e
  | .ok n =>
    match n.value with
    | .error e => .error e
    | .ok (.real x) => refuse (.wrongKind (.real x) range.name) n.rest
    | .ok (.integer v) =>
      if range.low ≤ v ∧ v ≤ range.high then .ok (v, n.rest)
      else refuse (.outOfRange v range.name) n.rest

/-- Taking an integer leaves what its numeral leaves. -/
theorem IntegerRange.take_length_lt {range : IntegerRange} {atEnd : Cause} {negative : Bool}
    {s r : Bytes} {v : Int} (h : range.take (numeral atEnd negative s) = .ok (v, r)) :
    r.length < s.length := by
  unfold IntegerRange.take at h
  split at h
  · cases h
  · rename_i n hn
    have := numeral_length_lt hn
    repeat' split at h
    all_goals cases h
    exact this

/-- Read an integer of a range. -/
def IntegerRange.read (range : IntegerRange) (s : Bytes) : Except Failure (Int × Bytes) :=
  match skipSpace s with
  | [] => refuse .endInValue []
  | b :: t =>
    if b = 45 then range.take (numeral .endInValue true t)
    else if isDigit b then range.take (numeral .endInValue false (b :: t))
    else mismatch range.name (b :: t)

/-- An integer takes its numeral, whatever sign it has. -/
theorem IntegerRange.read_length_lt {range : IntegerRange} {s r : Bytes} {v : Int}
    (h : range.read s = .ok (v, r)) : r.length < s.length := by
  unfold IntegerRange.read at h
  have hs := skipSpace_length_le s
  split at h
  · cases h
  · rename_i b t heq
    simp only [heq, List.length_cons] at hs
    split at h
    · have := IntegerRange.take_length_lt h
      omega
    · split at h
      · have := IntegerRange.take_length_lt h
        simp only [List.length_cons] at this
        omega
      · exact absurd h mismatch_ne_ok

/-- The reader of an integer of a range. -/
def integer (range : IntegerRange) : Reader Int where
  read := range.read
  advances h := range.read_length_lt h

/-- Read a word that stands for `value`. -/
def readWord {α : Type} (value : α) (r : Except Failure Bytes) : Except Failure (α × Bytes) :=
  match r with
  | .error e => .error e
  | .ok r => .ok (value, r)

/-- The first letter of a word is taken before the others. -/
theorem readWord_length_le {α : Type} {a b : α} {cs s r : Bytes}
    (h : readWord a (word cs s) = .ok (b, r)) : r.length ≤ s.length := by
  unfold readWord at h
  split at h <;> cases h
  exact word_length_le ‹_›

/-- Read `true` or `false`. -/
def readFlag (s : Bytes) : Except Failure (Bool × Bytes) :=
  match skipSpace s with
  | [] => refuse .endInValue []
  | b :: t =>
    if b = 116 then readWord true (word trueTail t)
    else if b = 102 then readWord false (word falseTail t)
    else mismatch "a boolean" (b :: t)

theorem readFlag_length_lt {s r : Bytes} {v : Bool} (h : readFlag s = .ok (v, r)) :
    r.length < s.length := by
  unfold readFlag at h
  have hs := skipSpace_length_le s
  split at h
  · cases h
  · rename_i b t heq
    simp only [heq, List.length_cons] at hs
    split at h
    · have := readWord_length_le h
      omega
    · split at h
      · have := readWord_length_le h
        omega
      · exact absurd h mismatch_ne_ok

/-- The reader of `true` and `false`. -/
def flag : Reader Bool where
  read := readFlag
  advances := readFlag_length_lt

/-- Read a string, called `expected` where something else stands. -/
def readText (expected : String) (s : Bytes) : Except Failure (String × Bytes) :=
  match skipSpace s with
  | [] => refuse .endInValue []
  | b :: t => if b = 34 then string t else mismatch expected (b :: t)

theorem readText_length_lt {expected v : String} {s r : Bytes}
    (h : readText expected s = .ok (v, r)) : r.length < s.length := by
  unfold readText at h
  have hs := skipSpace_length_le s
  split at h
  · cases h
  · rename_i b t heq
    simp only [heq, List.length_cons] at hs
    split at h
    · have := string_length_lt h
      omega
    · exact absurd h mismatch_ne_ok

/-- The reader of a string, called `expected` where something else stands. -/
def text (expected : String) : Reader String where
  read := readText expected
  advances := readText_length_lt

/-- Read `null`, called `expected` where something else stands. -/
def readNothing (expected : String) (s : Bytes) : Except Failure (Unit × Bytes) :=
  match skipSpace s with
  | [] => refuse .endInValue []
  | b :: t => if b = 110 then readWord () (word nullTail t) else mismatch expected (b :: t)

theorem readNothing_length_lt {expected : String} {s r : Bytes} {v : Unit}
    (h : readNothing expected s = .ok (v, r)) : r.length < s.length := by
  unfold readNothing at h
  have hs := skipSpace_length_le s
  split at h
  · cases h
  · rename_i b t heq
    simp only [heq, List.length_cons] at hs
    split at h
    · have := readWord_length_le h
      omega
    · exact absurd h mismatch_ne_ok

/-- The reader of `null`, called `expected` where something else stands. -/
def nothing (expected : String) : Reader Unit where
  read := readNothing expected
  advances := readNothing_length_lt

/-- Read `null` or a value. -/
def readNullable {α : Type} (reader : Reader α) (s : Bytes) : Except Failure (Option α × Bytes) :=
  match skipSpace s with
  | [] => (reader.map some).read s
  | b :: t => if b = 110 then readWord none (word nullTail t) else (reader.map some).read s

theorem readNullable_length_lt {α : Type} {reader : Reader α} {s r : Bytes} {v : Option α}
    (h : readNullable reader s = .ok (v, r)) : r.length < s.length := by
  unfold readNullable at h
  have hs := skipSpace_length_le s
  split at h
  · exact (reader.map some).advances h
  · rename_i b t heq
    simp only [heq, List.length_cons] at hs
    split at h
    · have := readWord_length_le h
      omega
    · exact (reader.map some).advances h

/-- The reader of `null` or a value. -/
def nullable {α : Type} (reader : Reader α) : Reader (Option α) where
  read := readNullable reader
  advances := readNullable_length_lt

/-! ## Choices -/

/-- The value that a name chooses; the name has been read. -/
def choose {α : Type} (choices : List (String × α)) (name : Except Failure (String × Bytes)) :
    Except Failure (α × Bytes) :=
  match name with
  | .error e => .error e
  | .ok (name, r) =>
    match choices.lookup name with
    | some a => .ok (a, r)
    | none => refuse (.unknownChoice name (choices.map (·.1))) r

/-- A choice takes what its name takes. -/
theorem choose_eq_ok {α : Type} {choices : List (String × α)}
    {name : Except Failure (String × Bytes)} {a : α} {r : Bytes}
    (h : choose choices name = .ok (a, r)) : ∃ t, name = .ok (t, r) := by
  unfold choose at h
  split at h
  · cases h
  · split at h <;> cases h
    exact ⟨_, rfl⟩

/-- The rest of a choice written as an object: a colon, `null` and the closing bracket. -/
def closeChoice (s : Bytes) : Except Failure Bytes :=
  match colon s with
  | .error e => .error e
  | .ok s =>
    match (nothing "unit").read s with
    | .error e => .error e
    | .ok ((), s) =>
      match skipSpace s with
      | [] => refuse .endInObject []
      | b :: t => if b = 125 then .ok t else refuse .expectedValue (b :: t)

/-- The rest of a choice takes the closing bracket at least. -/
theorem closeChoice_length_lt {s r : Bytes} (h : closeChoice s = .ok r) :
    r.length < s.length := by
  unfold closeChoice at h
  split at h
  · cases h
  · rename_i u hc
    have h1 := colon_length_lt hc
    split at h
    · cases h
    · rename_i v hn
      have h2 := (nothing "unit").advances hn
      have h3 := skipSpace_length_le v
      split at h
      · cases h
      · rename_i b t heq
        simp only [heq, List.length_cons] at h3
        split at h <;> cases h
        omega

/-- Read a name out of a list, alone or as an object with the name as its only key. -/
def readChoice {α : Type} (choices : List (String × α)) (s : Bytes) : Except Failure (α × Bytes) :=
  match skipSpace s with
  | [] => refuse .endInValue []
  | b :: t =>
    if b = 34 then choose choices (string t)
    else if b = 123 then
      match choose choices (readText "variant identifier" t) with
      | .error e => .error e
      | .ok (a, r) =>
        match closeChoice r with
        | .error e => .error e
        | .ok r => .ok (a, r)
    else refuse .expectedValue t

/-- A choice takes a quote at least. -/
theorem readChoice_length_lt {α : Type} {choices : List (String × α)} {s r : Bytes} {v : α}
    (h : readChoice choices s = .ok (v, r)) : r.length < s.length := by
  unfold readChoice at h
  have hs := skipSpace_length_le s
  split at h
  · cases h
  · rename_i b t heq
    simp only [heq, List.length_cons] at hs
    split at h
    · obtain ⟨name, hn⟩ := choose_eq_ok h
      have := string_length_lt hn
      omega
    · split at h
      · split at h
        · cases h
        · rename_i a u hc
          obtain ⟨name, hn⟩ := choose_eq_ok hc
          have h1 := readText_length_lt hn
          split at h <;> cases h
          have h2 := closeChoice_length_lt ‹_›
          omega
      · cases h

/-- The reader of a name out of a list. -/
def choice {α : Type} (choices : List (String × α)) : Reader α where
  read := readChoice choices
  advances := readChoice_length_lt

/-! ## Lists -/

/-- Whether another element follows, and the input from there on: the element or the closing
bracket. `first` tells that no element came before. -/
def nextElement (first : Bool) (s : Bytes) : Except Failure (Bool × Bytes) :=
  match skipSpace s with
  | [] => refuse .endInList []
  | b :: t =>
    if b = 93 then .ok (false, b :: t)
    else if first then .ok (true, b :: t)
    else if b = 44 then
      match skipSpace t with
      | [] => refuse .endInValue []
      | c :: u => if c = 93 then refuse .trailingComma u else .ok (true, c :: u)
    else refuse .expectedListEnd t

/-- Looking for the next element takes nothing of it, nor the closing bracket. -/
theorem nextElement_length_le {first more : Bool} {s r : Bytes}
    (h : nextElement first s = .ok (more, r)) : r.length ≤ s.length := by
  unfold nextElement at h
  have hs := skipSpace_length_le s
  split at h
  · cases h
  · rename_i b t heq
    simp only [heq, List.length_cons] at hs
    split at h
    · cases h; simpa using hs
    · split at h
      · cases h; simpa using hs
      · split at h
        · have ht := skipSpace_length_le t
          split at h
          · cases h
          · rename_i c u heq
            split at h <;> cases h
            simp only [heq] at ht
            omega
        · cases h

/-- Input after the closing bracket of a list whose elements have been read. -/
def closeList (s : Bytes) : Except Failure Bytes :=
  match skipSpace s with
  | [] => refuse .endInList []
  | b :: t =>
    if b = 93 then .ok t
    else if b = 44 then
      match skipSpace t with
      | [] => refuse .trailingCharacters []
      | c :: u => refuse (if c = 93 then .trailingComma else .trailingCharacters) u
    else refuse .trailingCharacters t

/-- The end of a list takes its bracket. -/
theorem closeList_length_lt {s r : Bytes} (h : closeList s = .ok r) : r.length < s.length := by
  unfold closeList at h
  have hs := skipSpace_length_le s
  split at h
  · cases h
  · rename_i b t heq
    simp only [heq, List.length_cons] at hs
    split at h
    · cases h; omega
    · split at h
      · split at h <;> cases h
      · cases h

/-- The elements of a list of any length; `taken` holds those before `s`, last first. -/
def elements {α : Type} (reader : Reader α) (first : Bool) (taken : List α) (s : Bytes) :
    Except Failure (List α × Bytes) :=
  match _next : nextElement first s with
  | .error e => .error e
  | .ok (false, r) =>
    match closeList r with
    | .error e => .error e
    | .ok r => .ok (taken.reverse, r)
  | .ok (true, r) =>
    match _read : reader.read r with
    | .error e => .error e
    | .ok (a, r) => elements reader false (a :: taken) r
termination_by s.length
decreasing_by
  have h1 := nextElement_length_le _next
  have h2 := reader.advances _read
  omega

/-- A list takes its closing bracket at least. -/
theorem elements_length_lt {α : Type} {reader : Reader α} {first : Bool} {taken l : List α}
    {s r : Bytes} (h : elements reader first taken s = .ok (l, r)) : r.length < s.length := by
  fun_induction elements reader first taken s with
  | case1 => cases h
  | case2 => cases h
  | case3 first taken s u hn v hc =>
    cases h
    have h1 := nextElement_length_le hn
    have h2 := closeList_length_lt hc
    omega
  | case4 => cases h
  | case5 first taken s u hn a v hr ih =>
    have h1 := nextElement_length_le hn
    have h2 := reader.advances hr
    have h3 := ih h
    omega

/-! ## Members of objects -/

/-- Whether another member follows, and the input after the quote of its key or after the closing
bracket. `first` tells that no member came before. -/
def nextMember (first : Bool) (s : Bytes) : Except Failure (Bool × Bytes) :=
  match skipSpace s with
  | [] => refuse .endInObject []
  | b :: t =>
    if b = 125 then .ok (false, t)
    else if first then if b = 34 then .ok (true, t) else refuse .keyNotText t
    else if b = 44 then
      match skipSpace t with
      | [] => refuse .endInValue []
      | c :: u =>
        if c = 34 then .ok (true, u)
        else refuse (if c = 125 then .trailingComma else .keyNotText) u
    else refuse .expectedObjectEnd t

/-- A quote or the closing bracket of an object is taken. -/
theorem nextMember_length_lt {first more : Bool} {s r : Bytes}
    (h : nextMember first s = .ok (more, r)) : r.length < s.length := by
  unfold nextMember at h
  have hs := skipSpace_length_le s
  split at h
  · cases h
  · rename_i b t heq
    simp only [heq, List.length_cons] at hs
    split at h
    · cases h; omega
    · split at h
      · split at h <;> cases h
        omega
      · split at h
        · have ht := skipSpace_length_le t
          split at h
          · cases h
          · rename_i c u heq
            simp only [heq, List.length_cons] at ht
            split at h <;> cases h
            omega
        · cases h

/-- Refuse what follows a whole text other than white space. -/
def finish {α : Type} (a : α) (r : Bytes) : Except Failure α :=
  match skipSpace r with
  | [] => .ok a
  | _ :: t => refuse .trailingCharacters t

/-- Read a whole text: one value with nothing but white space around it. -/
def decode {α : Type} (reader : Reader α) (input : Bytes) : Except Refusal α :=
  match reader.read input with
  | .error e => .error (e.locate input)
  | .ok (a, r) => (finish a r).mapError (Failure.locate input)

end JobLog.Json
