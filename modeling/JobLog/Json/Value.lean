import JobLog.Json.Reader

/-!
# JSON values

`Value` is any JSON value, `Value.render` its compact text and `Value.parse` the reader of such
texts, which accepts up to 127 brackets inside each other.
-/

namespace JobLog.Json

/-- A JSON value; the members of an object stand in the order they are written. -/
inductive Value where
  | null
  | flag (b : Bool)
  | number (n : Number)
  | text (s : String)
  | list (items : List Value)
  | object (members : List (String × Value))

instance : Inhabited Value := ⟨.null⟩

/-- An integer as a value. -/
def Value.integer (n : Int) : Value :=
  .number (.integer n)

/-- Two hexadecimal digits of a byte. -/
def hexPair (n : Nat) : List Char :=
  [Nat.digitChar (n / 16), Nat.digitChar (n % 16)]

/-- How a character is written inside a string: quote, backslash and control characters are
escaped, by a letter where there is one. -/
def escapeChar (c : Char) : List Char :=
  if c = '"' then ['\\', '"']
  else if c = '\\' then ['\\', '\\']
  else if c.toNat = 8 then ['\\', 'b']
  else if c.toNat = 9 then ['\\', 't']
  else if c.toNat = 10 then ['\\', 'n']
  else if c.toNat = 12 then ['\\', 'f']
  else if c.toNat = 13 then ['\\', 'r']
  else if c.toNat < 32 then '\\' :: 'u' :: '0' :: '0' :: hexPair c.toNat
  else [c]

/-- A text as a JSON string with its quotes. -/
def renderText (s : String) : String :=
  String.ofList ('"' :: s.toList.flatMap escapeChar ++ ['"'])

/-- A number as JSON. -/
def Number.render : Number → String
  | .integer n => toString n
  | .real x => Decimal.plain.text x

mutual

/-- The compact text of a value. -/
def Value.render : Value → String
  | .null => "null"
  | .flag b => if b then "true" else "false"
  | .number n => n.render
  | .text s => renderText s
  | .list items => "[" ++ ",".intercalate (renderItems items) ++ "]"
  | .object members => "\x7b" ++ ",".intercalate (renderMembers members) ++ "\x7d"

/-- The texts of the elements of a list. -/
def renderItems : List Value → List String
  | [] => []
  | v :: items => v.render :: renderItems items

/-- The texts of the members of an object. -/
def renderMembers : List (String × Value) → List String
  | [] => []
  | (key, v) :: members => (renderText key ++ ":" ++ v.render) :: renderMembers members

end

/-- Read the members of an object up to its closing bracket; `taken` holds those before `s`, last
first. -/
def members {α : Type} (reader : Reader α) (first : Bool) (taken : List (String × α))
    (s : Bytes) : Except Failure (List (String × α) × Bytes) :=
  match _next : nextMember first s with
  | .error e => .error e
  | .ok (false, r) => .ok (taken.reverse, r)
  | .ok (true, r) =>
    match _key : string r with
    | .error e => .error e
    | .ok (key, r) =>
      match _colon : colon r with
      | .error e => .error e
      | .ok r =>
        match _read : reader.read r with
        | .error e => .error e
        | .ok (a, r) => members reader false ((key, a) :: taken) r
termination_by s.length
decreasing_by
  have h1 := nextMember_length_lt _next
  have h2 := string_length_lt _key
  have h3 := colon_length_lt _colon
  have h4 := reader.advances _read
  omega

theorem members_length_lt {α : Type} {reader : Reader α} {first : Bool}
    {taken l : List (String × α)} {s r : Bytes}
    (h : members reader first taken s = .ok (l, r)) : r.length < s.length := by
  fun_induction members reader first taken s with
  | case1 => cases h
  | case2 first taken s r hn => cases h; exact nextMember_length_lt hn
  | case3 => cases h
  | case4 => cases h
  | case5 => cases h
  | case6 first taken s u hn v key hk w hc a x hr ih =>
    have h1 := nextMember_length_lt hn
    have h2 := string_length_lt hk
    have h3 := colon_length_lt hc
    have h4 := reader.advances hr
    have h5 := ih h
    omega

/-- Read a numeral as a value. -/
def readNumber (n : Except Failure Numeral) : Except Failure (Value × Bytes) :=
  match n with
  | .error e => .error e
  | .ok n =>
    match n.value with
    | .error e => .error e
    | .ok v => .ok (.number v, n.rest)

theorem readNumber_length_lt {atEnd : Cause} {negative : Bool} {s r : Bytes} {v : Value}
    (h : readNumber (numeral atEnd negative s) = .ok (v, r)) : r.length < s.length := by
  unfold readNumber at h
  split at h
  · cases h
  · have := numeral_length_lt ‹_›
    split at h <;> cases h
    exact this

/-- Read a value that is no list and no object; its first byte is `b`. -/
def readScalar (b : UInt8) (t : Bytes) : Except Failure (Value × Bytes) :=
  if b = 110 then readWord .null (word nullTail t)
  else if b = 116 then readWord (.flag true) (word trueTail t)
  else if b = 102 then readWord (.flag false) (word falseTail t)
  else if b = 45 then readNumber (numeral .endInValue true t)
  else if isDigit b then readNumber (numeral .endInValue false (b :: t))
  else if b = 34 then
    match string t with
    | .error e => .error e
    | .ok (s, r) => .ok (.text s, r)
  else refuse .expectedValue t

theorem readScalar_length_le {b : UInt8} {t r : Bytes} {v : Value}
    (h : readScalar b t = .ok (v, r)) : r.length ≤ t.length := by
  unfold readScalar at h
  repeat' split at h
  · exact readWord_length_le h
  · exact readWord_length_le h
  · exact readWord_length_le h
  · exact Nat.le_of_lt (readNumber_length_lt h)
  · exact Nat.le_of_lt_succ (readNumber_length_lt h)
  · cases h
  · cases h; exact Nat.le_of_lt (string_length_lt ‹_›)
  · cases h

/-- Read a value whose items `inner` reads; `depth` more brackets may stand inside each other. -/
def readValue (depth : Nat) (inner : Reader Value) (s : Bytes) : Except Failure (Value × Bytes) :=
  match skipSpace s with
  | [] => refuse .endInValue []
  | b :: t =>
    if b = 91 ∨ b = 123 then
      if depth = 0 then refuse .tooDeep t
      else if b = 91 then
        match elements inner true [] t with
        | .error e => .error e
        | .ok (items, r) => .ok (.list items, r)
      else
        match members inner true [] t with
        | .error e => .error e
        | .ok (items, r) => .ok (.object items, r)
    else readScalar b t

theorem readValue_length_lt {depth : Nat} {inner : Reader Value} {s r : Bytes} {v : Value}
    (h : readValue depth inner s = .ok (v, r)) : r.length < s.length := by
  unfold readValue at h
  have hs := skipSpace_length_le s
  split at h
  · cases h
  · rename_i b t heq
    simp only [heq, List.length_cons] at hs
    split at h
    · split at h
      · cases h
      · split at h
        · split at h <;> cases h
          have := elements_length_lt ‹_›
          omega
        · split at h <;> cases h
          have := members_length_lt ‹_›
          omega
    · have := readScalar_length_le h
      omega

/-- The reader of any value with fewer than `depth` brackets inside each other. -/
def anyValue : Nat → Reader Value
  | 0 => ⟨fun s => refuse .tooDeep s, fun h => by cases h⟩
  | depth + 1 => ⟨readValue depth (anyValue depth), readValue_length_lt⟩

/-- The brackets that may stand inside each other, and one more. -/
def depthLimit : Nat := 128

/-- The value that a text writes. -/
def Value.parse (input : Bytes) : Except Refusal Value :=
  decode (anyValue depthLimit) input

/-- The member of an object by its key; nothing for other values. -/
def Value.get? (v : Value) (key : String) : Option Value :=
  match v with
  | .object members => members.lookup key
  | _ => none

end JobLog.Json
