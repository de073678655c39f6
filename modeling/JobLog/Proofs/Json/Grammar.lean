import JobLog.Json.Skip

/-!
# The grammar of JSON texts

A form is a relation between inputs: `Form s r` says that `s` starts with the form and that `r`
follows it, and `Form s a r` also says what it writes. Forms do not look at what follows them.
No reader is used to define them.

Strings are written in two forms. `Quoted` is text: UTF-8, with escapes that stand for characters.
`Unchecked` asks for the syntax of escapes and for the absence of raw control characters only.
`Loose` is any JSON value of any depth, its strings unchecked.
-/

namespace JobLog.Json

open String (utf8EncodeChar)

/-! ## Bytes -/

/-- Space, tab, line feed and carriage return. -/
def Blank (b : UInt8) : Prop :=
  b = 32 ∨ b = 9 ∨ b = 10 ∨ b = 13
  deriving Decidable

/-- A decimal digit. -/
def Digit (b : UInt8) : Prop :=
  48 ≤ b ∧ b ≤ 57
  deriving Decidable

/-- A byte that stands for itself in a string: no control character, quote or backslash. -/
def Plain (b : UInt8) : Prop :=
  32 ≤ b ∧ b ≠ 34 ∧ b ≠ 92
  deriving Decidable

/-- A hexadecimal digit, in either case, and its value. -/
inductive HexDigit : UInt8 → Nat → Prop where
  | digit (b : UInt8) (hLow : 48 ≤ b) (hHigh : b ≤ 57) : HexDigit b (b.toNat - 48)
  | upper (b : UInt8) (hLow : 65 ≤ b) (hHigh : b ≤ 70) : HexDigit b (b.toNat - 65 + 10)
  | lower (b : UInt8) (hLow : 97 ≤ b) (hHigh : b ≤ 102) : HexDigit b (b.toNat - 97 + 10)

/-- White space, possibly none. -/
inductive Space : Bytes → Bytes → Prop where
  | none (r : Bytes) : Space r r
  | blank (b : UInt8) (s r : Bytes) (hBlank : Blank b) (hRest : Space s r) : Space (b :: s) r

/-! ## Strings -/

/-- The letters that may follow a backslash, and the characters they stand for. -/
def shortEscapes : List (UInt8 × Char) :=
  [(34, '"'), (92, '\\'), (47, '/'), (98, '\x08'), (102, '\x0c'), (110, '\n'), (114, '\r'),
    (116, '\t')]

/-- A UTF-16 unit: `u` and four hexadecimal digits. -/
inductive Unit16 : Bytes → Nat → Bytes → Prop where
  | hex (a b c d : UInt8) (i j k l : Nat) (r : Bytes) (hA : HexDigit a i) (hB : HexDigit b j)
      (hC : HexDigit c k) (hD : HexDigit d l) :
      Unit16 (117 :: a :: b :: c :: d :: r) (((i * 16 + j) * 16 + k) * 16 + l) r

/-- An escape after its backslash, and the character it stands for: a letter, a unit that is a
character, or a pair of surrogates. -/
inductive Escape : Bytes → Char → Bytes → Prop where
  | short (b : UInt8) (c : Char) (r : Bytes) (hShort : (b, c) ∈ shortEscapes) :
      Escape (b :: r) c r
  | unit (s r : Bytes) (c : Char) (hUnit : Unit16 s c.toNat r) : Escape s c r
  | pair (s t r : Bytes) (high low : Nat) (c : Char) (hHigh : 0xD800 ≤ high ∧ high ≤ 0xDBFF)
      (hLow : 0xDC00 ≤ low ∧ low ≤ 0xDFFF) (hFirst : Unit16 s high (92 :: t))
      (hSecond : Unit16 t low r)
      (hChar : c.toNat = (high - 0xD800) * 0x400 + (low - 0xDC00) + 0x10000) : Escape s c r

/-- The characters of a string and its closing quote, read after the opening one. -/
inductive Quoted : Bytes → List Char → Bytes → Prop where
  | close (r : Bytes) : Quoted (34 :: r) [] r
  | raw (c : Char) (s r : Bytes) (cs : List Char) (hControl : 32 ≤ c.toNat) (hQuote : c ≠ '"')
      (hBackslash : c ≠ '\\') (hRest : Quoted s cs r) : Quoted (utf8EncodeChar c ++ s) (c :: cs) r
  | escape (c : Char) (s t r : Bytes) (cs : List Char) (hEscape : Escape s c t)
      (hRest : Quoted t cs r) : Quoted (92 :: s) (c :: cs) r

/-- A string that is not decoded, read after its opening quote. -/
inductive Unchecked : Bytes → Bytes → Prop where
  | close (r : Bytes) : Unchecked (34 :: r) r
  | raw (b : UInt8) (s r : Bytes) (hPlain : Plain b) (hRest : Unchecked s r) :
      Unchecked (b :: s) r
  | short (b : UInt8) (c : Char) (s r : Bytes) (hShort : (b, c) ∈ shortEscapes)
      (hRest : Unchecked s r) : Unchecked (92 :: b :: s) r
  | unit (n : Nat) (s t r : Bytes) (hUnit : Unit16 s n t) (hRest : Unchecked t r) :
      Unchecked (92 :: s) r

/-! ## Numerals -/

/-- The digits of a whole number: a zero alone, or digits that start with another one. -/
inductive Whole : Bytes → Prop where
  | zero : Whole [48]
  | digits (d : UInt8) (ds : Bytes) (hFirst : Digit d) (hNonzero : d ≠ 48)
      (hRest : ∀ e ∈ ds, Digit e) : Whole (d :: ds)

/-- Nothing, or a point and digits. -/
inductive Fraction : Bytes → Prop where
  | none : Fraction []
  | digits (d : UInt8) (ds : Bytes) (hDigits : ∀ e ∈ d :: ds, Digit e) : Fraction (46 :: d :: ds)

/-- Nothing, or `e` or `E`, a sign if need be, and digits. -/
inductive Exponent : Bytes → Prop where
  | none : Exponent []
  | digits (e : UInt8) (sign : Bytes) (d : UInt8) (ds : Bytes) (hE : e = 101 ∨ e = 69)
      (hSign : sign = [] ∨ sign = [43] ∨ sign = [45]) (hDigits : ∀ e ∈ d :: ds, Digit e) :
      Exponent (e :: (sign ++ d :: ds))

/-- A number of any size. -/
inductive Numeric : Bytes → Bytes → Prop where
  | number (sign whole fraction exponent r : Bytes) (hSign : sign = [] ∨ sign = [45])
      (hWhole : Whole whole) (hFraction : Fraction fraction) (hExponent : Exponent exponent) :
      Numeric (sign ++ (whole ++ (fraction ++ (exponent ++ r)))) r

/-- The number that decimal digits write. -/
def decimal (ds : Bytes) : Nat :=
  ds.foldl (fun n d => n * 10 + (d.toNat - 48)) 0

/-- An integer without fraction and exponent; `-0` is none. -/
inductive Integer : Bytes → Int → Bytes → Prop where
  | positive (ds r : Bytes) (hWhole : Whole ds) : Integer (ds ++ r) (decimal ds) r
  | negative (ds r : Bytes) (hWhole : Whole ds) (hNonzero : ds ≠ [48]) :
      Integer (45 :: (ds ++ r)) (-decimal ds) r

/-! ## Values of any kind -/

/-- The byte that opens a bracket. -/
def Frame.opening : Frame → UInt8
  | .list => 91
  | .object => 123

/-- The start of an item: at the front if it is the first one, else after a comma. -/
inductive Comma : Bool → Bytes → Bytes → Prop where
  | first (s : Bytes) : Comma true s s
  | next (s t : Bytes) (hSpace : Space s (44 :: t)) : Comma false s t

/-- What stands before an item's value: a key and a colon in an object, nothing in a list. -/
inductive Label : Frame → Bytes → Bytes → Prop where
  | list (s : Bytes) : Label .list s s
  | object (s key colon r : Bytes) (hOpen : Space s (34 :: key)) (hKey : Unchecked key colon)
      (hColon : Space colon (58 :: r)) : Label .object s r

mutual

/-- Any value. The strings in it, keys among them, are not decoded. -/
inductive Loose : Bytes → Bytes → Prop where
  | null (r : Bytes) : Loose (Text.encode "null" ++ r) r
  | true (r : Bytes) : Loose (Text.encode "true" ++ r) r
  | false (r : Bytes) : Loose (Text.encode "false" ++ r) r
  | number (s r : Bytes) (hNumber : Numeric s r) : Loose s r
  | text (s r : Bytes) (hText : Unchecked s r) : Loose (34 :: s) r
  | bracket (frame : Frame) (s r : Bytes) (hItems : Items frame true s r) :
      Loose (frame.opening :: s) r

/-- The items up to a closing bracket; `first` tells that none stands before. -/
inductive Items : Frame → Bool → Bytes → Bytes → Prop where
  | close (frame : Frame) (first : Bool) (s r : Bytes) (hClose : Space s (frame.close :: r)) :
      Items frame first s r
  | item (frame : Frame) (first : Bool) (s label space value rest r : Bytes)
      (hComma : Comma first s label) (hLabel : Label frame label space)
      (hSpace : Space space value) (hValue : Loose value rest)
      (hRest : Items frame .false rest r) : Items frame first s r

end

/-! ## Scalars, members and elements -/

/-- A string and its text. -/
inductive Textual : Bytes → String → Bytes → Prop where
  | text (s r : Bytes) (t : String) (hText : Quoted s t.toList r) : Textual (34 :: s) t r

/-- `true` or `false`. -/
inductive Truth : Bytes → Bool → Bytes → Prop where
  | true (r : Bytes) : Truth (Text.encode "true" ++ r) true r
  | false (r : Bytes) : Truth (Text.encode "false" ++ r) false r

/-- `null` or a value. -/
inductive Nullable {α : Type} (form : Bytes → α → Bytes → Prop) :
    Bytes → Option α → Bytes → Prop where
  | null (r : Bytes) : Nullable form (Text.encode "null" ++ r) none r
  | value (s r : Bytes) (a : α) (hValue : form s a r) : Nullable form s (some a) r

/-- Where a value stands in the input, and what follows it. -/
structure Span where
  start : Bytes
  rest : Bytes

/-- A member of an object: its decoded key and its value. -/
structure Member where
  key : String
  value : Span

/-- An element of a list, which is any value. -/
inductive Element : Bytes → Span → Bytes → Prop where
  | value (s value r : Bytes) (hSpace : Space s value) (hValue : Loose value r) :
      Element s ⟨value, r⟩ r

/-- A member of an object, its key a text and its value any value. -/
inductive Entry : Bytes → Member → Bytes → Prop where
  | member (s colon space value r : Bytes) (keyStart : Bytes) (key : String)
      (hOpen : Space s keyStart) (hKey : Textual keyStart key colon)
      (hColon : Space colon (58 :: space)) (hSpace : Space space value)
      (hValue : Loose value r) : Entry s ⟨key, value, r⟩ r

/-- Items separated by commas up to a closing bracket. -/
inductive Sequence {α : Type} (item : Bytes → α → Bytes → Prop) (close : UInt8) :
    Bool → Bytes → List α → Bytes → Prop where
  | close (first : Bool) (s r : Bytes) (hClose : Space s (close :: r)) :
      Sequence item close first s [] r
  | item (first : Bool) (s start rest r : Bytes) (a : α) (as : List α)
      (hComma : Comma first s start) (hItem : item start a rest)
      (hRest : Sequence item close .false rest as r) : Sequence item close first s (a :: as) r

/-- An object and its members. -/
inductive ObjectOf : Bytes → List Member → Bytes → Prop where
  | object (s r : Bytes) (members : List Member) (hMembers : Sequence Entry 125 true s members r) :
      ObjectOf (123 :: s) members r

/-- A list and its elements. -/
inductive ListOf : Bytes → List Span → Bytes → Prop where
  | list (s r : Bytes) (elements : List Span) (hElements : Sequence Element 93 true s elements r) :
      ListOf (91 :: s) elements r

end JobLog.Json
