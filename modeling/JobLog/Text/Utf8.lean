/-!
# Text from bytes

`decode?` accepts valid UTF-8 only. `lossy` accepts any bytes: each maximal part of an ill-formed
sequence that could have begun a character becomes one U+FFFD. `fault?` tells where the first such
part is.
-/

namespace JobLog.Text

/-- The text with these UTF-8 bytes, if they are valid. -/
def decode? (bytes : List UInt8) : Option String :=
  String.fromUTF8? ⟨bytes.toArray⟩

/-- The UTF-8 bytes of a text. -/
def encode (s : String) : List UInt8 :=
  s.toUTF8.data.toList

/-- The length of a character that starts with byte `b` and the range of its second byte. -/
def lead (b : UInt8) : Option (Nat × UInt8 × UInt8) :=
  if b < 0x80 then some (1, 0, 0)
  else if b < 0xC2 then none
  else if b < 0xE0 then some (2, 0x80, 0xBF)
  else if b = 0xE0 then some (3, 0xA0, 0xBF)
  else if b = 0xED then some (3, 0x80, 0x9F)
  else if b < 0xF0 then some (3, 0x80, 0xBF)
  else if b = 0xF0 then some (4, 0x90, 0xBF)
  else if b < 0xF4 then some (4, 0x80, 0xBF)
  else if b = 0xF4 then some (4, 0x80, 0x8F)
  else none

/-- Read up to `count` continuation bytes, the first one between `low` and `high`; `point` is the
code point so far. Returns the character if it is complete, and what is left. -/
def continuation : Nat → UInt8 → UInt8 → Nat → List UInt8 → Option Char × List UInt8
  | 0, _, _, point, rest => (some (Char.ofNat point), rest)
  | _ + 1, _, _, _, [] => (none, [])
  | count + 1, low, high, point, b :: rest =>
    if low ≤ b ∧ b ≤ high then
      continuation count 0x80 0xBF (point * 64 + (b.toNat - 0x80)) rest
    else (none, b :: rest)

theorem continuation_length_le (count : Nat) (low high : UInt8) (point : Nat)
    (bytes : List UInt8) : (continuation count low high point bytes).2.length ≤ bytes.length := by
  induction bytes generalizing count low high point with
  | nil => cases count <;> simp [continuation]
  | cons b rest ih =>
    cases count with
    | zero => simp [continuation]
    | succ count =>
      simp only [continuation]
      split
      · exact Nat.le_succ_of_le (ih ..)
      · exact Nat.le_refl _

/-- The first character of the bytes, nothing for an ill-formed part, and what is left. -/
def head (b : UInt8) (rest : List UInt8) : Option Char × List UInt8 :=
  match lead b with
  | none => (none, rest)
  | some (size, low, high) =>
    let bits := if size = 1 then b.toNat else if size = 2 then b.toNat % 32
      else if size = 3 then b.toNat % 16 else b.toNat % 8
    continuation (size - 1) low high bits rest

theorem head_length_le (b : UInt8) (rest : List UInt8) :
    (head b rest).2.length ≤ rest.length := by
  unfold head
  split
  · exact Nat.le_refl _
  · exact continuation_length_le ..

/-- The characters of the bytes, ill-formed parts replaced. -/
def lossyChars (bytes : List UInt8) (shown : List Char) : List Char :=
  match bytes with
  | [] => shown.reverse
  | b :: rest => lossyChars (head b rest).2 ((head b rest).1.getD '\uFFFD' :: shown)
termination_by bytes.length
decreasing_by exact Nat.lt_succ_of_le (head_length_le b rest)

/-- The text of the bytes, each ill-formed part replaced by U+FFFD. -/
def lossy (bytes : List UInt8) : String :=
  String.ofList (lossyChars bytes [])

/-- The bytes after the one at which the first ill-formed part starts. -/
def afterFault (bytes : List UInt8) : List UInt8 :=
  match bytes with
  | [] => []
  | b :: rest =>
    match (head b rest).1 with
    | none => rest
    | some _ => afterFault (head b rest).2
termination_by bytes.length
decreasing_by exact Nat.lt_succ_of_le (head_length_le b rest)

/-- An ill-formed part of bytes. -/
structure Utf8Fault where
  index : Nat
  /-- How many bytes it has; nothing if the bytes end within a character. -/
  length : Option Nat
  deriving DecidableEq, Repr

def Utf8Fault.message (fault : Utf8Fault) : String :=
  match fault.length with
  | some n =>
    "invalid utf-8 sequence of " ++ toString n ++ " bytes from index " ++ toString fault.index
  | none => "incomplete utf-8 byte sequence from index " ++ toString fault.index

/-- The first ill-formed part of bytes that follow `index` well-formed ones. -/
def faultFrom? (index : Nat) (bytes : List UInt8) : Option Utf8Fault :=
  match bytes with
  | [] => none
  | b :: rest =>
    let left := (head b rest).2
    let size := 1 + rest.length - left.length
    match (head b rest).1 with
    | none => some ⟨index, if (lead b).isSome && left.isEmpty then none else some size⟩
    | some _ => faultFrom? (index + size) (head b rest).2
termination_by bytes.length
decreasing_by exact Nat.lt_succ_of_le (head_length_le b rest)

/-- The first ill-formed part of the bytes, if there is one. -/
def fault? (bytes : List UInt8) : Option Utf8Fault :=
  faultFrom? 0 bytes

end JobLog.Text
