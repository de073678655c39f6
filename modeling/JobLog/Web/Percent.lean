import JobLog.Text.Rows

/-!
# Percent-encoding

A byte is written as `%` and two upper-case hexadecimal digits. Which characters of ASCII are
written so depends on the part of an address; every other character always is, byte by byte.
-/

namespace JobLog.Web

/-- Whether a character must be encoded wherever it stands. -/
def isControl (c : Char) : Bool :=
  c.toNat < 0x20 || 0x7E < c.toNat

/-- What is encoded in a fragment. -/
def inFragment (c : Char) : Bool :=
  isControl c || c ∈ [' ', '"', '<', '>', '`']

/-- What is encoded in a query; the known schemes also encode the apostrophe. -/
def inQuery (known : Bool) (c : Char) : Bool :=
  isControl c || c ∈ [' ', '"', '#', '<', '>'] || (known && c == '\'')

/-- What is encoded in a path. -/
def inPath (c : Char) : Bool :=
  inFragment c || c ∈ ['#', '?', '{', '}']

/-- What is encoded in a user name or password. -/
def inUserInfo (c : Char) : Bool :=
  inPath c || c ∈ ['/', ':', ';', '=', '@', '[', '\\', ']', '^', '|']

/-- The upper-case hexadecimal digit of a number below 16. -/
def upperDigit (n : Nat) : Char :=
  if n < 10 then Char.ofNat (48 + n) else Char.ofNat (55 + n)

/-- An encoded byte. -/
def encodeByte (b : UInt8) : List Char :=
  ['%', upperDigit (b.toNat / 16), upperDigit (b.toNat % 16)]

/-- Characters with the chosen ones encoded. -/
def encodeChars (chosen : Char → Bool) (s : List Char) : List Char :=
  s.flatMap fun c => if chosen c then (String.utf8EncodeChar c).flatMap encodeByte else [c]

/-- The bytes of percent-encoded text. A `%` without two digits after it stands for itself. -/
def decodeBytes : List Char → List UInt8
  | '%' :: x :: y :: rest =>
    match Text.hexDigit? x, Text.hexDigit? y with
    | some high, some low => UInt8.ofNat (16 * high + low) :: decodeBytes rest
    | _, _ => String.utf8EncodeChar '%' ++ decodeBytes (x :: y :: rest)
  | c :: rest => String.utf8EncodeChar c ++ decodeBytes rest
  | [] => []
termination_by s => s.length

end JobLog.Web
