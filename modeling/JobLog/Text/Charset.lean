import JobLog.Text.Blank
import JobLog.Text.Utf8

/-!
# Bodies of answers

An answer names how its body is encoded in the `charset` of its content type. `ofBody` knows UTF-8,
which is also the default, and the one-byte encoding that goes by the names of Latin-1.
-/

namespace JobLog.Text

/-- What the bytes from 0x80 to 0x9F stand for in the one-byte encoding. -/
def upper : List Nat :=
  [0x20AC, 0x81, 0x201A, 0x0192, 0x201E, 0x2026, 0x2020, 0x2021, 0x02C6, 0x2030, 0x0160, 0x2039,
    0x0152, 0x8D, 0x017D, 0x8F, 0x90, 0x2018, 0x2019, 0x201C, 0x201D, 0x2022, 0x2013, 0x2014,
    0x02DC, 0x2122, 0x0161, 0x203A, 0x0153, 0x9D, 0x017E, 0x0178]

/-- A byte of the one-byte encoding. -/
def oneByte (b : UInt8) : Char :=
  if 0x80 ≤ b ∧ b < 0xA0 then Char.ofNat (upper.getD (b.toNat - 0x80) 0) else Char.ofNat b.toNat

/-- The names of the one-byte encoding. -/
def oneByteNames : List String :=
  ["ansi_x3.4-1968", "ascii", "cp1252", "cp819", "csisolatin1", "ibm819", "iso-8859-1", "iso-ir-100",
    "iso8859-1", "iso88591", "iso_8859-1", "iso_8859-1:1987", "l1", "latin1", "us-ascii",
    "windows-1252", "x-cp1252"]

/-- Text in lower case, as far as ASCII goes. -/
def lower (s : String) : String :=
  String.ofList (s.toList.map Char.toLower)

/-- The value of the parameter `charset` of a content type. -/
def charset? (contentType : String) : Option String :=
  ((splitOn ';' contentType).drop 1).findSome? fun parameter =>
    match splitOn '=' parameter with
    | [name, value] =>
      if lower (trim name) = "charset" then
        some (lower (String.ofList ((trim value).toList.filter (· ≠ '"'))))
      else none
    | _ => none

/-- The text of a body; a byte order mark at its start is no part of it. -/
def ofBody (contentType : Option String) : List UInt8 → String
  | 0xEF :: 0xBB :: 0xBF :: body => lossy body
  | body =>
    match contentType.bind charset? with
    | some name => if name ∈ oneByteNames then String.ofList (body.map oneByte) else lossy body
    | none => lossy body

end JobLog.Text
