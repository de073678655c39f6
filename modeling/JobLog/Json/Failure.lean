import JobLog.Text.Quoted
import JobLog.Decimal.Shortest

/-!
# Why a JSON text is refused

A failure has a cause and the input that was left when it was noticed. Since reading only ever
drops bytes from the front, what is left fixes the position: `Failure.locate` turns it into the line
and the column, counted in bytes, of the last byte that was taken.
-/

namespace JobLog.Json

/-- Input that has not been read yet. -/
abbrev Bytes := List UInt8

/-- A value of another kind than the one asked for, as messages name it. -/
inductive Found where
  | null
  | flag (b : Bool)
  | integer (n : Int)
  | real (x : Float)
  | text (s : String)
  | list
  | object

/-- What is wrong with a text. -/
inductive Cause where
  | endInValue
  | endInList
  | endInObject
  | endInString
  | expectedColon
  | expectedListEnd
  | expectedObjectEnd
  | expectedWord
  | expectedValue
  | invalidEscape
  | invalidNumber
  | numberOutOfRange
  | invalidCodePoint
  | controlCharacter
  | keyNotText
  | loneSurrogate
  | endInSurrogate
  | trailingComma
  | trailingCharacters
  | tooDeep
  | wrongKind (found : Found) (expected : String)
  | outOfRange (found : Int) (expected : String)
  | wrongLength (length : Nat) (expected : String)
  | missingMember (name : String)
  | duplicateMember (name : String)
  | unknownChoice (name : String) (choices : List String)

/-- A cause together with the input that was left when it was noticed. -/
structure Failure where
  cause : Cause
  rest : Bytes

/-- Refuse for a cause, with what is left of the input. -/
def refuse {α : Type} (cause : Cause) (rest : Bytes) : Except Failure α :=
  .error ⟨cause, rest⟩

/-- Refuse for a cause that lies in the next byte, which counts as read if there is one. -/
def refuseNext {α : Type} (cause : Cause) (rest : Bytes) : Except Failure α :=
  .error ⟨cause, rest.drop 1⟩

/-- A kind and, for scalars, the value between backticks or quotes. -/
def Found.describe : Found → String
  | .null => "null"
  | .flag b => "boolean `" ++ (if b then "true" else "false") ++ "`"
  | .integer n => "integer `" ++ toString n ++ "`"
  | .real x => "floating point `" ++ Decimal.plain.text x ++ "`"
  | .text s => "string " ++ Text.quoted s
  | .list => "sequence"
  | .object => "map"

/-- Alternatives between backticks: `a`, `a` or `b`, or one of `a`, `b`, `c`. -/
def alternatives : List String → String
  | [] => "there are no variants"
  | [a] => "`" ++ a ++ "`"
  | [a, b] => "`" ++ a ++ "` or `" ++ b ++ "`"
  | names => "one of " ++ ", ".intercalate (names.map fun n => "`" ++ n ++ "`")

/-- The words for a cause. -/
def Cause.describe : Cause → String
  | .endInValue => "EOF while parsing a value"
  | .endInList => "EOF while parsing a list"
  | .endInObject => "EOF while parsing an object"
  | .endInString => "EOF while parsing a string"
  | .expectedColon => "expected `:`"
  | .expectedListEnd => "expected `,` or `]`"
  | .expectedObjectEnd => "expected `,` or `\x7d`"
  | .expectedWord => "expected ident"
  | .expectedValue => "expected value"
  | .invalidEscape => "invalid escape"
  | .invalidNumber => "invalid number"
  | .numberOutOfRange => "number out of range"
  | .invalidCodePoint => "invalid unicode code point"
  | .controlCharacter => "control character (\\u0000-\\u001F) found while parsing a string"
  | .keyNotText => "key must be a string"
  | .loneSurrogate => "lone leading surrogate in hex escape"
  | .endInSurrogate => "unexpected end of hex escape"
  | .trailingComma => "trailing comma"
  | .trailingCharacters => "trailing characters"
  | .tooDeep => "recursion limit exceeded"
  | .wrongKind found expected => "invalid type: " ++ found.describe ++ ", expected " ++ expected
  | .outOfRange found expected =>
    "invalid value: integer `" ++ toString found ++ "`, expected " ++ expected
  | .wrongLength length expected =>
    "invalid length " ++ toString length ++ ", expected " ++ expected
  | .missingMember name => "missing field `" ++ name ++ "`"
  | .duplicateMember name => "duplicate field `" ++ name ++ "`"
  | .unknownChoice name choices =>
    "unknown variant `" ++ name ++ "`, expected " ++ alternatives choices

/-- The line, from 1, and the number of bytes on it after the bytes `taken`. -/
def position (taken : Bytes) : Nat × Nat :=
  taken.foldl
    (fun (line, column) (b : UInt8) => if b = 10 then (line + 1, 0) else (line, column + 1))
    ((1, 0) : Nat × Nat)

/-- A cause with the line and the column of the last byte that was taken. -/
structure Refusal where
  cause : Cause
  line : Nat
  column : Nat

/-- Locate a failure in the input that was being read. -/
def Failure.locate (input : Bytes) (failure : Failure) : Refusal :=
  let (line, column) := position (input.take (input.length - failure.rest.length))
  ⟨failure.cause, line, column⟩

/-- The words for a refusal. -/
def Refusal.message (refusal : Refusal) : String :=
  refusal.cause.describe ++ " at line " ++ toString refusal.line ++ " column " ++
    toString refusal.column

end JobLog.Json
