import JobLog.Pattern.Syntax

/-!
# Faults of patterns

What is wrong with a pattern, and the text that shows it: the pattern with its faulty stretches
underlined. The lines of a pattern with several lines are numbered, and stretches over more than one
line are described in words.
-/

namespace JobLog.Pattern

/-- What is wrong with a pattern. `earlier` is the place of what is repeated. -/
inductive Cause where
  | classEscape
  | rangeOrder
  | rangeBound
  | classUnclosed
  | decimalInvalid
  | hexNoScalar
  | hexDigit
  | escapeUnfinished
  | escapeUnknown
  | flagDangling
  | flagDuplicate (earlier : Span)
  | flagNegatedAgain (earlier : Span)
  | flagUnfinished
  | flagUnknown
  | nameDuplicate (earlier : Span)
  | nameEmpty
  | nameInvalid
  | nameUnfinished
  | groupUnclosed
  | groupUnopened
  | nesting
  | repetitionDecimal
  | repetitionUnclosed
  | repetitionMissing
  | boundaryUnclosed
  | boundaryUnfinished
  | propertyInvalid
  | backreference
  | lookAround
  | unicodeNotAllowed
  | invalidUtf8
  | propertyUnknown
  | perlUnavailable
  | caseUnavailable
  deriving DecidableEq, Repr

/-- How deep the parts of a pattern may be nested. -/
def nestingLimit : Nat := 250

def Cause.message : Cause → String
  | .classEscape => "invalid escape sequence found in character class"
  | .rangeOrder => "invalid character class range, the start must be <= the end"
  | .rangeBound => "invalid range boundary, must be a literal"
  | .classUnclosed => "unclosed character class"
  | .decimalInvalid => "decimal literal invalid"
  | .hexNoScalar => "hexadecimal literal is not a Unicode scalar value"
  | .hexDigit => "invalid hexadecimal digit"
  | .escapeUnfinished => "incomplete escape sequence, reached end of pattern prematurely"
  | .escapeUnknown => "unrecognized escape sequence"
  | .flagDangling => "dangling flag negation operator"
  | .flagDuplicate _ => "duplicate flag"
  | .flagNegatedAgain _ => "flag negation operator repeated"
  | .flagUnfinished => "expected flag but got end of regex"
  | .flagUnknown => "unrecognized flag"
  | .nameDuplicate _ => "duplicate capture group name"
  | .nameEmpty => "empty capture group name"
  | .nameInvalid => "invalid capture group character"
  | .nameUnfinished => "unclosed capture group name"
  | .groupUnclosed => "unclosed group"
  | .groupUnopened => "unopened group"
  | .nesting =>
    "exceed the maximum number of nested parentheses/brackets (" ++ toString nestingLimit ++ ")"
  | .repetitionDecimal => "repetition quantifier expects a valid decimal"
  | .repetitionUnclosed => "unclosed counted repetition"
  | .repetitionMissing => "repetition operator missing expression"
  | .boundaryUnclosed =>
    "special word boundary assertion is either unclosed or contains an invalid character"
  | .boundaryUnfinished =>
    "found either the beginning of a special word boundary or a bounded repetition on a \\b with " ++
      "an opening brace, but no closing brace"
  | .propertyInvalid => "invalid Unicode character class"
  | .backreference => "backreferences are not supported"
  | .lookAround => "look-around, including look-ahead and look-behind, is not supported"
  | .unicodeNotAllowed => "Unicode not allowed here"
  | .invalidUtf8 => "pattern can match invalid UTF-8"
  | .propertyUnknown => "Unicode property not found"
  | .perlUnavailable =>
    "Unicode-aware Perl class not found (make sure the unicode-perl feature is enabled)"
  | .caseUnavailable =>
    "Unicode-aware case insensitivity matching is not available (make sure the unicode-case " ++
      "feature is enabled)"

/-- The place of something that the fault repeats. -/
def Cause.earlier? : Cause → Option Span
  | .flagDuplicate earlier | .flagNegatedAgain earlier | .nameDuplicate earlier => some earlier
  | _ => none

/-- A fault and where it is. -/
structure Fault where
  cause : Cause
  span : Span
  deriving DecidableEq, Repr

namespace Fault

/-- The stretches to be shown, from left to right. -/
def spans (f : Fault) : List Span :=
  f.cause.earlier?.toList ++ [f.span]

/-- The lines of a pattern. A line ends with a line feed, which a carriage return may precede; what
follows the last one is a line only if it is not empty. -/
def lines (s : List Char) : List (List Char) :=
  let ended := (s.splitOn '\n').dropLast.map fun line =>
    if line.getLast? = some '\r' then line.dropLast else line
  match (s.splitOn '\n').getLast? with
  | none | some [] => ended
  | some last => ended ++ [last]

/-- Carets under the stretches of one line, after `column` columns. -/
def carets (column : Nat) : List Span → String
  | [] => ""
  | span :: rest =>
    let skipped := span.start.column - 1 - column
    let width := max 1 (span.stop.column - span.start.column)
    String.ofList (List.replicate skipped ' ' ++ List.replicate width '^') ++
      carets (column + skipped + width) rest

/-- A line of the pattern with what is underlined in it; `width` is the width of line numbers, none
if lines are not numbered. -/
def shownLine (f : Fault) (width : Nat) (line : List Char) (number : Nat) : String :=
  let label :=
    if width = 0 then "    "
    else
      let digits := toString number
      String.ofList (List.replicate (width - digits.length) ' ') ++ digits ++ ": "
  let here := f.spans.filter fun s => s.start.line = s.stop.line ∧ s.start.line = number
  let indent := String.ofList (List.replicate (if width = 0 then 4 else width + 2) ' ')
  label ++ String.ofList line ++ "\n" ++ if here = [] then "" else indent ++ carets 0 here ++ "\n"

/-- Where a stretch over several lines begins and ends. -/
def described (s : Span) : String :=
  "on line " ++ toString s.start.line ++ " (column " ++ toString s.start.column ++
    ") through line " ++ toString s.stop.line ++ " (column " ++ toString (s.stop.column - 1) ++ ")"

/-- The text about a fault of a pattern. -/
def message (pattern : String) (f : Fault) : String :=
  let s := pattern.toList
  let parts := lines s
  let count := if s.getLast? = some '\n' then parts.length + 1 else parts.length
  let width := if count ≤ 1 then 0 else (toString count).length
  let shown := String.join (parts.zipIdx.map fun (line, i) => f.shownLine width line (i + 1))
  let long := f.spans.filter fun s => s.start.line ≠ s.stop.line
  let divider := String.ofList (List.replicate 79 '~') ++ "\n"
  "regex parse error:\n" ++
    (if s.contains '\n' then
      divider ++ shown ++ divider ++
        if long = [] then "" else "\n".intercalate (long.map described) ++ "\n"
    else shown) ++
    "error: " ++ f.cause.message

end Fault

end JobLog.Pattern
