import JobLog.Pattern.Fault
import JobLog.Text.Blank

/-!
# Reading characters of a pattern

A reader goes through a pattern character by character and knows where it is. In an extended pattern
blanks and comments, which a `#` starts and the end of the line ends, may stand between the parts.
-/

namespace JobLog.Pattern

/-- Where a reader is: what is left, the place, whether the pattern is extended here, and the names
of groups so far with where they stand. -/
structure Cursor where
  rest : List Char
  place : Position
  extended : Bool
  names : List (String × Span)

/-- A reader of a part of a pattern. -/
abbrev Reader := StateT Cursor (Except Fault)

/-- Refuse the pattern. -/
def refuse {α : Type} (cause : Cause) (span : Span) : Reader α :=
  throw ⟨cause, span⟩

/-- The next character. -/
def peek? : Reader (Option Char) := do
  return (← get).rest.head?

/-- The place of the next character. -/
def here : Reader Position := do
  return (← get).place

/-- The stretch from a place up to here. -/
def since (start : Position) : Reader Span := do
  return ⟨start, ← here⟩

/-- The stretch of the next character. -/
def nextSpan : Reader Span := do
  let s ← get
  return ⟨s.place, (s.rest.head?.map s.place.after).getD s.place⟩

/-- Pass over one character. -/
def bump : Reader Unit :=
  modify fun s =>
    match s.rest with
    | [] => s
    | c :: rest => { s with rest, place := s.place.after c }

/-- Pass over some text if it comes next. -/
def bumpIf (text : String) : Reader Bool := do
  if text.toList.isPrefixOf (← get).rest then
    modify fun s =>
      { s with
        rest := s.rest.drop text.length
        place := text.toList.foldl Position.after s.place }
    return true
  else return false

/-- What is left after blanks and comments; `inside` a comment everything goes up to the end of the
line. -/
def afterBlanks (inside : Bool) (p : Position) : List Char → List Char × Position
  | [] => ([], p)
  | c :: rest =>
    if inside then afterBlanks (c ≠ '\n') (p.after c) rest
    else if Text.isBlank c then afterBlanks false (p.after c) rest
    else if c = '#' then afterBlanks true (p.after c) rest
    else (c :: rest, p)

/-- Pass over blanks and comments if the pattern is extended. -/
def bumpBlanks : Reader Unit :=
  modify fun s =>
    if s.extended then
      let (rest, place) := afterBlanks false s.place s.rest
      { s with rest, place }
    else s

/-- Pass over one character and the blanks after it. -/
def step : Reader Unit := do
  bump
  bumpBlanks

/-- The character that decides what follows the next one in an extended pattern: the first after
blanks and a sign of a comment. If there is none it is the one right after. -/
def afterComment? (marked : Bool) : List Char → Option Char
  | [] => none
  | c :: rest =>
    if Text.isBlank c then afterComment? marked rest
    else if !marked && c = '#' then afterComment? true rest
    else some c

/-- The character after the next one, past blanks in an extended pattern. -/
def second? : Reader (Option Char) := do
  let s ← get
  let tail := s.rest.drop 1
  if s.extended then return (afterComment? false tail).or tail.head?
  else return tail.head?

end JobLog.Pattern
