import JobLog.Pattern.Cursor
import JobLog.Text.Rows

/-!
# Single characters and escapes

What matches one character or none: plain characters, a dot, anchors, and escape sequences. A pattern
stands inside braces and ends at the first closing one, so that sequences with a name or a number in
braces are never complete.
-/

namespace JobLog.Pattern

/-- A part of a pattern that holds no other. -/
inductive Atom where
  | literal (l : Literal)
  | anything (span : Span)
  | assertion (span : Span) (word : Bool)
  | property (span : Span)
  | perl (span : Span) (negated : Bool)

namespace Atom

def span : Atom → Span
  | .literal l => l.span
  | .anything span | .assertion span _ | .property span | .perl span _ => span

def toNode : Atom → Node
  | .literal l => .literal l
  | .anything span => .anything span
  | .assertion span word => .assertion span word
  | .property span => .property span
  | .perl span negated => .perl span negated

/-- An atom as an item of a class. -/
def toClass : Atom → Reader Class
  | .literal l => return .literal l
  | .property span => return .property span
  | .perl span negated => return .perl span negated
  | a => refuse .classEscape a.span

/-- An atom as an end of a range. -/
def toBound : Atom → Reader Literal
  | .literal l => return l
  | a => refuse .rangeBound a.span

end Atom

/-- Read hexadecimal digits after those whose value is `value`. -/
def hexDigits (value : Nat) : Nat → Reader Nat
  | 0 => return value
  | count + 1 => do
    match ← peek? with
    | none => refuse .escapeUnfinished (.empty (← here))
    | some c =>
      match Text.hexDigit? c with
      | none => refuse .hexDigit (← nextSpan)
      | some d =>
        step
        hexDigits (value * 16 + d) count

/-- Find the fault in a number in braces, which has no end: a character that is no digit, or the
end of the pattern. -/
def hexInBraces (start : Position) : Nat → Reader Unit
  | 0 => return ()
  | fuel + 1 => do
    match ← peek? with
    | none => refuse .escapeUnfinished (← since start)
    | some c =>
      if (Text.hexDigit? c).isNone then refuse .hexDigit (← nextSpan)
      step
      hexInBraces start fuel

/-- Read a character by its number; `count` digits are wanted. -/
def hex (start : Position) (count : Nat) : Reader Atom := do
  step
  match ← peek? with
  | none => refuse .escapeUnfinished (.empty (← here))
  | some '\x7b' =>
    let brace ← here
    step
    hexInBraces brace ((← get).rest.length + 1)
    refuse .escapeUnfinished (← since brace)
  | some _ =>
    let digits ← here
    let value ← hexDigits 0 count
    if h : value.isValidChar then
      return .literal ⟨← since start, Char.ofNatAux value h, count = 2⟩
    else refuse .hexNoScalar (← since digits)

/-- Pass over all that is left. -/
def bumpAll : Reader Unit :=
  modify fun s => { s with rest := [], place := s.rest.foldl Position.after s.place }

/-- Read a property of characters, which has one letter. -/
def property (start : Position) : Reader Atom := do
  step
  match ← peek? with
  | none => refuse .escapeUnfinished (.empty (← here))
  | some '\x7b' =>
    bumpAll
    refuse .escapeUnfinished (.empty (← here))
  | some '\\' => refuse .propertyInvalid (← nextSpan)
  | some _ =>
    step
    return .property (← since start)

/-- Whether a character can stand in the name of a kind of bound. -/
def isBoundary (c : Char) : Bool :=
  c.isAlpha || c = '-'

/-- Pass over the name of a kind of bound. -/
def boundaryName : Nat → Reader Unit
  | 0 => return ()
  | fuel + 1 => do
    if ((← peek?).map isBoundary).getD false then
      step
      boundaryName fuel

/-- Look at a brace after a bound of a word: the name of a kind of bound has no end, and anything
else is left to be read as a count. -/
def boundary (start : Position) : Reader Unit := do
  if (← peek?) = some '\x7b' then
    let before ← get
    step
    match ← peek? with
    | none => refuse .boundaryUnfinished (← since start)
    | some c =>
      if isBoundary c then
        boundaryName (← get).rest.length
        refuse .boundaryUnclosed (← since before.place)
      else modify fun _ => before

/-- The characters that stand for themselves after a backslash: those of ASCII that are neither
letters nor digits nor angle brackets. -/
def isEscapable (c : Char) : Bool :=
  c.toNat < 128 && !c.isAlphanum && c ≠ '<' && c ≠ '>'

/-- The control characters that are written as a letter. -/
def control? : Char → Option Char
  | 'a' => some '\x07'
  | 'f' => some '\x0c'
  | 't' => some '\t'
  | 'n' => some '\n'
  | 'r' => some '\r'
  | 'v' => some '\x0b'
  | _ => none

/-- Read an escape sequence that is one character after the backslash. -/
def letterEscape (start : Position) (c : Char) : Reader Atom := do
  bump
  let span ← since start
  if isEscapable c then return .literal ⟨span, c, false⟩
  match control? c with
  | some control => return .literal ⟨span, control, false⟩
  | none =>
    if c = 'A' ∨ c = 'z' then return .assertion span false
    else if c = 'b' then
      boundary start
      return .assertion span true
    else if c = 'B' ∨ c = '<' ∨ c = '>' then return .assertion span true
    else refuse .escapeUnknown span

/-- Read an escape sequence. -/
def escape : Reader Atom := do
  let start ← here
  bump
  match ← peek? with
  | none => refuse .escapeUnfinished (← since start)
  | some c =>
    if c.isDigit then refuse .backreference ⟨start, (← nextSpan).stop⟩
    else if c = 'x' then hex start 2
    else if c = 'u' then hex start 4
    else if c = 'U' then hex start 8
    else if c = 'p' ∨ c = 'P' then property start
    else if c = 'd' ∨ c = 's' ∨ c = 'w' then
      bump
      return .perl (← since start) false
    else if c = 'D' ∨ c = 'S' ∨ c = 'W' then
      bump
      return .perl (← since start) true
    else letterEscape start c

/-- Read a character for itself. -/
def plain (c : Char) : Reader Atom := do
  let span ← nextSpan
  bump
  return .literal ⟨span, c, false⟩

/-- Read an atom that starts with `c`. -/
def atom (c : Char) : Reader Atom := do
  if c = '\\' then escape
  else if c = '.' then
    let span ← nextSpan
    bump
    return .anything span
  else if c = '^' ∨ c = '$' then
    let span ← nextSpan
    bump
    return .assertion span false
  else plain c

end JobLog.Pattern
