import JobLog.Config.Whole
import JobLog.Pattern.Bracketed
import JobLog.Text.Letter

/-!
# Whole patterns

A pattern is a sequence of parts, of alternatives, and of groups with names or flags. Groups and
alternatives that are open are kept in a list, the innermost first. A pattern ends at a closing
brace, so that no number of repetitions is ever complete.
-/

namespace JobLog.Pattern

/-! ## Flags -/

/-- A flag, or the sign that the flags after it are switched off, with where it stands. -/
abbrev FlagItem := Option Flag × Span

/-- The flags in the order in which they are switched. -/
def switches : List FlagItem → Switches
  | [] => []
  | (some flag, _) :: rest => (flag, true) :: switches rest
  | (none, _) :: rest => rest.filterMap fun (flag, _) => flag.map (·, false)

/-- Read flags up to a colon or a closing bracket; those read so far come last first. -/
def flagItems (items : List FlagItem) : Nat → Reader (List FlagItem)
  | 0 => return items.reverse
  | fuel + 1 => do
    let span ← nextSpan
    match ← peek? with
    | none => refuse .flagUnfinished (.empty (← here))
    | some c =>
      if c = ':' ∨ c = ')' then
        match items with
        | (none, dash) :: _ => refuse .flagDangling dash
        | _ => return items.reverse
      else
        let item ← if c = '-' then pure none else
          match Flag.ofChar? c with
          | some flag => pure (some flag)
          | none => refuse .flagUnknown span
        match items.lookup item with
        | some earlier =>
          refuse (if item.isNone then .flagNegatedAgain earlier else .flagDuplicate earlier) span
        | none =>
          bump
          flagItems ((item, span) :: items) fuel

/-! ## Names of groups -/

/-- Whether a character can stand in the name of a group. -/
def isNameChar (first : Bool) (c : Char) : Bool :=
  if first then c = '_' || Text.isLetter c
  else c = '_' || c = '.' || c = '[' || c = ']' || Text.isAlphanumeric c

/-- Read a name up to the closing angle bracket. -/
def nameChars (taken : List Char) : Nat → Reader (List Char)
  | 0 => return taken.reverse
  | fuel + 1 => do
    match ← peek? with
    | none => refuse .nameUnfinished (.empty (← here))
    | some c =>
      if c = '>' then return taken.reverse
      else if isNameChar taken.isEmpty c then
        bump
        nameChars (c :: taken) fuel
      else refuse .nameInvalid (← nextSpan)

/-- Read the name of a group, which must be a new one. -/
def groupName : Reader Unit := do
  let start ← here
  let name := String.ofList (← nameChars [] ((← get).rest.length + 1))
  let span ← since start
  bump
  if name = "" then refuse .nameEmpty (.empty start)
  match (← get).names.lookup name with
  | some earlier => refuse (.nameDuplicate earlier) span
  | none => modify fun s => { s with names := (name, span) :: s.names }

/-! ## Groups -/

/-- What an opening bracket begins. -/
inductive Opening where
  /-- Flags that hold from here on. -/
  | flags (span : Span) (switches : Switches)
  | group (span : Span) (switches : Switches)

/-- The signs of conditions on the text around a place. -/
def lookArounds : List String :=
  ["?=", "?!", "?<=", "?<!"]

/-- Pass over one of several texts if it comes next. -/
def bumpOne : List String → Reader Bool
  | [] => return false
  | text :: rest => do
    if ← bumpIf text then return true
    bumpOne rest

/-- Read what follows a question mark at the beginning of a group: flags. -/
def flagOpening (bracket question : Span) : Reader Opening := do
  if (← peek?).isNone then refuse .groupUnclosed bracket
  let items ← flagItems [] ((← get).rest.length + 1)
  let closed := (← peek?) = some ')'
  bump
  if closed then
    if items.isEmpty then refuse .repetitionMissing question
    return .flags (← since bracket.start) (switches items)
  else return .group bracket (switches items)

/-- Read an opening bracket and what belongs to it. -/
def opening : Reader Opening := do
  let bracket ← nextSpan
  step
  if ← bumpOne lookArounds then refuse .lookAround (← since bracket.start)
  let question := Span.empty (← here)
  if ← bumpOne ["?P<", "?<"] then
    groupName
    return .group bracket []
  else if ← bumpIf "?" then flagOpening bracket question
  else return .group bracket []

/-! ## Sequences and alternatives -/

/-- The parts of a sequence so far, the last first. -/
structure Parts where
  start : Position
  parts : List Node

namespace Parts

/-- Add a part. -/
def push (s : Parts) (n : Node) : Parts :=
  { s with parts := n :: s.parts }

/-- The parts as one pattern that ends at a place. -/
def toNode (s : Parts) (stop : Position) : Node :=
  match s.parts with
  | [] => .empty ⟨s.start, stop⟩
  | [n] => n
  | parts => .sequence ⟨s.start, stop⟩ parts.reverse

end Parts

/-- What a sequence is inside of. -/
inductive Frame where
  /-- A group, with the parts before it and whether the pattern was extended there. -/
  | group (before : Parts) (span : Span) (switches : Switches) (extended : Bool)
  /-- The alternatives before the sequence, the last first. -/
  | branches (start : Position) (branches : List Node)

/-- Switch to an extended pattern or back. -/
def extend (switches : Switches) : Reader Unit :=
  modify fun s => { s with extended := (switches.lookup .extended).getD s.extended }

/-- Take up what an opening bracket begins. -/
def pushOpening (frames : List Frame) (parts : Parts) : Reader (List Frame × Parts) := do
  match ← opening with
  | .flags span switches =>
    extend switches
    return (frames, parts.push (.flags span switches))
  | .group span switches =>
    let extended := (← get).extended
    extend switches
    return (.group parts span switches extended :: frames, ⟨← here, []⟩)

/-- End an alternative. -/
def pushBranch (frames : List Frame) (parts : Parts) : Reader (List Frame × Parts) := do
  let branch := parts.toNode (← here)
  bump
  let next : Parts := ⟨← here, []⟩
  match frames with
  | .branches start branches :: rest => return (.branches start (branch :: branches) :: rest, next)
  | _ => return (.branches parts.start [branch] :: frames, next)

/-- The alternatives that end with a sequence, and what they are inside of. -/
def popBranches (frames : List Frame) (parts : Parts) (stop : Position) : Node × List Frame :=
  match frames with
  | .branches start branches :: rest =>
    (.alternation ⟨start, stop⟩ (parts.toNode stop :: branches).reverse, rest)
  | _ => (parts.toNode stop, frames)

/-- End a group. -/
def popGroup (frames : List Frame) (parts : Parts) : Reader (List Frame × Parts) := do
  match popBranches frames parts (← here) with
  | (inner, .group before span switches extended :: rest) =>
    bump
    modify fun s => { s with extended }
    return (rest, before.push (.group (← since span.start) switches inner))
  | _ => refuse .groupUnopened (← nextSpan)

/-- End the pattern. -/
def popAll (frames : List Frame) (parts : Parts) : Reader Node := do
  match popBranches frames parts (← here) with
  | (_, .group _ span _ _ :: _) => refuse .groupUnclosed span
  | (n, _) => return n

/-! ## Repetitions -/

/-- The part that a sign of repetition repeats, and those before it. -/
def repeated (parts : Parts) : Reader (Node × Parts) := do
  match parts.parts with
  | [] | .flags .. :: _ | .empty _ :: _ => refuse .repetitionMissing (.empty (← here))
  | n :: rest => return (n, { parts with parts := rest })

/-- Read a sign of repetition, which a question mark may follow. -/
def repetition (parts : Parts) : Reader Parts := do
  let (n, parts) ← repeated parts
  bump
  if (← peek?) = some '?' then bump
  return parts.push (.repetition ⟨n.span.start, ← here⟩ n)

/-- Pass over digits and the blanks after each. -/
def digits (taken : List Char) : Nat → Reader (List Char)
  | 0 => return taken.reverse
  | fuel + 1 => do
    match ← peek? with
    | some c =>
      if c.isDigit then
        step
        digits (c :: taken) fuel
      else return taken.reverse
    | none => return taken.reverse

/-- Pass over blanks, whether or not the pattern is extended. -/
def anyBlanks : Nat → Reader Unit
  | 0 => return ()
  | fuel + 1 => do
    if ((← peek?).map Text.isBlank).getD false then
      bump
      anyBlanks fuel

/-- Find the fault in a number of repetitions, which has no end. -/
def counted (parts : Parts) : Reader Parts := do
  let start ← here
  let _ ← repeated parts
  step
  let fuel := (← get).rest.length + 1
  if (← peek?).isNone then refuse .repetitionUnclosed (← since start)
  anyBlanks fuel
  let first ← here
  let number ← digits [] fuel
  let span ← since first
  anyBlanks fuel
  if (← peek?).isSome then
    match Config.digits (UInt32.size - 1) 0 number with
    | .ok _ => if number.isEmpty then refuse .repetitionDecimal span
    | .error _ => refuse .decimalInvalid span
  refuse .repetitionUnclosed (← since start)

/-! ## The pattern -/

/-- Read the rest of a pattern. -/
def nodes (frames : List Frame) (parts : Parts) : Nat → Reader Node
  | 0 => popAll frames parts
  | fuel + 1 => do
    bumpBlanks
    match ← peek? with
    | none => popAll frames parts
    | some c =>
      let (frames, parts) ←
        if c = '(' then pushOpening frames parts
        else if c = ')' then popGroup frames parts
        else if c = '|' then pushBranch frames parts
        else if c = '[' then do pure (frames, parts.push (← classSet))
        else if c = '?' ∨ c = '*' ∨ c = '+' then do pure (frames, ← repetition parts)
        else if c = '\x7b' then do pure (frames, ← counted parts)
        else do pure (frames, parts.push (← atom c).toNode)
      nodes frames parts fuel

/-- Read a pattern. -/
def parse (s : String) : Except Fault Node :=
  (nodes [] ⟨.first, []⟩ (s.length + 1)).run' ⟨s.toList, .first, false, []⟩

end JobLog.Pattern
