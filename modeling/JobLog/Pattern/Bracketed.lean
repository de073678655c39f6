import JobLog.Pattern.Escape

/-!
# Sets of characters in brackets

A set lists characters, ranges, classes and further sets, and joins such lists by operations that all
bind alike and to the left. Sets that are open are kept in a list, the innermost first.
-/

namespace JobLog.Pattern

/-- The items of a set so far, the last first, and the stretch that they take. -/
structure Items where
  span : Span
  items : List Class

namespace Items

/-- No items yet. -/
def none (p : Position) : Items := ⟨.empty p, []⟩

/-- Add an item. -/
def push (s : Items) (c : Class) : Items :=
  ⟨⟨if s.items.isEmpty then c.span.start else s.span.start, c.span.stop⟩, c :: s.items⟩

/-- The items as one set. -/
def toClass (s : Items) : Class :=
  match s.items with
  | [] => .empty s.span
  | [c] => c
  | items => .union s.span items.reverse

end Items

/-- What a set is inside of. -/
inductive ClassFrame where
  /-- An open bracket, and the items before it. -/
  | opened (outer : Items) (span : Span) (negated : Bool)
  /-- The left side of an operation. -/
  | left (c : Class)

/-- The stretch in which the innermost open set begins. -/
def innermost : List ClassFrame → Option Span
  | [] => none
  | .opened _ span _ :: _ => some span
  | .left _ :: rest => innermost rest

/-- Refuse a set that has no end. -/
def refuseUnclosed {α : Type} (frames : List ClassFrame) : Reader α := do
  refuse .classUnclosed ((innermost frames).getD (.empty (← here)))

/-- Read an item that is one character. -/
def classAtom (c : Char) : Reader Atom :=
  if c = '\\' then escape else plain c

/-- Read an item or a range that starts with `c`. A minus sign before a bracket or another minus sign
starts no range. -/
def classItem (frames : List ClassFrame) (c : Char) : Reader Class := do
  let low ← classAtom c
  bumpBlanks
  match ← peek? with
  | none => refuseUnclosed frames
  | some d =>
    let next ← second?
    if d ≠ '-' ∨ next = some ']' ∨ next = some '-' then low.toClass
    else
      step
      match ← peek? with
      | none => refuseUnclosed frames
      | some e =>
        let high ← classAtom e
        let span : Span := ⟨low.span.start, high.span.stop⟩
        let low ← low.toBound
        let high ← high.toBound
        if low.char ≤ high.char then return .range span low high
        else refuse .rangeOrder span

/-- The names of classes of ASCII characters. -/
def asciiClassNames : List String :=
  ["alnum", "alpha", "ascii", "blank", "cntrl", "digit", "graph", "lower", "print", "punct", "space",
    "upper", "word", "xdigit"]

/-- The length of a named class at the beginning of a text, and whether it is negated. -/
def asciiClass? : List Char → Option (Nat × Bool)
  | '[' :: ':' :: tail =>
    let negated := tail.head? = some '^'
    let body := if negated then tail.drop 1 else tail
    let name := body.takeWhile (· ≠ ':')
    if asciiClassNames.contains (String.ofList name) && [':', ']'].isPrefixOf (body.drop name.length)
    then some (name.length + (if negated then 5 else 4), negated)
    else none
  | _ => none

/-- Pass over a number of characters. -/
def bumpMany : Nat → Reader Unit
  | 0 => return ()
  | count + 1 => do
    bump
    bumpMany count

/-- Take the minus signs at the beginning of a set for themselves. -/
def leadingDashes (start : Position) (items : Items) : Nat → Reader Items
  | 0 => return items
  | fuel + 1 => do
    match ← peek? with
    | none =>
      let span ← since start
      refuse .classUnclosed (if items.items.isEmpty then span else .empty start)
    | some '-' =>
      let items := items.push (.literal ⟨← nextSpan, '-', false⟩)
      step
      leadingDashes start items fuel
    | some _ => return items

/-- Open a set: a caret negates it, and a closing bracket that would leave it empty stands for
itself. -/
def openClass (outer : Items) : Reader (ClassFrame × Items) := do
  let start ← here
  step
  let negated := (← peek?) = some '^'
  if negated then step
  let items ← leadingDashes start (.none (← here)) ((← get).rest.length + 1)
  if items.items.isEmpty && (← peek?) = some ']' then
    let items := items.push (.literal ⟨← nextSpan, ']', false⟩)
    step
    if (← peek?).isNone then refuse .classUnclosed (← since start)
    return (.opened outer (← since start) negated, items)
  else return (.opened outer (← since start) negated, items)

/-- The operations between sets. -/
def operations : List String :=
  ["&&", "--", "~~"]

/-- Join a set with the left side of the operation before it. -/
def join (c : Class) : List ClassFrame → Class × List ClassFrame
  | .left l :: frames => (.both ⟨l.span.start, c.span.stop⟩ l c, frames)
  | frames => (c, frames)

/-- Read the rest of a set. -/
def bracketed (frames : List ClassFrame) (items : Items) : Nat → Reader Node
  | 0 => refuseUnclosed frames
  | fuel + 1 => do
    bumpBlanks
    let rest := (← get).rest
    match rest.head? with
    | none => refuseUnclosed frames
    | some '[' =>
      match asciiClass? rest with
      | some (length, negated) =>
        let start ← here
        bumpMany length
        bracketed frames (items.push (.ascii (← since start) negated)) fuel
      | none =>
        let (frame, inner) ← openClass items
        bracketed (frame :: frames) inner fuel
    | some ']' =>
      bump
      let stop ← here
      match join items.toClass frames with
      | (inner, .opened outer span negated :: rest) =>
        let span : Span := ⟨span.start, stop⟩
        if rest.isEmpty then return .bracketed span negated inner
        else bracketed rest (outer.push (.bracketed span negated inner)) fuel
      | (_, frames) => refuseUnclosed frames
    | some c =>
      if operations.any fun o => o.toList.isPrefixOf rest then
        bumpMany 2
        let (left, frames) := join items.toClass frames
        bracketed (.left left :: frames) (.none (← here)) fuel
      else
        let item ← classItem frames c
        bracketed frames (items.push item) fuel

/-- Read a set whose opening bracket comes next. -/
def classSet : Reader Node := do
  let (frame, items) ← openClass (.none (← here))
  bracketed [frame] items ((← get).rest.length + 1)

end JobLog.Pattern
