import JobLog.Pattern.Group

/-!
# Usable patterns

A pattern must not be nested too deeply, and it must be one that can be matched character by
character without knowing which characters are letters: no class of digits, blanks or words beyond
ASCII, no letters without regard to case, nothing that could match a part of a character, and no
bounds of words beyond ASCII.
-/

namespace JobLog.Pattern

/-! ## Depth -/

/-- One level deeper, if that is allowed. -/
def deeper (depth : Nat) (span : Span) : Except Fault Nat :=
  if depth < nestingLimit then .ok (depth + 1) else .error ⟨.nesting, span⟩

mutual

/-- Check how deep a set is nested. -/
def Class.checkDepth (depth : Nat) : Class → Except Fault Unit
  | .bracketed span _ inner => do
    let depth ← deeper depth span
    inner.checkDepth depth
  | .union span items => do
    let depth ← deeper depth span
    Class.checkDepths depth items
  | .both span left right => do
    let depth ← deeper depth span
    left.checkDepth depth
    right.checkDepth depth
  | _ => .ok ()

/-- Check how deep the items of a set are nested. -/
def Class.checkDepths (depth : Nat) : List Class → Except Fault Unit
  | [] => .ok ()
  | c :: rest => do
    c.checkDepth depth
    Class.checkDepths depth rest

end

mutual

/-- Check how deep a pattern is nested. -/
def Node.checkDepth (depth : Nat) : Node → Except Fault Unit
  | .bracketed span _ inner => do
    let depth ← deeper depth span
    inner.checkDepth depth
  | .repetition span inner | .group span _ inner => do
    let depth ← deeper depth span
    inner.checkDepth depth
  | .alternation span parts | .sequence span parts => do
    let depth ← deeper depth span
    Node.checkDepths depth parts
  | _ => .ok ()

/-- Check how deep the parts of a pattern are nested. -/
def Node.checkDepths (depth : Nat) : List Node → Except Fault Unit
  | [] => .ok ()
  | n :: rest => do
    n.checkDepth depth
    Node.checkDepths depth rest

end

/-! ## Ways of matching -/

/-- How characters are matched at some place of a pattern. -/
structure Manner where
  ignoreCase : Bool
  unicode : Bool
  deriving DecidableEq, Repr

namespace Manner

/-- How characters are matched if nothing is said. -/
def standard : Manner := ⟨false, true⟩

/-- Switch flags. -/
def switch (m : Manner) (switches : Switches) : Manner :=
  ⟨(switches.lookup .ignoreCase).getD m.ignoreCase, (switches.lookup .unicode).getD m.unicode⟩

/-- Check a character that stands for itself: one that is written as a byte beyond ASCII is a part of
a character where characters do not count. -/
def checkByte (m : Manner) (l : Literal) : Except Fault Unit :=
  if !m.unicode && l.byte && 128 ≤ l.char.toNat then .error ⟨.invalidUtf8, l.span⟩ else .ok ()

/-- Check a character. -/
def checkLiteral (m : Manner) (l : Literal) : Except Fault Unit :=
  if m.ignoreCase && m.unicode then .error ⟨.caseUnavailable, l.span⟩ else m.checkByte l

/-- Check a character of a set. -/
def checkMember (m : Manner) (l : Literal) : Except Fault Unit := do
  m.checkByte l
  if !m.unicode && 128 ≤ l.char.toNat then throw ⟨.unicodeNotAllowed, l.span⟩

/-- Check a class of digits, blanks or words. -/
def checkPerl (m : Manner) (span : Span) (negated : Bool) : Except Fault Unit :=
  if m.unicode then .error ⟨.perlUnavailable, span⟩
  else if negated then .error ⟨.invalidUtf8, span⟩
  else .ok ()

/-- Refuse a class by a property. -/
def checkProperty (m : Manner) (span : Span) : Except Fault Unit :=
  .error ⟨if m.unicode then .propertyUnknown else .unicodeNotAllowed, span⟩

/-- Check a set whose case must not matter and that may be negated; `plain` if no characters are
listed in it, so that there is no case to regard. -/
def checkSet (m : Manner) (span : Span) (negated plain : Bool) : Except Fault Unit :=
  if m.unicode then
    if m.ignoreCase && !plain then .error ⟨.caseUnavailable, span⟩ else .ok ()
  else if negated then .error ⟨.invalidUtf8, span⟩
  else .ok ()

end Manner

mutual

/-- Check a set; tells whether no characters are listed in it. -/
def Class.check (m : Manner) : Class → Except Fault Bool
  | .empty _ => .ok true
  | .literal l => do
    m.checkMember l
    return false
  | .range _ low high => do
    m.checkMember low
    m.checkMember high
    return false
  | .ascii span negated => do
    m.checkSet span negated false
    return false
  | .property span => do
    m.checkProperty span
    return false
  | .perl span negated => do
    m.checkPerl span negated
    return false
  | .bracketed span negated inner => do
    m.checkSet span negated (← inner.check m)
    return true
  | .union _ items => Class.checkAll m items
  | .both _ left right => do
    let plainLeft ← left.check m
    let plainRight ← right.check m
    if m.unicode then
      m.checkSet right.span false plainRight
      m.checkSet left.span false plainLeft
    return true

/-- Check the items of a set; tells whether no characters are listed in any. -/
def Class.checkAll (m : Manner) : List Class → Except Fault Bool
  | [] => .ok true
  | c :: rest => do
    let plain ← c.check m
    let others ← Class.checkAll m rest
    return plain && others

end

/-- What a check of a pattern finds out: how characters are matched after it, and whether it asks for
the bounds of words beyond ASCII. -/
abbrev Checked := Manner × Bool

mutual

/-- Check a pattern. -/
def Node.check (m : Manner) : Node → Except Fault Checked
  | .empty _ => .ok (m, false)
  | .flags _ switches => .ok (m.switch switches, false)
  | .literal l => do
    m.checkLiteral l
    return (m, false)
  | .anything span =>
    if m.unicode then .ok (m, false) else .error ⟨.invalidUtf8, span⟩
  | .assertion _ word => .ok (m, word && m.unicode)
  | .property span => do
    m.checkProperty span
    return (m, false)
  | .perl span negated => do
    m.checkPerl span negated
    return (m, false)
  | .bracketed span negated inner => do
    m.checkSet span negated (← inner.check m)
    return (m, false)
  | .repetition _ inner => inner.check m
  | .group _ switches inner => do
    let (_, word) ← inner.check (m.switch switches)
    return (m, word)
  | .alternation _ parts | .sequence _ parts => Node.checkAll m parts

/-- Check the parts of a pattern one after the other. -/
def Node.checkAll (m : Manner) : List Node → Except Fault Checked
  | [] => .ok (m, false)
  | n :: rest => do
    let (m, word) ← n.check m
    let (m, words) ← Node.checkAll m rest
    return (m, word || words)

end

/-! ## The verdict -/

/-- Why a pattern cannot be used. -/
inductive Refusal where
  | faulty (pattern : String) (fault : Fault)
  | wordBoundary
  deriving DecidableEq, Repr

/-- What is said about a refusal, from the outside inwards. -/
def Refusal.chain : Refusal → List String
  | .faulty pattern fault => ["error building NFA", "error parsing regex", fault.message pattern]
  | .wordBoundary =>
    ["unsupported regex feature for DFAs: cannot build DFAs for regexes with Unicode word " ++
      "boundaries; switch to ASCII word boundaries, or heuristically enable Unicode word " ++
      "boundaries or use a different regex engine"]

/-- Read a pattern, check it, and tell whether it asks for the bounds of words beyond ASCII. -/
def examine (s : String) : Except Fault Bool := do
  let n ← parse s
  n.checkDepth 0
  return (← n.check .standard).2

/-- Why a pattern cannot be used, if so. -/
def refusal? (s : String) : Option Refusal :=
  match examine s with
  | .error fault => some (.faulty s fault)
  | .ok word => if word then some .wordBoundary else none

end JobLog.Pattern
