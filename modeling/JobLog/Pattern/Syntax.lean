/-!
# Patterns

A field of an event can be compared with a pattern, a regular expression. This is the tree that a
pattern is read into. What a piece of text says is kept only as far as it decides whether the pattern
can be used; every part knows where it stands.
-/

namespace JobLog.Pattern

/-- A place in a pattern, counted from one. -/
structure Position where
  line : Nat
  column : Nat
  deriving DecidableEq, Repr

namespace Position

/-- The first place. -/
def first : Position := ⟨1, 1⟩

/-- The place after a character. -/
def after (p : Position) (c : Char) : Position :=
  if c = '\n' then ⟨p.line + 1, 1⟩ else ⟨p.line, p.column + 1⟩

end Position

/-- A stretch of a pattern, from its first place to the one after its last. -/
structure Span where
  start : Position
  stop : Position
  deriving DecidableEq, Repr

/-- The empty stretch at a place. -/
def Span.empty (p : Position) : Span := ⟨p, p⟩

/-- A way of matching that can be switched on and off inside a pattern. -/
inductive Flag where
  | ignoreCase
  | multiLine
  | dotMatchesNewline
  | swapGreed
  | unicode
  | crlf
  | extended
  deriving DecidableEq, Repr

namespace Flag

/-- The letter that stands for a flag. -/
def ofChar? : Char → Option Flag
  | 'i' => some .ignoreCase
  | 'm' => some .multiLine
  | 's' => some .dotMatchesNewline
  | 'U' => some .swapGreed
  | 'u' => some .unicode
  | 'R' => some .crlf
  | 'x' => some .extended
  | _ => none

end Flag

/-- Flags in the order in which they are switched, each on or off. -/
abbrev Switches := List (Flag × Bool)

/-- A character; `byte` if it was written as two hexadecimal digits, which can mean a byte. -/
structure Literal where
  span : Span
  char : Char
  byte : Bool
  deriving DecidableEq, Repr

/-- A set of characters. -/
inductive Class where
  | empty (span : Span)
  | literal (l : Literal)
  | range (span : Span) (low high : Literal)
  /-- A class of ASCII characters that is written by its name. -/
  | ascii (span : Span) (negated : Bool)
  /-- A class of characters by a property. -/
  | property (span : Span)
  /-- The digits, the blanks or the characters of words. -/
  | perl (span : Span) (negated : Bool)
  | bracketed (span : Span) (negated : Bool) (inner : Class)
  | union (span : Span) (items : List Class)
  /-- Two sets joined by an operation. -/
  | both (span : Span) (left right : Class)

/-- Where a class stands. -/
def Class.span : Class → Span
  | .literal l => l.span
  | .empty span | .range span _ _ | .ascii span _ | .property span | .perl span _
  | .bracketed span _ _ | .union span _ | .both span _ _ => span

/-- A pattern. -/
inductive Node where
  | empty (span : Span)
  /-- Flags that hold from here on. -/
  | flags (span : Span) (switches : Switches)
  | literal (l : Literal)
  | anything (span : Span)
  /-- A condition on what is around a place; `word` if it is about the bounds of words. -/
  | assertion (span : Span) (word : Bool)
  | property (span : Span)
  | perl (span : Span) (negated : Bool)
  | bracketed (span : Span) (negated : Bool) (inner : Class)
  | repetition (span : Span) (inner : Node)
  /-- A group, with the flags that hold inside it only. -/
  | group (span : Span) (switches : Switches) (inner : Node)
  | alternation (span : Span) (branches : List Node)
  | sequence (span : Span) (parts : List Node)

/-- Where a part of a pattern stands. -/
def Node.span : Node → Span
  | .literal l => l.span
  | .empty span | .flags span _ | .anything span | .assertion span _ | .property span | .perl span _
  | .bracketed span _ _ | .repetition span _ | .group span _ _ | .alternation span _
  | .sequence span _ => span

end JobLog.Pattern
