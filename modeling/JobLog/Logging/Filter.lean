import JobLog.Logging.Directive

/-!
# Filters

A filter decides which events are logged. Of the directives that apply to an event outside all
spans, the most specific one decides: a longer target goes before a shorter one, more fields before
fewer, and otherwise what comes later in the alphabet goes first. No event passes a filter in which
no directive applies to it.
-/

namespace JobLog.Logging

namespace Directive

/-- Whether a directive needs no span and no values to be decided. -/
def isStatic (d : Directive) : Bool :=
  d.span.isNone && d.fields.all (·.value.isNone)

/-- The names of the fields that a directive asks for. -/
def fieldNames (d : Directive) : List String :=
  d.fields.map (·.name)

/-- Whether one directive is to be asked before another. -/
def goesBefore (a b : Directive) : Bool :=
  let size (d : Directive) := (d.target.map (·.utf8ByteSize + 1)).getD 0
  let target (d : Directive) := d.target.getD ""
  if size a ≠ size b then size b < size a
  else if a.fields.length ≠ b.fields.length then b.fields.length < a.fields.length
  else if target a ≠ target b then target b < target a
  else b.fieldNames < a.fieldNames

/-- Whether two directives are about the same events. -/
def sameScope (a b : Directive) : Bool :=
  a.target = b.target && a.fieldNames = b.fieldNames

/-- Whether an event has a field; its message is one of them. -/
def hasField (event : Event) (name : String) : Bool :=
  name = "message" || event.fields.any fun f => f.1 = name

/-- Whether a directive is about an event outside all spans. -/
def appliesTo (d : Directive) (event : Event) : Bool :=
  (match d.target with
    | some target => target.toList.isPrefixOf event.target.toList
    | none => true) &&
    d.fieldNames.all (hasField event)

end Directive

/-- Directives that need no span, the most specific first. -/
abbrev Filter := List Directive

namespace Filter

/-- Put a directive before those that it goes before. -/
def place (d : Directive) : Filter → Filter
  | [] => [d]
  | e :: rest => if d.goesBefore e then d :: e :: rest else e :: place d rest

/-- Add a directive; an earlier one about the same events is forgotten. One that depends on spans
or values lets no event through that stands outside all spans. -/
def add (filter : Filter) (d : Directive) : Filter :=
  if d.isStatic then place d (filter.filter fun e => !d.sameScope e) else filter

/-- Whether an event outside all spans is let through. -/
def allows (filter : Filter) (event : Event) : Bool :=
  match filter.find? (·.appliesTo event) with
  | some d => event.level.verbosity ≤ d.level.verbosity
  | none => false

end Filter

end JobLog.Logging
