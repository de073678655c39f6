import JobLog.Json.Value

/-!
# Events

What happens is reported as events: a level, the part of the program that reports it, a message,
named values, and the spans around it. A span carries values of its own, which become known as the
work inside it goes on.
-/

namespace JobLog

/-- How important an event is, from the least to the most important. -/
inductive Level where
  | trace
  | debug
  | info
  | warn
  | error
  deriving DecidableEq, Repr

/-- A level in lower case. -/
def Level.name : Level → String
  | .trace => "trace"
  | .debug => "debug"
  | .info => "info"
  | .warn => "warn"
  | .error => "error"

/-- A level in capitals. -/
def Level.title : Level → String
  | .trace => "TRACE"
  | .debug => "DEBUG"
  | .info => "INFO"
  | .warn => "WARN"
  | .error => "ERROR"

/-- How much a filter set to this level lets through: more important levels have lower ranks. -/
def Level.verbosity : Level → Nat
  | .error => 1
  | .warn => 2
  | .info => 3
  | .debug => 4
  | .trace => 5

namespace Event

/-- A value that an event or a span carries. `shown` holds the text of a value of another kind. -/
inductive Value where
  | integer (n : Int)
  | flag (b : Bool)
  | real (x : Float)
  | text (s : String)
  | shown (s : String)

/-- Named values in the order they were given. -/
abbrev Fields := List (String × Value)

/-- A stretch of work. -/
structure Span where
  name : String
  fields : Fields

end Event

/-- Something that happened; `spans` are those around it, outermost first. -/
structure Event where
  level : Level
  target : String
  message : String
  fields : Event.Fields
  spans : List Event.Span

/-- An event outside all spans. -/
def Event.plain (level : Level) (target message : String) (fields : Event.Fields) : Event :=
  ⟨level, target, message, fields, []⟩

/-- The event as seen inside one more span. -/
def Event.within (span : Event.Span) (event : Event) : Event :=
  { event with spans := span :: event.spans }

end JobLog
