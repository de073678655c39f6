import JobLog.Decimal.Shortest
import JobLog.Event
import JobLog.Logging.Settings
import JobLog.Text.Quoted

/-!
# Log lines

An event becomes one line, either text or a JSON object. On the console text is coloured, in a file
it is not. The time of a line is given as text, so that lines are the same whatever the clock says.
-/

namespace JobLog.Logging

/-- How a piece of a line is painted on the console. -/
inductive Paint where
  | dim
  | bold
  | italic
  | colour (level : Level)
  deriving DecidableEq, Repr

/-- The code that a terminal understands. -/
def Paint.code : Paint → String
  | .dim => "2"
  | .bold => "1"
  | .italic => "3"
  | .colour .trace => "35"
  | .colour .debug => "34"
  | .colour .info => "32"
  | .colour .warn => "33"
  | .colour .error => "31"

/-- Text in a paint, if there are colours at all. -/
def paint (colours : Bool) (p : Paint) (s : String) : String :=
  if colours then "\x1b[" ++ p.code ++ "m" ++ s ++ "\x1b[0m" else s

/-- The characters that could make a terminal do something, named instead of sent. -/
def harmless (s : String) : String :=
  s.toList.foldl (fun shown c =>
    shown ++
      if c = '\x1b' then "\\x1b"
      else if c = '\x07' then "\\x07"
      else if c = '\x08' then "\\x08"
      else if c = '\x0c' then "\\x0c"
      else if c = '\x7f' then "\\x7f"
      else if 0x80 ≤ c.toNat ∧ c.toNat ≤ 0x9f then "\\u\x7b" ++ Text.hex c.toNat ++ "\x7d"
      else c.toString) ""

/-- A value in a line of text. -/
def valueText : Event.Value → String
  | .integer n => toString n
  | .flag b => if b then "true" else "false"
  | .real x => Decimal.plain.text x
  | .text s => Text.quoted s
  | .shown s => s

/-- Named values in a line of text. -/
def fieldsText (colours : Bool) (fields : Event.Fields) : String :=
  " ".intercalate (fields.map fun (name, value) =>
    paint colours .italic name ++ paint colours .dim "=" ++ valueText value)

/-- The spans around an event, outermost first. -/
def spansText (colours : Bool) (spans : List Event.Span) : String :=
  let shown := spans.map fun span =>
    paint colours .bold span.name ++
      (if span.fields.isEmpty then ""
        else paint colours .bold "\x7b" ++ fieldsText colours span.fields ++
          paint colours .bold "\x7d") ++
      paint colours .dim ":"
  if spans.isEmpty then "" else String.join shown ++ " "

/-- A level in capitals, five characters wide. -/
def levelText (level : Level) : String :=
  if level.title.length < 5 then " " ++ level.title else level.title

/-- The thread that reports. All events that become lines come from the first thread. -/
def threadText : String := "ThreadId(01) "

/-- An event as a line of text. -/
def textLine (s : LogSettings) (colours : Bool) (time : String) (e : Event) : String :=
  paint colours .dim time ++ " " ++ paint colours (.colour e.level) (levelText e.level) ++ " " ++
    (if s.threadIds then threadText else "") ++ spansText colours e.spans ++
    (if s.targets then paint colours .dim e.target ++ paint colours .dim ":" ++ " " else "") ++
    harmless e.message ++
    (if e.fields.isEmpty then "" else " " ++ fieldsText colours e.fields)

/-- A value in a line of JSON. -/
def valueJson : Event.Value → Json.Value
  | .integer n => .integer n
  | .flag b => .flag b
  | .real x => .number (.real x)
  | .text s => .text s
  | .shown s => .text s

/-- Named values in a line of JSON. -/
def membersJson (fields : Event.Fields) : List (String × Json.Value) :=
  fields.map fun (name, value) => (name, valueJson value)

/-- A span in a line of JSON. -/
def spanJson (span : Event.Span) : Json.Value :=
  .object (membersJson span.fields ++ [("name", .text span.name)])

/-- An event as a JSON object. -/
def jsonLine (s : LogSettings) (time : String) (e : Event) : Json.Value :=
  .object ([("timestamp", .text time), ("level", .text e.level.title),
      ("fields", .object (("message", .text e.message) :: membersJson e.fields))] ++
    (if s.targets then [("target", .text e.target)] else []) ++
    (match e.spans.getLast? with
      | none => []
      | some inner =>
        [("span", spanJson inner), ("spans", .list (e.spans.map spanJson))]) ++
    (if s.threadIds then [("threadId", .text "ThreadId(1)")] else []))

/-- An event as a line. -/
def line (s : LogSettings) (colours : Bool) (time : String) (e : Event) : String :=
  match s.format with
  | .text => textLine s colours time e
  | .json => (jsonLine s time e).render

/-- Events as lines, each ended by a line break. -/
def lines (s : LogSettings) (colours : Bool) (events : List (String × Event)) : String :=
  String.join (events.map fun (time, e) => line s colours time e ++ "\n")

end JobLog.Logging
