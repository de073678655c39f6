import JobLog.Error
import JobLog.Event
import JobLog.Json.Reader

/-!
# Modes

The service either streams log parts or combines finished logs. The second is not available: asking
for it is answered with a warning and an error.
-/

namespace JobLog

/-- What the service is to do. -/
inductive Mode where
  | streaming
  | aggregate
  deriving DecidableEq, Repr

namespace Mode

def name : Mode → String
  | .streaming => "streaming"
  | .aggregate => "aggregate"

/-- What holds unless something else is asked for. -/
def standard : Mode := .streaming

def all : List Mode := [.streaming, .aggregate]

/-- The mode of a name, in any case of letters if case does not matter. -/
def ofName? (ignoreCase : Bool) (s : String) : Option Mode :=
  all.find? fun mode =>
    if ignoreCase then mode.name = String.ofList (s.toList.map Char.toLower) else mode.name = s

def reader : Json.Reader Mode :=
  Json.choice [("streaming", .streaming), ("aggregate", .aggregate)]

end Mode

/-- Combining finished logs: the warning and the error. -/
def aggregate : List Event × UnsupportedMode :=
  ([.plain .warn "logrelay_worker::mode" "Log aggregation is not implemented, nothing to do" []],
    ⟨Mode.aggregate.name⟩)

end JobLog
