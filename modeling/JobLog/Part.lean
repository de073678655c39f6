import JobLog.Json.Record
import JobLog.Json.Value

/-!
# Log parts

A producer announces one fragment of a running job's output per message. `Part.parse` decodes a
message body and removes NUL characters from the content, which the database does not take.
`Part.data` is what viewers of the job receive for a part.
-/

namespace JobLog

/-- One fragment of a job's output. -/
structure Part where
  job : Int64
  number : Int64
  content : String
  isFinal : Bool
  /-- The producer's correlation id, neither stored nor announced. -/
  uuid : Option String
  deriving DecidableEq, Repr

/-- Text without its NUL characters. -/
def sanitize (content : String) : String :=
  String.ofList (content.toList.filter (· ≠ '\x00'))

/-- The range of the ids and numbers of parts. -/
def wordRange : Json.IntegerRange := ⟨"i64", Int64.minValue.toInt, Int64.maxValue.toInt⟩

/-- The reader of an id. -/
def word : Json.Reader Int64 :=
  (Json.integer wordRange).map Int64.ofInt

/-- The fields of a message body. -/
def Part.fields : Json.Fields [Int64, Int64, String, Bool, Option String] :=
  .cons "id" .required word <|
  .cons "number" .required word <|
  .cons "log" .required (Json.text "a string") <|
  .cons "final" .required Json.flag <|
  .cons "uuid" (.optional none true) (Json.nullable (Json.text "a string")) .nil

/-- The reader of a message body, its content as it stands. -/
def Part.reader : Json.Reader Part :=
  (Json.record "struct LogPartPayload" Part.fields).map
    fun (job, number, content, isFinal, uuid, ()) => ⟨job, number, content, isFinal, uuid⟩

/-- Decode a message body. -/
def Part.parse (body : Json.Bytes) : Except Json.Refusal Part :=
  (Json.decode Part.reader body).map fun part => { part with content := sanitize part.content }

/-- What viewers receive for a part, as JSON. -/
def Part.data (part : Part) : String :=
  Json.Value.render <| .object
    [("id", .integer part.job.toInt), ("number", .integer part.number.toInt),
      ("_log", .text part.content), ("final", .flag part.isFinal)]

/-- The channel of a job's viewers. -/
def channel (job : Int64) : String :=
  "job-" ++ toString job.toInt

/-- The name of the event that announces a part. -/
def partEvent : String := "job:log"

end JobLog
