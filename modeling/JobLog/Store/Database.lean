import JobLog.Config.Basic
import JobLog.Error
import JobLog.Event
import JobLog.Store.Address
import JobLog.Store.Memory

/-!
# The store in a database

A database keeps the logs of jobs and the rows of parts. The statements below are all that it is
asked; values are passed as parameters, never as part of a statement's text.
-/

namespace JobLog

/-- What the database is asked to do. -/
inductive Statement where
  | ping
  | find (job : Int64)
  | insert (entry : Entry)
  deriving DecidableEq, Repr

/-- A value that goes with a statement. -/
inductive Parameter where
  | integer (n : Int64)
  | text (s : String)
  | flag (b : Bool)
  | moment (m : Moment)
  deriving DecidableEq, Repr

namespace Statement

/-- A statement's text. -/
def text : Statement → String
  | .ping => "SELECT 1"
  | .find _ => "SELECT id::int8 FROM logs WHERE job_id = $1"
  | .insert _ =>
    "INSERT INTO log_parts (log_id, number, content, final, created_at) " ++
      "VALUES ($1, $2, $3, $4, $5) RETURNING id::int8"

/-- A statement's values, in the order of their numbers. -/
def parameters : Statement → List Parameter
  | .ping => []
  | .find job => [.integer job]
  | .insert entry =>
    [.integer entry.log, .integer entry.number, .text entry.content, .flag entry.isFinal,
      .moment entry.createdAt]

end Statement

/-- The rows that answer a statement, with their only column if it holds a value. -/
abbrev Rows := List (Option Int64)

namespace Database

/-- The part of the program that talks to the database. -/
def target : String := "logrelay_worker::store::postgres"

/-- What is reported once a connection is open. -/
def connected (c : DatabaseConfig) : Event :=
  .plain .debug target "Database connection pool created"
    [("max_connections", .integer c.connections.toNat)]

/-- Open the first connection, with what is reported; `reach` tells what becomes of the attempt.
Without time to wait there is no attempt. -/
def connect (c : DatabaseConfig) (reach : Web.Url → Except DatabaseError Unit) :
    List Event × Except StoreError Unit :=
  match address c with
  | (events, .error e) => (events, .error (.query e))
  | (events, .ok url) =>
    if c.connectTimeout = 0 then (events, .error (.query .poolTimedOut))
    else
      match reach url with
      | .error e => (events, .error (.query e))
      | .ok _ => (events ++ [connected c], .ok ())

/-- Whether the database answers at all. -/
def checked (answer : Except DatabaseError Rows) : Except StoreError Unit :=
  match answer with
  | .error e => .error (.query e)
  | .ok _ => .ok ()

/-- The log of a job, from the answer to its lookup. The first row counts. -/
def found (job : Int64) (answer : Except DatabaseError Rows) : Except StoreError Int64 :=
  match answer with
  | .error e => .error (.query e)
  | .ok [] => .error (.notFound job)
  | .ok (none :: _) => .error (.query (.unexpectedNull 0))
  | .ok (some log :: _) => .ok log

/-- The id of a new row, from the answer to its insertion. -/
def inserted (answer : Except DatabaseError Rows) : Except StoreError Int :=
  match answer with
  | .error e => .error (.query e)
  | .ok [] => .error (.query .rowNotFound)
  | .ok (none :: _) => .error (.query (.unexpectedNull 0))
  | .ok (some id :: _) => .ok id.toInt

end Database

end JobLog
