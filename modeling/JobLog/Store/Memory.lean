import JobLog.Error
import JobLog.Time

/-!
# The store of log parts

Every job that has started has a log, and every part becomes one row under its job's log. This
store keeps both in memory and numbers its rows from one. It can be told to fail, which every later
lookup or insertion then does.
-/

namespace JobLog

/-- What is written for a part. -/
structure Entry where
  log : Int64
  number : Int64
  content : String
  isFinal : Bool
  createdAt : Moment
  deriving DecidableEq, Repr

/-- A stored entry. -/
structure Row extends Entry where
  id : Int
  deriving DecidableEq, Repr

/-- A store in memory. -/
structure Store where
  /-- The log of each job, the latest assignment first. -/
  logs : List (Int64 × Int64)
  rows : List Row
  lookups : Nat
  lookupFault : Option String
  insertFault : Option String
  deriving DecidableEq, Repr

namespace Store

def empty : Store := ⟨[], [], 0, none, none⟩

/-- Let a job have a log; one that it had before is forgotten. -/
def register (s : Store) (job log : Int64) : Store :=
  { s with logs := (job, log) :: s.logs }

/-- Fail every later lookup. -/
def failLookups (s : Store) (reason : String) : Store :=
  { s with lookupFault := some reason }

/-- Fail every later insertion. -/
def failInserts (s : Store) (reason : String) : Store :=
  { s with insertFault := some reason }

/-- The log of a job. -/
def logOf? (s : Store) (job : Int64) : Option Int64 :=
  s.logs.lookup job

/-- What a lookup answers. -/
def lookupResult (s : Store) (job : Int64) : Except StoreError Int64 :=
  match s.lookupFault with
  | some reason => .error (.unavailable reason)
  | none =>
    match s.logOf? job with
    | some log => .ok log
    | none => .error (.notFound job)

/-- Look up the log of a job. -/
def find (s : Store) (job : Int64) : Except StoreError Int64 × Store :=
  (s.lookupResult job, { s with lookups := s.lookups + 1 })

/-- The id of the next row. -/
def nextId (s : Store) : Int :=
  s.rows.length + 1

/-- Insert a row and return its id. -/
def insert (s : Store) (entry : Entry) : Except StoreError Int × Store :=
  match s.insertFault with
  | some reason => (.error (.unavailable reason), s)
  | none => (.ok s.nextId, { s with rows := s.rows ++ [⟨entry, s.nextId⟩] })

end Store

end JobLog
