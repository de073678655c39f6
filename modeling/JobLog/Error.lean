import JobLog.Json.Failure
import JobLog.Broker.Lifecycle

/-!
# What can go wrong

One type of causes per part of the program. `message` words an error; `chain` is the list of its
own message and of the messages of what it was caused by, outermost first.
-/

namespace JobLog

/-- A variable of the configuration cannot be used. -/
inductive SettingError where
  | missing (name : String)
  | invalid (name reason : String)
  deriving DecidableEq, Repr

def SettingError.message : SettingError → String
  | .missing name => name ++ " was empty"
  | .invalid name reason => "Invalid value for " ++ name ++ ": " ++ reason

/-- Why a query got no answer. -/
inductive DatabaseError where
  | rowNotFound
  | poolTimedOut
  | poolClosed
  /-- The connection text cannot be used. -/
  | configuration (reason : String)
  /-- An option in the connection text cannot be used. -/
  | option (cause : DatabaseError)
  /-- The connection failed. -/
  | communication (reason : String)
  /-- The database refused. -/
  | refused (reason : String)
  /-- A column holds no value. -/
  | unexpectedNull (column : Nat)
  deriving DecidableEq, Repr

def DatabaseError.message : DatabaseError → String
  | .rowNotFound => "no rows returned by a query that expected to return at least one row"
  | .poolTimedOut => "pool timed out while waiting for an open connection"
  | .poolClosed => "attempted to acquire a connection on a closed pool"
  | .configuration reason => "error with configuration: " ++ reason
  | .option cause => "error with configuration: " ++ cause.message
  | .communication reason => "error communicating with database: " ++ reason
  | .refused reason => "error returned from database: " ++ reason
  | .unexpectedNull column =>
    "error occurred while decoding column " ++ toString column ++
      ": unexpected null; try decoding as an `Option`"

def DatabaseError.chain (e : DatabaseError) : List String :=
  e.message ::
    match e with
    | .configuration reason => [reason]
    | .option cause => cause.chain
    | .communication reason => [reason]
    | .refused reason => [reason]
    | .unexpectedNull _ => ["unexpected null; try decoding as an `Option`"]
    | .rowNotFound | .poolTimedOut | .poolClosed => []

/-- Why the store of log parts gave no answer. -/
inductive StoreError where
  /-- The job has no log yet. -/
  | notFound (job : Int64)
  | query (cause : DatabaseError)
  | unavailable (reason : String)
  deriving DecidableEq, Repr

def StoreError.message : StoreError → String
  | .notFound job => "no log with job_id:" ++ toString job.toInt ++ " found"
  | .query cause => "db query failed: " ++ cause.message
  | .unavailable reason => "store unavailable: " ++ reason

def StoreError.chain (e : StoreError) : List String :=
  e.message :: match e with
    | .query cause => cause.chain
    | .notFound _ | .unavailable _ => []

/-- Why a request could not be sent. -/
inductive RequestError where
  /-- No request can be made for the address, which is shown if it could be read at all. -/
  | unusableAddress (address : Option String)
  /-- The request got no answer. -/
  | unanswered (address reason : String)
  deriving DecidableEq, Repr

def RequestError.message : RequestError → String
  | .unusableAddress none => "builder error"
  | .unusableAddress (some address) => "builder error for url (" ++ address ++ ")"
  | .unanswered address _ => "error sending request for url (" ++ address ++ ")"

/-- A credential that broadcasting needs. -/
inductive Credential where
  | key
  | secret
  | appId
  deriving DecidableEq, Repr

def Credential.name : Credential → String
  | .key => "key"
  | .secret => "secret"
  | .appId => "app id"

/-- Why viewers were not told. -/
inductive BroadcastError where
  /-- The announcement cannot be written as JSON. -/
  | encode (cause : Json.Refusal)
  | request (cause : RequestError)
  | rejected (status : Nat) (body : String)
  | missingCredential (credential : Credential)
  | invalidSecret
  | unavailable (reason : String)

def BroadcastError.message : BroadcastError → String
  | .encode cause => "error during json encoding: " ++ cause.message
  | .request cause => "error publishing to pusher: " ++ cause.message
  | .rejected status body =>
    "pusher rejected event with status " ++ toString status ++ ": " ++ body
  | .missingCredential credential => "pusher " ++ credential.name ++ " was empty"
  | .invalidSecret => "pusher secret cannot key HMAC-SHA256"
  | .unavailable reason => "broadcaster unavailable: " ++ reason

def BroadcastError.chain (e : BroadcastError) : List String :=
  e.message :: match e with
    | .encode cause => [cause.message]
    | .request cause => [cause.message]
    | _ => []

/-- Why a queue session failed. -/
inductive SessionError where
  /-- The connection could not be made or broke. -/
  | connection (reason : String)
  /-- The peer closed the session; `soft` closes one channel, a hard error the connection. -/
  | refused (soft : Bool) (name text : String)
  /-- The step needs a channel or connection in another state. -/
  | state (reason : String)
  deriving DecidableEq, Repr

def SessionError.message : SessionError → String
  | .connection reason => "IO error: " ++ reason
  | .refused soft name text =>
    "protocol error: AMQP " ++ (if soft then "soft" else "hard") ++ " error: " ++ name ++ ": " ++
      text
  | .state reason => reason

/-- Why a broker did not do what it was asked. -/
inductive BrokerError where
  | session (cause : SessionError)
  | invalidState (current target : Broker.Lifecycle)
  | factory (worker : Nat) (reason : String)
  | noWorkers
  | closed
  deriving DecidableEq, Repr

def BrokerError.message : BrokerError → String
  | .session cause => "amqp error: " ++ cause.message
  | .invalidState current target =>
    "broker cannot move from " ++ current.name ++ " to " ++ target.name
  | .factory worker reason =>
    "failed to build processor for worker " ++ toString worker ++ ": " ++ reason
  | .noWorkers => "subscription needs at least one worker"
  | .closed => "broker is closed"

def BrokerError.chain (e : BrokerError) : List String :=
  e.message :: match e with
    | .session cause => [cause.message]
    | .factory _ reason => [reason]
    | _ => []

/-- One step in the handling of a log part. -/
inductive Stage where
  | parse
  | resolve
  | persist
  | publish
  deriving DecidableEq, Repr

def Stage.name : Stage → String
  | .parse => "parse"
  | .resolve => "resolve"
  | .persist => "persist"
  | .publish => "publish"

/-- Why one log part was not handled. -/
inductive ProcessError where
  /-- The body is no log part. -/
  | parse (cause : Json.Refusal)
  /-- The part's job has no log. -/
  | notFound (job : Int64)
  | resolve (cause : StoreError)
  | persist (cause : StoreError)
  | publish (cause : BroadcastError)

namespace ProcessError

/-- The step that failed. -/
def stage : ProcessError → Stage
  | .parse _ => .parse
  | .notFound _ | .resolve _ => .resolve
  | .persist _ => .persist
  | .publish _ => .publish

/-- What kind of thing went wrong. -/
inductive Kind where
  | parse
  | notFound
  | store
  | broadcast
  deriving DecidableEq, Repr

def kind : ProcessError → Kind
  | .parse _ => .parse
  | .notFound _ => .notFound
  | .resolve _ | .persist _ => .store
  | .publish _ => .broadcast

/-- A failed lookup; that a job has no log is told apart from a store that gives no answer. -/
def ofLookup : StoreError → ProcessError
  | .notFound job => .notFound job
  | e => .resolve e

def message : ProcessError → String
  | .parse cause => "parse: error during json decoding: " ++ cause.message
  | .notFound job => "resolve: no log with job_id:" ++ toString job.toInt ++ " found"
  | .resolve cause => "resolve: " ++ cause.message
  | .persist cause => "persist: " ++ cause.message
  | .publish cause => "publish: " ++ cause.message

def chain (e : ProcessError) : List String :=
  e.message :: match e with
    | .parse cause => [cause.message]
    | .notFound _ => []
    | .resolve cause | .persist cause => cause.chain
    | .publish cause => cause.chain

end ProcessError

/-- Why the service did not come up or did not keep running. -/
inductive StartupError where
  | settings (cause : SettingError)
  | store (cause : StoreError)
  | broadcaster (cause : BroadcastError)
  | broker (cause : BrokerError)

def StartupError.message : StartupError → String
  | .settings cause => "configuration: " ++ cause.message
  | .store cause => "store unreachable: " ++ cause.message
  | .broadcaster cause => "broadcaster unavailable: " ++ cause.message
  | .broker cause => "broker: " ++ cause.message

def StartupError.chain (e : StartupError) : List String :=
  e.message :: match e with
    | .settings cause => [cause.message]
    | .store cause => cause.chain
    | .broadcaster cause => cause.chain
    | .broker cause => cause.chain

/-- The mode that is asked for is not available. -/
structure UnsupportedMode where
  mode : String
  deriving DecidableEq, Repr

def UnsupportedMode.message (e : UnsupportedMode) : String :=
  "process mode '" ++ e.mode ++ "' is not supported"

end JobLog
