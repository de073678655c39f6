import JobLog.Config.Basic
import JobLog.Config.Whole
import JobLog.Error
import JobLog.Event
import JobLog.Text.Blank

/-!
# Loading a configuration

Settings are looked up by the names of variables, in a fixed order; the first that is missing or
cannot be read is reported. A blank variable counts as unset. A configuration that has been read is
then validated, and a prefetch bound that reaches the largest possible one is warned of.
-/

namespace JobLog.Config

/-- Where variables are looked up. -/
abbrev Lookup := String → Option String

/-- The text of a variable that is set and not blank. -/
def present? (lookup : Lookup) (name : String) : Option String :=
  (lookup name).filter fun value => !Text.allBlank value

/-- A variable that must be set; its text is taken as it stands. -/
def required (lookup : Lookup) (name : String) : Except SettingError String :=
  match present? lookup name with
  | some value => .ok value
  | none => .error (.missing name)

/-- A text that has a default, without the blanks around it. -/
def optionalText (lookup : Lookup) (name absent : String) : Except SettingError String :=
  match present? lookup name with
  | some value => .ok (Text.trim value)
  | none => .ok absent

/-- A number of at most `max` that has a default. -/
def optionalWhole (lookup : Lookup) (name : String) (max absent : Nat) :
    Except SettingError Nat :=
  match present? lookup name with
  | some value =>
    match whole max (Text.trim value).toList with
    | .ok n => .ok n
    | .error e => .error (.invalid name e.message)
  | none => .ok absent

/-- The variables of a configuration, in the order in which they are read. -/
def variableNames : List String :=
  ["AMQP_URL", "LOGRELAY_QUEUE", "LOGRELAY_EXCHANGE", "LOGRELAY_PREFETCH_MULTIPLIER",
    "DATABASE_URL", "DB_CONNECT_TIMEOUT", "DB_MAX_CONNECTIONS_PER_WORKER", "PUSHER_KEY",
    "PUSHER_SECRET", "PUSHER_APP_ID", "PUSHER_ENDPOINT", "PUSHER_CONNECT_TIMEOUT",
    "PUSHER_REQUEST_TIMEOUT", "LOGRELAY_WORKERS", "LOGRELAY_METRICS_INTERVAL"]

/-- Read all variables in their order. -/
def read (lookup : Lookup) : Except SettingError Config := do
  let url ← required lookup "AMQP_URL"
  let queue ← optionalText lookup "LOGRELAY_QUEUE" "reporting.jobs.logs"
  let exchange ← optionalText lookup "LOGRELAY_EXCHANGE" "reporting"
  let multiplier ← optionalWhole lookup "LOGRELAY_PREFETCH_MULTIPLIER" (UInt16.size - 1) 3
  let database ← required lookup "DATABASE_URL"
  let timeout ← optionalWhole lookup "DB_CONNECT_TIMEOUT" (UInt64.size - 1) 30
  let connections ← optionalWhole lookup "DB_MAX_CONNECTIONS_PER_WORKER" (UInt32.size - 1) 1
  let key ← required lookup "PUSHER_KEY"
  let secret ← required lookup "PUSHER_SECRET"
  let appId ← required lookup "PUSHER_APP_ID"
  let endpoint ← optionalText lookup "PUSHER_ENDPOINT" "https://api.pusherapp.com"
  let connectTimeout ← optionalWhole lookup "PUSHER_CONNECT_TIMEOUT" (UInt64.size - 1) 3
  let requestTimeout ← optionalWhole lookup "PUSHER_REQUEST_TIMEOUT" (UInt64.size - 1) 5
  let workers ← optionalWhole lookup "LOGRELAY_WORKERS" (UInt64.size - 1) 10
  let interval ← optionalWhole lookup "LOGRELAY_METRICS_INTERVAL" (UInt64.size - 1) 60
  return {
    broker := ⟨url, queue, exchange, .ofNat multiplier⟩
    database := ⟨database, .ofNat timeout, .ofNat connections⟩
    pusher := ⟨key, secret, appId, endpoint, .ofNat connectTimeout, .ofNat requestTimeout⟩
    pool := ⟨.ofNat workers, .ofNat interval⟩ }

/-- Whether an address is one of the web. -/
def isWebAddress (s : String) : Bool :=
  "http://".toList.isPrefixOf s.toList || "https://".toList.isPrefixOf s.toList

/-- Complain of a number that is zero. -/
def positive (name : String) (n : Nat) : Except SettingError Unit :=
  if n = 0 then .error (.invalid name "must be greater than 0") else .ok ()

/-- Check a configuration; the first complaint counts. -/
def check (c : Config) : Except SettingError Unit := do
  positive "LOGRELAY_WORKERS" c.pool.workers.toNat
  positive "LOGRELAY_PREFETCH_MULTIPLIER" c.broker.multiplier.toNat
  positive "LOGRELAY_METRICS_INTERVAL" c.pool.metricsInterval.toNat
  positive "DB_MAX_CONNECTIONS_PER_WORKER" c.database.connections.toNat
  if c.broker.queue.isEmpty then throw (.missing "LOGRELAY_QUEUE")
  if isWebAddress c.pusher.endpoint then return ()
  else throw (.invalid "PUSHER_ENDPOINT" ("'" ++ c.pusher.endpoint ++ "' is not an http(s) URL"))

/-- The warning that the prefetch bound reaches the largest possible one. -/
def saturation (c : Config) : List Event :=
  if c.prefetch = Broker.maxPrefetch then
    [.plain .warn "logrelay_worker::config" "Prefetch bound saturated at the protocol maximum"
      [("workers", .integer c.pool.workers.toNat),
        ("multiplier", .integer c.broker.multiplier.toNat)]]
  else []

/-- Check a configuration, and warn if it passes. -/
def validate (c : Config) : Except SettingError (List Event) :=
  match c.check with
  | .error e => .error e
  | .ok _ => .ok c.saturation

/-- The configuration that variables describe, with what there is to warn of. -/
def fromLookup (lookup : Lookup) : Except SettingError (Config × List Event) :=
  match read lookup with
  | .error e => .error e
  | .ok c =>
    match c.validate with
    | .error e => .error e
    | .ok events => .ok (c, events)

end JobLog.Config
