import JobLog.Config.Basic
import JobLog.Json.Record
import JobLog.Json.Value

/-!
# Configurations as JSON

Each section is a record, and so is the configuration. `Config.reader` accepts what `Config.toJson`
writes.
-/

namespace JobLog

/-- The reader of a number of at most `max`, under the name that messages give its type. -/
def wholeReader (name : String) (max : Nat) : Json.Reader Nat :=
  (Json.integer ⟨name, 0, max⟩).map Int.toNat

/-- Words of 16, 32 and 64 bits; messages call a word of 64 bits by one of two names. -/
def u16Reader : Json.Reader UInt16 := (wholeReader "u16" (UInt16.size - 1)).map UInt16.ofNat
def u32Reader : Json.Reader UInt32 := (wholeReader "u32" (UInt32.size - 1)).map UInt32.ofNat
def u64Reader : Json.Reader UInt64 := (wholeReader "u64" (UInt64.size - 1)).map UInt64.ofNat
def sizeReader : Json.Reader UInt64 := (wholeReader "usize" (UInt64.size - 1)).map UInt64.ofNat
/-- A setting that is a text. -/
def stringReader : Json.Reader String := Json.text "a string"

/-- The members of the section, in the order in which a list gives them. -/
def QueueConfig.fields : Json.Fields [String, String, String, UInt16] :=
  .cons "url" .required stringReader <|
  .cons "queue" .required stringReader <|
  .cons "exchange" .required stringReader <|
  .cons "prefetch_multiplier" .required u16Reader .nil

/-- The reader of the section, under the name that messages give it. -/
def QueueConfig.reader : Json.Reader QueueConfig :=
  (Json.record "struct BrokerConfig" fields).map
    fun (url, queue, exchange, multiplier, ()) => ⟨url, queue, exchange, multiplier⟩

/-- The section as it is written. -/
def QueueConfig.toJson (c : QueueConfig) : Json.Value :=
  .object [("url", .text c.url), ("queue", .text c.queue), ("exchange", .text c.exchange),
    ("prefetch_multiplier", .integer c.multiplier.toNat)]

/-- The members of the section of the database. -/
def DatabaseConfig.fields : Json.Fields [String, UInt64, UInt32] :=
  .cons "url" .required stringReader <|
  .cons "connect_timeout_secs" .required u64Reader <|
  .cons "connections_per_worker" .required u32Reader .nil

def DatabaseConfig.reader : Json.Reader DatabaseConfig :=
  (Json.record "struct DatabaseConfig" fields).map
    fun (url, timeout, connections, ()) => ⟨url, timeout, connections⟩

def DatabaseConfig.toJson (c : DatabaseConfig) : Json.Value :=
  .object [("url", .text c.url), ("connect_timeout_secs", .integer c.connectTimeout.toNat),
    ("connections_per_worker", .integer c.connections.toNat)]

/-- The members of the section of the announcements; the secret is read as any other text. -/
def PusherConfig.fields : Json.Fields [String, String, String, String, UInt64, UInt64] :=
  .cons "key" .required stringReader <|
  .cons "secret" .required stringReader <|
  .cons "app_id" .required stringReader <|
  .cons "endpoint" .required stringReader <|
  .cons "connect_timeout_secs" .required u64Reader <|
  .cons "request_timeout_secs" .required u64Reader .nil

def PusherConfig.reader : Json.Reader PusherConfig :=
  (Json.record "struct PusherConfig" fields).map
    fun (key, secret, appId, endpoint, connect, request, ()) =>
      ⟨key, secret, appId, endpoint, connect, request⟩

def PusherConfig.toJson (c : PusherConfig) : Json.Value :=
  .object [("key", .text c.key), ("secret", .text c.secret), ("app_id", .text c.appId),
    ("endpoint", .text c.endpoint), ("connect_timeout_secs", .integer c.connectTimeout.toNat),
    ("request_timeout_secs", .integer c.requestTimeout.toNat)]

/-- The members of the section of the workers. -/
def PoolConfig.fields : Json.Fields [UInt64, UInt64] :=
  .cons "workers" .required sizeReader <|
  .cons "metrics_interval_secs" .required u64Reader .nil

def PoolConfig.reader : Json.Reader PoolConfig :=
  (Json.record "struct WorkerConfig" fields).map fun (workers, interval, ()) => ⟨workers, interval⟩

def PoolConfig.toJson (c : PoolConfig) : Json.Value :=
  .object [("workers", .integer c.workers.toNat),
    ("metrics_interval_secs", .integer c.metricsInterval.toNat)]

/-- The sections of a configuration. -/
def Config.fields : Json.Fields [QueueConfig, DatabaseConfig, PusherConfig, PoolConfig] :=
  .cons "broker" .required QueueConfig.reader <|
  .cons "database" .required DatabaseConfig.reader <|
  .cons "pusher" .required PusherConfig.reader <|
  .cons "worker" .required PoolConfig.reader .nil

/-- The reader of a configuration. -/
def Config.reader : Json.Reader Config :=
  (Json.record "struct Config" fields).map
    fun (broker, database, pusher, pool, ()) => ⟨broker, database, pusher, pool⟩

/-- A configuration as JSON, the members in the order of the fields. -/
def Config.toJson (c : Config) : Json.Value :=
  .object [("broker", c.broker.toJson), ("database", c.database.toJson),
    ("pusher", c.pusher.toJson), ("worker", c.pool.toJson)]

/-- The configuration that a text holds. -/
def Config.parse (input : Json.Bytes) : Except Json.Refusal Config :=
  Json.decode reader input

end JobLog
