import JobLog.Text.Quoted
import JobLog.Broker.Prefetch

/-!
# The configuration of a worker

Four sections: the queue, the database, the service that tells viewers, and the pool of workers.
The description of the third hides its secret.
-/

namespace JobLog

/-- The queue's server and what is declared on it. -/
structure QueueConfig where
  url : String
  queue : String
  exchange : String
  multiplier : UInt16
  deriving DecidableEq, Repr

/-- The database; each worker has its own connections. -/
structure DatabaseConfig where
  url : String
  connectTimeout : UInt64
  connections : UInt32
  deriving DecidableEq, Repr

/-- The credentials and the address of the service that tells viewers. -/
structure PusherConfig where
  key : String
  secret : String
  appId : String
  endpoint : String
  connectTimeout : UInt64
  requestTimeout : UInt64
  deriving DecidableEq, Repr

/-- The pool of workers and how often metrics are logged, in seconds. -/
structure PoolConfig where
  workers : UInt64
  metricsInterval : UInt64
  deriving DecidableEq, Repr

structure Config where
  broker : QueueConfig
  database : DatabaseConfig
  pusher : PusherConfig
  pool : PoolConfig
  deriving DecidableEq, Repr

/-- Unacknowledged deliveries that the pool may hold. -/
def Config.prefetch (c : Config) : Nat :=
  Broker.prefetch c.pool.workers.toNat c.broker.multiplier.toNat

/-- A record with its fields, as descriptions show it. -/
def describeFields (name : String) (fields : List (String × String)) : String :=
  name ++ " \x7b " ++ ", ".intercalate (fields.map fun (k, v) => k ++ ": " ++ v) ++ " \x7d"

def DatabaseConfig.describe (c : DatabaseConfig) : String :=
  describeFields "DatabaseConfig"
    [("url", Text.quoted c.url), ("connect_timeout_secs", toString c.connectTimeout.toNat),
      ("connections_per_worker", toString c.connections.toNat)]

/-- The section without its secret. -/
def PusherConfig.describe (c : PusherConfig) : String :=
  describeFields "PusherConfig"
    [("key", Text.quoted c.key), ("secret", Text.quoted "<redacted>"),
      ("app_id", Text.quoted c.appId), ("endpoint", Text.quoted c.endpoint),
      ("connect_timeout_secs", toString c.connectTimeout.toNat),
      ("request_timeout_secs", toString c.requestTimeout.toNat)]

end JobLog
