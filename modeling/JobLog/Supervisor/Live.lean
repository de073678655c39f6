import JobLog.Broadcast.Pusher
import JobLog.Broker.Address
import JobLog.Broker.Session
import JobLog.Pipeline.Processor
import JobLog.Store.Database
import JobLog.Supervisor.Startup

/-!
# The live systems

The service runs against a database, a service that viewers are connected to, and a queue's server.
Everything it needs of them goes through a `Network`, whose answers are not known in advance.
-/

namespace JobLog

/-- What can be reached from here, with a joint state. -/
structure Network (σ : Type) where
  /-- An attempt to connect to a database. -/
  reach : Web.Url → Except DatabaseError Unit
  execute : Statement → σ → Reply σ (Except DatabaseError Rows)
  /-- A request, with the redirects that follow from it. -/
  post : Pusher.Request → σ → Reply σ (Except String Pusher.Answer)
  /-- Seconds since 1970. -/
  now : σ → Int
  /-- A session with the queue's server, made as far as it could be. -/
  dial : QueueConfig → Broker.Dialing

namespace Network

variable {σ : Type}

/-- The systems that messages are handled with: the database and one client of the service. -/
def systems (n : Network σ) (client : Pusher.Client) : Collaborators σ where
  find job s :=
    let reply := n.execute (.find job) s
    ⟨Database.found job reply.result, reply.nanos, reply.wall, reply.state⟩
  insert entry s :=
    let reply := n.execute (.insert entry) s
    ⟨Database.inserted reply.result, reply.nanos, reply.wall, reply.state⟩
  publish announcement s :=
    match client.request (n.now s) announcement with
    | .error e => ⟨.error (.request e), 0, id, s⟩
    | .ok request =>
      let reply := n.post request s
      ⟨request.outcome reply.result, reply.nanos, reply.wall, reply.state⟩

/-- Connect to the configured database, with what is reported. -/
def openStore (n : Network σ) (c : DatabaseConfig) : Answer (Except StoreError Unit) :=
  let (events, result) := Database.connect c n.reach
  ⟨events, result⟩

/-- Connect to the database, ask it whether it is there, and leave it again. -/
def verifyStore (n : Network σ) (c : DatabaseConfig) (s : σ) : Answer (Except StoreError Unit) :=
  let opened := n.openStore c
  match opened.result with
  | .error e => ⟨opened.events, .error e⟩
  | .ok _ =>
    match Database.checked (n.execute .ping s).result with
    | .error e => ⟨opened.events, .error e⟩
    | .ok _ =>
      ⟨opened.events ++ [.plain .info Supervision.target "Database reachable" []], .ok ()⟩

/-- Make a client of the service that viewers are connected to. -/
def verifyBroadcaster (c : PusherConfig) : Answer (Except BroadcastError Unit) :=
  match Pusher.Client.build c with
  | .error e => ⟨[], .error e⟩
  | .ok _ =>
    ⟨[.plain .info Supervision.target "Pusher client ready" [("app_id", .shown c.appId)]], .ok ()⟩

/-- What keeps the factory from building a worker's processor. -/
inductive FactoryFault where
  | store (cause : StoreError)
  | broadcaster (cause : BroadcastError)

def FactoryFault.message : FactoryFault → String
  | .store cause => cause.message
  | .broadcaster cause => cause.message

/-- Build what a worker's processor needs: a connection and a client of its own. -/
def create (n : Network σ) (c : Config) (worker : Nat) :
    Answer (Except FactoryFault Pusher.Client) :=
  let opened := n.openStore c.database
  match opened.result with
  | .error e => ⟨opened.events, .error (.store e)⟩
  | .ok _ =>
    match Pusher.Client.build c.pusher with
    | .error e => ⟨opened.events, .error (.broadcaster e)⟩
    | .ok client =>
      ⟨opened.events ++
        [.plain .debug Supervision.target "Worker handles ready" [("worker", .integer worker)]],
        .ok client⟩

/-- The workers of a configuration. -/
def setup (n : Network σ) (c : Config) : Broker.Setup Task (World σ) where
  multiplier := c.broker.multiplier.toNat
  processor := logPartProcessor (n.systems (.ofConfig c.pusher))
  factory worker :=
    match (n.create c worker).result with
    | .ok _ => .ok ()
    | .error e => .error e.message

/-- A queue's server that can be connected to, or the reason why not. -/
def connectBroker (n : Network σ) (c : QueueConfig) :
    Answer (Except BrokerError (World σ → Broker.Session Task (World σ))) :=
  let dialed := n.dial c
  ⟨dialed.events c,
    match dialed.result? with
    | some (.error e) => .error e
    | _ => .ok (Broker.Session.made c.queue dialed)⟩

/-- The systems of a configuration, as the supervisor depends on them. -/
def dependencies (n : Network σ) (c : Config) (s : σ) :
    Dependencies σ (Broker.Session Task (World σ)) Broker.Session.Label where
  store := (n.verifyStore c.database s).mapError .store
  broadcaster := (verifyBroadcaster c.pusher).mapError .broadcaster
  broker := (n.connectBroker c.broker).mapError .broker
  via := Broker.Session.interface (n.setup c)
  world session := session.pool.world
  update f session := { session with pool := { session.pool with world := f session.pool.world } }

end Network

/-- What the factory of processors looks like from outside, without the secret. -/
def Config.describeFactory (c : Config) (m : Metrics) (started : String) : String :=
  describeFields "WorkerFactory"
    [("database", c.database.describe), ("pusher", c.pusher.describe),
      ("metrics", "Metrics \x7b started: " ++ started ++ ", flushes: " ++ toString m.flushes ++
        ", .. \x7d")]

/-- A network in which nothing can be reached, for this reason. -/
def Network.absent (reason : String) (now : Int) : Network Unit where
  reach _ := .error (.communication reason)
  execute _ s := ⟨.error (.communication reason), 0, id, s⟩
  post _ s := ⟨.error reason, 0, id, s⟩
  now _ := now
  dial c := Broker.Dialing.refused c (.connection (c.addressFault?.getD reason))

/-- What the supervisor is asked to do by a configuration. An interval of zero, which no accepted
configuration has, counts as one second. -/
def Config.order (c : Config) : Supervision.Order where
  queue := c.broker.queue
  workers := c.pool.workers.toNat
  interval := max 1 c.pool.metricsInterval.toNat * 1000
  interval_pos := Nat.mul_pos (Nat.lt_of_lt_of_le Nat.one_pos (Nat.le_max_left ..)) (by decide)

/-- The supervisor of a configuration in a network, after all that it does without waiting. -/
def Network.start {σ : Type} (n : Network σ) (c : Config) (world : World σ) :
    Supervision σ (Broker.Session Task (World σ)) :=
  (Supervision.start world).settle (n.dependencies c world.systems) c.order 8

end JobLog
