import JobLog.Broker.Consumption
import JobLog.Broker.Method
import JobLog.Event

/-!
# A session with a queue's server

The broker of the running program is a session with a server. Making it declares what is needed. A
subscription builds the processors, starts a consumer with a bound on unacknowledged deliveries,
and runs the workers on what the server delivers; closing stops the stream, waits until the workers
have drained, and closes the consumer's channel and the connection.

The server is free in what it does: it may answer a method or close the channel or the connection,
deliver messages, and end or break the stream at any time. The steps below are those of the
subscription, of the workers, of the calls of `close` and of the server.
-/

namespace JobLog.Broker

/-- The part of the program that talks to the server. -/
def sessionTarget : String := "logrelay_worker::broker::amqp"

/-! ## Making a session -/

/-- A session that is being made. -/
structure Dialing where
  calls : Calls
  sent : List Method
  /-- The failure that ended it. -/
  failure : Option SessionError

namespace Dialing

/-- Begin to make a session. -/
def start (c : QueueConfig) : Dialing :=
  ⟨.of (setupMethods c), [], none⟩

/-- One step. After a failure nothing more is sent. -/
def step (d : Dialing) (e : Exchange) : Option Dialing :=
  match d.failure with
  | some _ => none
  | none =>
    (d.calls.step e).map fun p =>
      { calls := p.calls
        sent := d.sent ++ p.sent.toList
        failure :=
          match p.ended with
          | some (_, .error cause) => some cause
          | _ => none }

/-- How it ended, if it has. -/
def result? (d : Dialing) : Option (Except BrokerError Unit) :=
  match d.failure, d.calls.methods with
  | some cause, _ => some (.error (.session cause))
  | none, [] => some (.ok ())
  | none, _ => none

/-- What is reported when it begins. -/
def begun : Event :=
  .plain .info sessionTarget "Connecting to AMQP" []

/-- What is reported when all is declared. -/
def declared (c : QueueConfig) : Event :=
  .plain .info sessionTarget "AMQP topology declared"
    [("queue", .shown c.queue), ("exchange", .shown c.exchange)]

/-- What is reported by now. -/
def events (c : QueueConfig) (d : Dialing) : List Event :=
  begun :: match d.result? with
    | some (.ok _) => [declared c]
    | _ => []

/-- Make a session with a server that cannot be connected to. -/
def refused (c : QueueConfig) (cause : SessionError) : Dialing :=
  ((start c).step (.refuse cause)).getD (start c)

end Dialing

/-! ## The session -/

/-- Where the call of `subscribe` that passed the check of the lifecycle is. -/
inductive Attachment where
  | absent
  /-- The factory has built the processors of the workers below `next`. -/
  | building (workers next : Nat)
  /-- The consumer is being started. -/
  | calling (workers : Nat) (calls : Calls)
  /-- The workers run. -/
  | running
  /-- The call is about to return. -/
  | leaving (result : Except BrokerError Unit)
  | returned (result : Except BrokerError Unit)

/-- Where a call of `close` is; `waits` if the session was subscribed. -/
inductive Farewell where
  /-- The lifecycle is closed, and the stream is about to be stopped. -/
  | stopping (waits : Bool)
  /-- It waits until the workers have drained. -/
  | waiting
  /-- The consumer's channel and the connection are being closed. -/
  | calling (calls : Calls)
  | returned

/-- A session with everything that goes on in it. -/
structure Session (τ ω : Type) where
  queue : String
  lifecycle : Lifecycle
  /-- All methods that were sent, in order. -/
  sent : List Method
  /-- The methods for which the server's agreement has arrived, in order. -/
  confirmed : List Method
  /-- How many messages the server has delivered. -/
  delivered : Nat
  /-- What has arrived and is not taken by a worker yet. -/
  arrived : List Item
  /-- Whether the server has ended the stream. -/
  ended : Bool
  pool : Pool τ ω
  /-- Whether the stream is stopped. -/
  stopped : Bool
  /-- Whether the workers have drained. -/
  drained : Bool
  attachment : Attachment
  /-- How often the factory was called. -/
  built : Nat
  farewells : List Farewell
  events : List Event

namespace Session

variable {τ ω : Type}

/-- A session that was just made for a queue. -/
def made (queue : String) (d : Dialing) (world : ω) : Session τ ω where
  queue := queue
  lifecycle := .connected
  sent := d.sent
  confirmed := d.sent
  delivered := 0
  arrived := []
  ended := false
  pool := .start 0 world
  stopped := false
  drained := false
  attachment := .absent
  built := 0
  farewells := []
  events := []

/-- Add to what is reported. -/
def report (s : Session τ ω) (level : Level) (message : String)
    (fields : Event.Fields) : Session τ ω :=
  { s with events := s.events ++ [.plain level sessionTarget message fields] }

/-- The check at the start of `subscribe`. A call that is refused changes nothing. -/
def subscribe (s : Session τ ω) (workers : Nat) : Except BrokerError (Session τ ω) :=
  if s.lifecycle.canBecome .subscribed then
    .ok { s with
      lifecycle := .subscribed
      attachment := if workers = 0 then .leaving (.error .noWorkers) else .building workers 0 }
  else .error (.invalidState s.lifecycle .subscribed)

/-- The start of `close`: the number of the call and the session after it. A call that finds the
session closed returns at once. -/
def close (s : Session τ ω) : Nat × Session τ ω :=
  (s.farewells.length,
    match s.lifecycle with
    | .closed => { s with farewells := s.farewells ++ [.returned] }
    | before =>
      { s with
        lifecycle := .closed
        farewells := s.farewells ++ [.stopping (before = .subscribed)] })

/-- Whether a method has been sent that starts the consumer. -/
def isConsuming (s : Session τ ω) : Bool :=
  s.sent.any fun
    | .consume .. => true
    | _ => false

/-- Whether the session keeps the consumer's channel: it does once the bound is confirmed. -/
def keepsChannel (s : Session τ ω) : Bool :=
  s.confirmed.any fun
    | .limit _ => true
    | _ => false

/-- What the stream gives to a worker that asks now, if it need not wait. -/
def next? (s : Session τ ω) : Option Item :=
  if s.stopped then some .finished
  else
    match s.arrived with
    | item :: _ => some item
    | [] => if s.ended then some .finished else none

/-- One step of some activity. -/
inductive Label where
  | subscribe (workers : Nat)
  /-- The factory is called for the next worker. -/
  | build
  /-- With all processors built, the consumer is about to be started. -/
  | attach
  /-- A step of the calls that start the consumer. -/
  | call (exchange : Exchange)
  /-- The server delivers a message. -/
  | deliver (body : List UInt8)
  /-- The server breaks the stream. -/
  | fail (cause : SessionError)
  /-- The server ends the stream. -/
  | endStream
  /-- A worker takes what the stream has for it. -/
  | pull (worker : Nat)
  | work (worker : Nat)
  | finish (worker : Nat)
  | acknowledge (worker : Nat) (result : Except SessionError Unit)
  | release (worker : Nat)
  /-- All workers have ended. -/
  | join
  /-- The call of `subscribe` returns, and the workers count as drained. -/
  | leave
  | close
  /-- A call of `close` stops the stream, or finds that the workers have drained. -/
  | proceed (farewell : Nat)
  /-- A step of the calls that close the channel and the connection. -/
  | part (farewell : Nat) (exchange : Exchange)

/-- A step of the pool that leaves the rest alone. -/
def inPool (setup : Setup τ ω) (s : Session τ ω) (label : Pool.Label) : Option (Session τ ω) :=
  (s.pool.step setup.processor label).map fun pool => { s with pool }

/-- Note what a step of some calls sent and what the server agreed to. -/
def note (s : Session τ ω) (p : Progress) : Session τ ω :=
  { s with
    sent := s.sent ++ p.sent.toList
    confirmed :=
      match p.ended with
      | some (m, .ok _) => s.confirmed ++ [m]
      | _ => s.confirmed }

/-- Let the workers run. -/
def launch (setup : Setup τ ω) (s : Session τ ω) (workers : Nat) : Session τ ω :=
  { s with pool := .start workers s.pool.world, attachment := .running }.report .info "Subscribed"
    [("queue", .text s.queue), ("workers", .integer workers),
      ("prefetch", .integer (prefetch workers setup.multiplier))]

/-- One step of the call of `subscribe`. -/
def attachmentStep (setup : Setup τ ω) (s : Session τ ω) : Label → Option (Session τ ω)
  | .build =>
    match s.attachment with
    | .building workers next =>
      if next < workers then
        some { s with
          built := s.built + 1
          attachment :=
            match setup.factory next with
            | .ok _ => .building workers (next + 1)
            | .error reason => .leaving (.error (.factory next reason)) }
      else none
    | _ => none
  | .attach =>
    match s.attachment with
    | .building workers next =>
      if next < workers then none
      else
        some { s with
          attachment := .calling workers
            (.of (consumerMethods s.queue (prefetch workers setup.multiplier))) }
    | _ => none
  | .call exchange =>
    match s.attachment with
    | .calling workers calls =>
      (calls.step exchange).map fun p =>
        let s := s.note p
        match p.ended with
        | some (_, .error cause) => { s with attachment := .leaving (.error (.session cause)) }
        | _ =>
          if p.calls.methods = [] then s.launch setup workers
          else { s with attachment := .calling workers p.calls }
    | _ => none
  | .join =>
    match s.attachment with
    | .running =>
      if s.pool.isDone then
        some ({ s with attachment := .leaving (.ok ()) }.report .info
          "Delivery stream closed, workers drained" [("queue", .text s.queue)])
      else none
    | _ => none
  | .leave =>
    match s.attachment with
    | .leaving result => some { s with drained := true, attachment := .returned result }
    | _ => none
  | _ => none

/-- One step of the server. It delivers nothing before a consumer is started and nothing after the
stream's end. -/
def serverStep (s : Session τ ω) : Label → Option (Session τ ω)
  | .deliver body =>
    if s.isConsuming = true ∧ s.ended = false then
      some { s with
        delivered := s.delivered + 1
        arrived := s.arrived ++ [.delivery ⟨s.delivered, body⟩] }
    else none
  | .fail cause =>
    if s.isConsuming = true ∧ s.ended = false then
      some { s with arrived := s.arrived ++ [.failure (.session cause)] }
    else none
  | .endStream => if s.isConsuming then some { s with ended := true } else none
  | _ => none

/-- One step of a worker. A message is acknowledged by its own tag, which counts from one. -/
def workerStep (setup : Setup τ ω) (s : Session τ ω) : Label → Option (Session τ ω)
  | .pull i =>
    match s.next? with
    | some .finished => s.inPool setup (.pull i .finished)
    | some item => ({ s with arrived := s.arrived.drop 1 }).inPool setup (.pull i item)
    | none => none
  | .work i => s.inPool setup (.work i)
  | .finish i => s.inPool setup (.finish i)
  | .acknowledge i result =>
    match s.pool.workers[i]? with
    | some (.acknowledging m) =>
      let sent := match result with
        | .ok _ => s.sent ++ [.acknowledge (m.index + 1) false]
        | .error _ => s.sent
      ({ s with sent }).inPool setup (.acknowledge i (result.mapError .session))
    | _ => none
  | .release i => s.inPool setup (.release i)
  | _ => none

/-- Put one call of `close` further. -/
def setFarewell (s : Session τ ω) (i : Nat) (farewell : Farewell) : Session τ ω :=
  { s with farewells := s.farewells.set i farewell }

/-- Begin to close the channel and the connection. -/
def beginClosing (s : Session τ ω) (i : Nat) : Session τ ω :=
  s.setFarewell i (.calling (.of (closingMethods s.keepsChannel)))

/-- What is reported if a method that ends the session fails. -/
def alreadyClosed : Method → String
  | .closeChannel .. => "Consumer channel already closed"
  | _ => "AMQP connection already closed"

/-- One step of a call of `close`. A method that fails is reported and does not keep the next one
from being called. -/
def farewellStep (s : Session τ ω) : Label → Option (Session τ ω)
  | .proceed i =>
    match s.farewells[i]? with
    | some (.stopping true) => some { s.setFarewell i .waiting with stopped := true }
    | some (.stopping false) => some { s.beginClosing i with stopped := true }
    | some .waiting => if s.drained then some (s.beginClosing i) else none
    | _ => none
  | .part i exchange =>
    match s.farewells[i]? with
    | some (.calling calls) =>
      (calls.step exchange).map fun p =>
        let s := s.note p
        let s := match p.ended with
          | some (m, .error cause) =>
            s.report .debug (alreadyClosed m) [("error", .shown cause.message)]
          | _ => s
        if p.calls.methods = [] then
          (s.setFarewell i .returned).report .info "AMQP broker closed" []
        else s.setFarewell i (.calling p.calls)
    | _ => none
  | _ => none

/-- One step of a session; nothing if the activity is not at that point or has to wait. -/
def step (setup : Setup τ ω) (s : Session τ ω) (label : Label) : Option (Session τ ω) :=
  match label with
  | .subscribe workers => some ((s.subscribe workers).toOption.getD s)
  | .close => some s.close.2
  | .build | .attach | .call _ | .join | .leave => s.attachmentStep setup label
  | .deliver _ | .fail _ | .endStream => s.serverStep label
  | .pull _ | .work _ | .finish _ | .acknowledge .. | .release _ => s.workerStep setup label
  | .proceed _ | .part .. => s.farewellStep label

/-- The interface of a session. -/
def interface (setup : Setup τ ω) : Interface (Session τ ω) Label where
  subscribe := subscribe
  returned? s :=
    match s.attachment with
    | .returned result => some result
    | _ => none
  close := close
  hasClosed s i :=
    match s.farewells[i]? with
    | some .returned => true
    | _ => false
  step s label :=
    match label with
    | .subscribe _ => none
    | label => s.step setup label

/-- The states that a sequence of steps leads to. -/
inductive Reaches (setup : Setup τ ω) : Session τ ω → List Label → Session τ ω → Prop where
  | refl (s : Session τ ω) : Reaches setup s [] s
  | step {s t u : Session τ ω} {labels : List Label} {label : Label} (run : Reaches setup s labels t)
      (move : t.step setup label = some u) : Reaches setup s (labels ++ [label]) u

end Session

end JobLog.Broker
