import JobLog.Broker.Pool
import JobLog.Broker.Prefetch

/-!
# A broker in memory

Messages wait in a queue. A subscription moves them into a buffer, from which its workers take
them; a message occupies a slot from before it leaves the queue until it is acknowledged, and there
are as many slots as the prefetch bound allows. Closing ends the stream at once: what is being
processed is finished and acknowledged, what is only buffered is dropped.

Four kinds of activity share the state: the pump that fills the buffer, the workers, the call of
`subscribe`, and any number of calls of `close`. `Queue.step` is one indivisible step of one of
them, and a run is any sequence of such steps.

What a broker in memory reports of itself is left out: that a subscription has started, that its
workers have drained, that the broker is closed. A `Session` reports all of it.
-/

namespace JobLog.Broker

/-- What a broker has counted. -/
structure Stats where
  delivered : Nat
  acked : Nat
  inFlight : Nat
  maxInFlight : Nat
  prefetch : Nat
  deriving DecidableEq, Repr

namespace Stats

def zero : Stats := ⟨0, 0, 0, 0, 0⟩

/-- Count a message that is on its way to a worker. -/
def recordDelivery (s : Stats) : Stats :=
  { s with
    delivered := s.delivered + 1
    inFlight := s.inFlight + 1
    maxInFlight := max s.maxInFlight (s.inFlight + 1) }

/-- Count an acknowledged message. -/
def recordAck (s : Stats) : Stats :=
  { s with inFlight := s.inFlight - 1, acked := s.acked + 1 }

end Stats

/-- Where the pump is. -/
inductive Pump where
  | absent
  /-- It waits for a slot. -/
  | seeking
  /-- It has a slot and waits for a message. -/
  | holding
  /-- It has taken a message that is not counted yet. -/
  | taken (message : Message)
  /-- The message is counted and not in the buffer yet. -/
  | counted (message : Message)
  /-- It has stopped, and its end of the buffer is closed. -/
  | finished
  deriving DecidableEq, Repr

/-- The message in the hands of the pump. -/
def Pump.message? : Pump → Option Message
  | .taken m | .counted m => some m
  | .absent | .seeking | .holding | .finished => none

/-- Whether the pump occupies a slot. -/
def Pump.holds : Pump → Bool
  | .holding | .taken _ | .counted _ => true
  | .absent | .seeking | .finished => false

/-- Where the call of `subscribe` that passed the check of the lifecycle is. -/
inductive Subscription where
  /-- No call has passed yet. -/
  | absent
  /-- The factory has built the processors of the workers below `next`. -/
  | building (workers next : Nat)
  /-- The workers run. -/
  | running
  /-- All workers have ended; the stream is dropped, and then the pump is told to stop. -/
  | dropping
  /-- The call is about to return. -/
  | leaving (result : Except BrokerError Unit)
  | returned (result : Except BrokerError Unit)

/-- Where a call of `close` is; `waits` if the broker was subscribed. -/
inductive Closing where
  /-- The lifecycle is closed, and the queue is about to take no more messages. -/
  | ending (waits : Bool)
  /-- The stream is about to be stopped. -/
  | stopping (waits : Bool)
  /-- It waits until the workers have drained. -/
  | waiting
  | returned
  deriving DecidableEq, Repr

/-- A broker in memory with everything that goes on in it. -/
structure Queue (τ ω : Type) where
  lifecycle : Lifecycle
  /-- Whether messages are accepted. -/
  accepting : Bool
  /-- How many messages were published. -/
  published : Nat
  waiting : List Message
  /-- Whether a subscription has taken the queue's end. -/
  claimed : Bool
  stats : Stats
  /-- Slots that nobody occupies. -/
  free : Nat
  pump : Pump
  /-- Whether the pump has been told to stop. -/
  aborted : Bool
  buffer : List Message
  /-- Whether the workers' end of the buffer is open. -/
  buffering : Bool
  pool : Pool τ ω
  /-- Whether the stream is stopped. -/
  stopped : Bool
  /-- Whether the workers have drained. -/
  drained : Bool
  subscription : Subscription
  /-- How often the factory was called. -/
  built : Nat
  closings : List Closing

/-- What does not change while a broker lives. -/
structure Setup (τ ω : Type) where
  multiplier : Nat
  processor : Processor τ ω
  /-- What the factory answers for a worker. -/
  factory : Nat → Except String Unit

namespace Queue

variable {τ ω : Type}

/-- A new broker. -/
def new (world : ω) : Queue τ ω where
  lifecycle := .connected
  accepting := true
  published := 0
  waiting := []
  claimed := false
  stats := .zero
  free := 0
  pump := .absent
  aborted := false
  buffer := []
  buffering := false
  pool := .start 0 world
  stopped := false
  drained := false
  subscription := .absent
  built := 0
  closings := []

/-- Publish a message, which needs somebody who may still take it: after the pump has stopped, the
queue has no other end. -/
def publish (q : Queue τ ω) (body : List UInt8) : Except BrokerError Unit × Queue τ ω :=
  if q.accepting = true ∧ q.pump ≠ .finished then
    (.ok (), { q with
      published := q.published + 1
      waiting := q.waiting ++ [⟨q.published, body⟩] })
  else (.error .closed, q)

/-- Accept no more messages. -/
def endStream (q : Queue τ ω) : Queue τ ω :=
  { q with accepting := false }

/-- The check at the start of `subscribe`. A call that is refused changes nothing. -/
def subscribe (q : Queue τ ω) (workers : Nat) : Except BrokerError (Queue τ ω) :=
  if q.lifecycle.canBecome .subscribed then
    .ok { q with
      lifecycle := .subscribed
      subscription := if workers = 0 then .leaving (.error .noWorkers) else .building workers 0 }
  else .error (.invalidState q.lifecycle .subscribed)

/-- The start of `close`: the number of the call and the broker after it. A call that finds the
broker closed returns at once. -/
def close (q : Queue τ ω) : Nat × Queue τ ω :=
  (q.closings.length,
    match q.lifecycle with
    | .closed => { q with closings := q.closings ++ [.returned] }
    | before =>
      { q with
        lifecycle := .closed
        closings := q.closings ++ [.ending (before = .subscribed)] })

/-- What the stream gives to a worker that asks now, if it need not wait. -/
def next? (q : Queue τ ω) : Option Item :=
  if q.stopped then some .finished
  else
    match q.buffer with
    | m :: _ => some (.delivery m)
    | [] => if q.pump = .finished then some .finished else none

/-- One step of some activity. -/
inductive Label where
  | publish (body : List UInt8)
  | endStream
  | subscribe (workers : Nat)
  /-- The factory is called for the next worker. -/
  | build
  /-- With all processors built, pump and workers start. -/
  | launch
  | takeSlot
  | takeMessage
  | countMessage
  | bufferMessage
  /-- The pump finds the queue empty and ended. -/
  | endPump
  /-- The pump stops because it was told to. -/
  | cancelPump
  /-- A worker takes what the stream has for it. -/
  | pull (worker : Nat)
  | work (worker : Nat)
  | finish (worker : Nat)
  | acknowledge (worker : Nat)
  | release (worker : Nat)
  /-- All workers have ended. -/
  | join
  /-- The workers' end of the buffer is closed. -/
  | closeBuffer
  /-- A message that is still buffered is dropped. -/
  | dropBuffered
  /-- The pump is told to stop. -/
  | abort
  /-- The call of `subscribe` returns, and the workers count as drained. -/
  | leave
  | close
  /-- A call of `close` goes on. -/
  | proceed (closing : Nat)
  deriving DecidableEq, Repr

/-- A step of the pool that leaves the rest alone. -/
def inPool (setup : Setup τ ω) (q : Queue τ ω) (label : Pool.Label) : Option (Queue τ ω) :=
  (q.pool.step setup.processor label).map fun pool => { q with pool }

/-- The pump stops and gives back its slot, if it has one. -/
def stopPump (q : Queue τ ω) : Queue τ ω :=
  { q with pump := .finished, free := if q.pump.holds then q.free + 1 else q.free }

/-- One step of the pump. -/
def pumpStep (q : Queue τ ω) : Label → Option (Queue τ ω)
  | .takeSlot =>
    if q.pump = .seeking ∧ 0 < q.free then
      some { q with pump := .holding, free := q.free - 1 }
    else none
  | .takeMessage =>
    match q.pump, q.waiting with
    | .holding, m :: waiting => some { q with pump := .taken m, waiting }
    | _, _ => none
  | .countMessage =>
    match q.pump with
    | .taken m => some { q with pump := .counted m, stats := q.stats.recordDelivery }
    | _ => none
  | .bufferMessage =>
    match q.pump with
    | .counted m =>
      if q.buffering then some { q with pump := .seeking, buffer := q.buffer ++ [m] }
      else some q.stopPump
    | _ => none
  | .endPump =>
    if q.pump = .holding ∧ q.waiting = [] ∧ q.accepting = false then some q.stopPump else none
  | .cancelPump =>
    if q.aborted = true ∧ (q.pump = .seeking ∨ q.pump = .holding) then some q.stopPump else none
  | _ => none

/-- One step of a worker. -/
def workerStep (setup : Setup τ ω) (q : Queue τ ω) : Label → Option (Queue τ ω)
  | .pull i =>
    match q.next? with
    | some (.delivery m) =>
      ({ q with buffer := q.buffer.drop 1 }).inPool setup (.pull i (.delivery m))
    | some item => q.inPool setup (.pull i item)
    | none => none
  | .work i => q.inPool setup (.work i)
  | .finish i => q.inPool setup (.finish i)
  | .acknowledge i =>
    ({ q with stats := q.stats.recordAck }).inPool setup (.acknowledge i (.ok ()))
  | .release i => ({ q with free := q.free + 1 }).inPool setup (.release i)
  | _ => none

/-- Start the pump and the workers, unless the queue's end is taken. -/
def launch (setup : Setup τ ω) (q : Queue τ ω) (workers : Nat) : Queue τ ω :=
  if q.claimed then { q with subscription := .leaving (.error .closed) }
  else
    let bound := prefetch workers setup.multiplier
    { q with
      claimed := true
      stats := { q.stats with prefetch := bound }
      free := bound
      pump := .seeking
      buffering := true
      pool := .start workers q.pool.world
      subscription := .running }

/-- One step of the call of `subscribe`. -/
def subscriptionStep (setup : Setup τ ω) (q : Queue τ ω) : Label → Option (Queue τ ω)
  | .build =>
    match q.subscription with
    | .building workers next =>
      if next < workers then
        match setup.factory next with
        | .ok _ => some { q with built := q.built + 1, subscription := .building workers (next + 1) }
        | .error reason =>
          some { q with
            built := q.built + 1
            subscription := .leaving (.error (.factory next reason)) }
      else none
    | _ => none
  | .launch =>
    match q.subscription with
    | .building workers next => if next < workers then none else some (q.launch setup workers)
    | _ => none
  | .join =>
    match q.subscription with
    | .running => if q.pool.isDone then some { q with subscription := .dropping } else none
    | _ => none
  | .closeBuffer =>
    match q.subscription with
    | .dropping => if q.buffering then some { q with buffering := false } else none
    | _ => none
  | .dropBuffered =>
    match q.subscription, q.buffer with
    | .dropping, _ :: buffer =>
      if q.buffering then none else some { q with buffer, free := q.free + 1 }
    | _, _ => none
  | .abort =>
    match q.subscription with
    | .dropping =>
      if q.buffering = false ∧ q.buffer = [] then
        some { q with aborted := true, subscription := .leaving (.ok ()) }
      else none
    | _ => none
  | .leave =>
    match q.subscription with
    | .leaving result => some { q with drained := true, subscription := .returned result }
    | _ => none
  | _ => none

/-- Put one call of `close` further. -/
def setClosing (q : Queue τ ω) (i : Nat) (closing : Closing) : Queue τ ω :=
  { q with closings := q.closings.set i closing }

/-- One step of a call of `close`. -/
def closingStep (q : Queue τ ω) (i : Nat) : Option (Queue τ ω) :=
  match q.closings[i]? with
  | some (.ending waits) => some (q.endStream.setClosing i (.stopping waits))
  | some (.stopping waits) =>
    some { q.setClosing i (if waits then .waiting else .returned) with stopped := true }
  | some .waiting => if q.drained then some (q.setClosing i .returned) else none
  | _ => none

/-- One step of a broker; nothing if the activity is not at that point or has to wait. -/
def step (setup : Setup τ ω) (q : Queue τ ω) (label : Label) : Option (Queue τ ω) :=
  match label with
  | .publish body => some (q.publish body).2
  | .endStream => some q.endStream
  | .subscribe workers => some ((q.subscribe workers).toOption.getD q)
  | .close => some q.close.2
  | .proceed i => q.closingStep i
  | .takeSlot | .takeMessage | .countMessage | .bufferMessage | .endPump | .cancelPump =>
    q.pumpStep label
  | .pull _ | .work _ | .finish _ | .acknowledge _ | .release _ => q.workerStep setup label
  | .build | .launch | .join | .closeBuffer | .dropBuffered | .abort | .leave =>
    q.subscriptionStep setup label

/-- The states that a sequence of steps leads to. -/
inductive Reaches (setup : Setup τ ω) : Queue τ ω → List Label → Queue τ ω → Prop where
  | refl (q : Queue τ ω) : Reaches setup q [] q
  | step {q r s : Queue τ ω} {labels : List Label} {label : Label} (run : Reaches setup q labels r)
      (move : r.step setup label = some s) : Reaches setup q (labels ++ [label]) s

end Queue

end JobLog.Broker
