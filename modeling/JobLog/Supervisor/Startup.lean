import JobLog.Broker.Consumption
import JobLog.Metrics.FlushLoop
import JobLog.Pipeline.Task

/-!
# The supervisor

The service comes up in a fixed order, and the first step that fails is the last one: the store
must answer, the broadcaster must be usable, metrics start to be flushed, the broker is connected,
the factory of processors is made. Then the queue is consumed until it ends or a shutdown is asked
for. On every way out the flush loop is stopped; after a consumption metrics are logged once more.

The flush loop runs beside all this, so a `Supervision` is advanced by steps of four kinds: those of
the supervisor, flushes, the passing of time, and those of the consumption with its broker.
-/

namespace JobLog

/-- What a system answers, and what is reported meanwhile. -/
structure Answer (α : Type) where
  events : List Event
  result : α

/-- An answer whose error is a reason why the service does not come up. -/
def Answer.mapError {ε α : Type} (a : Answer (Except ε α)) (reason : ε → StartupError) :
    Answer (Except StartupError α) :=
  ⟨a.events, a.result.mapError reason⟩

/-- The systems that the supervisor depends on. A broker has a state `β` and steps `ι`; workers
share a world with the other systems, which a broker takes in when it is connected. -/
structure Dependencies (σ β ι : Type) where
  store : Answer (Except StartupError Unit)
  broadcaster : Answer (Except StartupError Unit)
  broker : Answer (Except StartupError (World σ → β))
  via : Broker.Interface β ι
  world : β → World σ
  update : (World σ → World σ) → β → β

/-- Report events. -/
def World.report {σ : Type} (w : World σ) (events : List Event) : World σ :=
  { w with events := w.events ++ events }

/-- Log every metric. -/
def World.flush {σ : Type} (w : World σ) : World σ :=
  let reported := w.metrics.report w.clock
  { w.report reported.2.1 with metrics := reported.2.2 }

namespace Supervision

/-- A call of the supervisor to one of its dependencies. -/
inductive Call where
  | store
  | broadcaster
  | broker
  | factory
  deriving DecidableEq, Repr

/-- What the supervisor does next. -/
inductive Stage where
  | checkStore
  | checkBroadcaster
  | startLoop
  | dial
  /-- The broker has been called and has not answered yet. -/
  | dialing
  | makeFactory
  | consuming
  | returned (result : Except StartupError Unit)

/-- What the supervisor is asked to do. -/
structure Order where
  queue : String
  workers : Nat
  /-- Milliseconds between two flushes. -/
  interval : Nat
  interval_pos : 0 < interval

/-- One step of anything that goes on. -/
inductive Label (ι : Type) where
  | proceed
  | flush
  /-- Time passes. -/
  | pass (nanos : Nat)
  | consume (label : Broker.Consumption.Label ι)

/-- The part of the program that supervises. -/
def target : String := "logrelay_worker::supervisor"

def loopStarted (o : Order) : Event :=
  .plain .debug target "Metrics flush loop started" [("interval_secs", .integer (o.interval / 1000))]

def consumptionStarted (o : Order) : Event :=
  .plain .info target "Consuming log parts"
    [("queue", .text o.queue), ("workers", .integer o.workers)]

def shutdownRequested : Event :=
  .plain .info "logrelay_worker::broker" "Shutdown requested, draining workers" []

def poolStopped (m : Metrics) : Event :=
  .plain .info target "Worker pool stopped"
    [("processed", .integer m.processed.1), ("failed", .integer m.processingFailures)]

end Supervision

/-- A supervisor with everything that goes on around it. `apart` is the world until a broker has
taken it in, which is then part of the consumption. -/
structure Supervision (σ β : Type) where
  stage : Supervision.Stage
  calls : List Supervision.Call
  loop : Option Metrics.FlushLoop
  apart : World σ
  consumption : Option (Broker.Consumption β)

namespace Supervision

variable {σ β ι : Type}

/-- A supervisor that has not begun. -/
def start (world : World σ) : Supervision σ β :=
  ⟨.checkStore, [], none, world, none⟩

/-- The world as it is now. -/
def world (d : Dependencies σ β ι) (s : Supervision σ β) : World σ :=
  match s.consumption with
  | none => s.apart
  | some c => d.world c.broker

/-- Change the world. -/
def update (d : Dependencies σ β ι) (f : World σ → World σ) (s : Supervision σ β) :
    Supervision σ β :=
  match s.consumption with
  | none => { s with apart := f s.apart }
  | some c => { s with consumption := some { c with broker := d.update f c.broker } }

/-- Call a dependency. -/
def call (d : Dependencies σ β ι) (s : Supervision σ β) (which : Call) (events : List Event) :
    Supervision σ β :=
  { s with calls := s.calls ++ [which] }.update d (·.report events)

/-- Return; the flush loop is stopped. -/
def leave (s : Supervision σ β) (result : Except StartupError Unit) : Supervision σ β :=
  { s with stage := .returned result, loop := s.loop.map (·.abort) }

/-- Return from a consumption: the flush loop is stopped, metrics are logged once more. -/
def finish (d : Dependencies σ β ι) (s : Supervision σ β) (result : Except BrokerError Unit) :
    Supervision σ β :=
  (s.leave (result.mapError .broker)).update d fun w =>
    w.flush.report [poolStopped w.flush.metrics]

/-- Return if the consumption has ended. -/
def resume (d : Dependencies σ β ι) (s : Supervision σ β) : Supervision σ β :=
  match s.consumption.bind (·.result?) with
  | some result => s.finish d result
  | none => s

/-- The supervisor's own next step; nothing while it waits. -/
def proceed (d : Dependencies σ β ι) (o : Order) (s : Supervision σ β) :
    Option (Supervision σ β) :=
  match s.stage with
  | .checkStore =>
    let s := s.call d .store d.store.events
    match d.store.result with
    | .error e => some (s.leave (.error e))
    | .ok _ => some { s with stage := .checkBroadcaster }
  | .checkBroadcaster =>
    let s := s.call d .broadcaster d.broadcaster.events
    match d.broadcaster.result with
    | .error e => some (s.leave (.error e))
    | .ok _ => some { s with stage := .startLoop }
  | .startLoop =>
    let now := (s.world d).clock / 1000000
    some ({ s with
      stage := .dial
      loop := some (.start o.interval o.interval_pos now) }.update d (·.report [loopStarted o]))
  | .dial => some { s.call d .broker d.broker.events with stage := .dialing }
  | .dialing =>
    match d.broker.result with
    | .error e => some (s.leave (.error e))
    | .ok connect =>
      some { s with stage := .makeFactory, consumption := some (.start (connect s.apart)) }
  | .makeFactory =>
    some { s.call d .factory [consumptionStarted o] with stage := .consuming }
  | .consuming | .returned _ => none

/-- A flush, if one is due. -/
def flush (d : Dependencies σ β ι) (s : Supervision σ β) : Option (Supervision σ β) :=
  match s.loop with
  | some loop =>
    if loop.running = true ∧ loop.due * 1000000 ≤ (s.world d).clock then
      some ({ s with loop := some { loop with due := loop.due + loop.interval } }.update d
        World.flush)
    else none
  | none => none

/-- A step of the consumption. Before and after it only its broker moves. Between the end of the
consumption and the supervisor's return nothing else happens, since the supervisor does not wait
there. -/
def consume (d : Dependencies σ β ι) (o : Order) (s : Supervision σ β)
    (label : Broker.Consumption.Label ι) : Option (Supervision σ β) :=
  match s.consumption with
  | none => none
  | some c =>
    match s.stage, label with
    | .consuming, .shutdown =>
      (c.step d.via o.workers .shutdown).map fun c =>
        { s with consumption := some c }.update d (·.report [shutdownRequested])
    | .consuming, label =>
      (c.step d.via o.workers label).map fun c => { s with consumption := some c }.resume d
    | _, .inner label =>
      (c.step d.via o.workers (.inner label)).map fun c => { s with consumption := some c }
    | _, _ => none

/-- One step; nothing if it is not its turn. -/
def step (d : Dependencies σ β ι) (o : Order) (s : Supervision σ β) :
    Label ι → Option (Supervision σ β)
  | .proceed => s.proceed d o
  | .flush => s.flush d
  | .pass nanos => some (s.update d fun w => { w with clock := w.clock + nanos })
  | .consume label => s.consume d o label

/-- Take the supervisor's own steps while it need not wait, at most `fuel` many, and stop where it
waits for the broker's answer. -/
def settle (d : Dependencies σ β ι) (o : Order) : Nat → Supervision σ β → Supervision σ β
  | 0, s => s
  | fuel + 1, s =>
    match s.stage with
    | .dialing => s
    | _ =>
      match s.step d o .proceed with
      | some s => settle d o fuel s
      | none => s

/-- What the supervisor returned, if it has. -/
def result? (s : Supervision σ β) : Option (Except StartupError Unit) :=
  match s.stage with
  | .returned result => some result
  | _ => none

/-- The states that a sequence of steps leads to. -/
inductive Reaches (d : Dependencies σ β ι) (o : Order) :
    Supervision σ β → List (Label ι) → Supervision σ β → Prop where
  | refl (s : Supervision σ β) : Reaches d o s [] s
  | step {s t u : Supervision σ β} {labels : List (Label ι)} {label : Label ι}
      (run : Reaches d o s labels t) (move : t.step d o label = some u) :
      Reaches d o s (labels ++ [label]) u

end Supervision

end JobLog
