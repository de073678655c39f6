import JobLog.Broker.Queue

/-!
# Consuming a queue until it ends or a shutdown is asked for

A consumption runs one subscription and races it against the request to shut down. If the
subscription returns first, the broker is closed afterwards. If the shutdown comes first, the
broker is closed while the subscription goes on, so that what is being processed is finished. The
result is the subscription's own either way.
-/

namespace JobLog.Broker

/-- What a consumption uses of a broker in a state `β` with steps `ι`. -/
structure Interface (β ι : Type) where
  /-- The check at the start of `subscribe` for a number of workers. -/
  subscribe : β → Nat → Except BrokerError β
  /-- What the subscription that passed the check has returned. -/
  returned? : β → Option (Except BrokerError Unit)
  /-- The start of `close`: the number of the call and the broker after it. -/
  close : β → Nat × β
  /-- Whether a call of `close` has returned. -/
  hasClosed : β → Nat → Bool
  /-- Any other step; nothing if it is not its turn. -/
  step : β → ι → Option β

/-- The interface of a broker in memory. -/
def Queue.interface {τ ω : Type} (setup : Setup τ ω) : Interface (Queue τ ω) Queue.Label where
  subscribe := Queue.subscribe
  returned? q :=
    match q.subscription with
    | .returned result => some result
    | _ => none
  close := Queue.close
  hasClosed q i :=
    match q.closings[i]? with
    | some .returned => true
    | _ => false
  step q label :=
    match label with
    | .subscribe _ => none
    | label => q.step setup label

/-- The consumption's call of `subscribe`. -/
inductive Call where
  | unstarted
  | running
  | refused (cause : BrokerError)

/-- Who has won the race; `closing` is the number of the call of `close` that follows. -/
inductive Race where
  | undecided
  | subscriptionWon (closing : Nat)
  | shutdownWon (closing : Nat)
  | ended (result : Except BrokerError Unit)

/-- A broker and one consumption of it. -/
structure Consumption (β : Type) where
  broker : β
  call : Call
  race : Race

namespace Consumption

variable {β ι : Type}

/-- A consumption that has not taken its first step. -/
def start (broker : β) : Consumption β :=
  ⟨broker, .unstarted, .undecided⟩

/-- What the subscription returned, if it has. -/
def returned? (via : Interface β ι) (c : Consumption β) : Option (Except BrokerError Unit) :=
  match c.call with
  | .unstarted => none
  | .refused cause => some (.error cause)
  | .running => via.returned? c.broker

/-- One step of a consumption or of its broker. -/
inductive Label (ι : Type) where
  /-- The subscription takes its first step. -/
  | begin
  | inner (label : ι)
  /-- The subscription has returned, and the broker is closed. -/
  | settle
  /-- The shutdown is asked for, and the broker is closed. -/
  | shutdown
  /-- The broker is closed and the subscription has returned. -/
  | conclude
  deriving DecidableEq, Repr

/-- Take the first step of the subscription. -/
def begin (via : Interface β ι) (workers : Nat) (c : Consumption β) : Consumption β :=
  match via.subscribe c.broker workers with
  | .ok broker => { c with broker, call := .running }
  | .error cause => { c with call := .refused cause }

/-- The result, once a call of `close` and the subscription have returned. -/
def conclude (via : Interface β ι) (c : Consumption β) (closing : Nat) :
    Option (Consumption β) :=
  if via.hasClosed c.broker closing then
    (c.returned? via).map fun result => { c with race := .ended result }
  else none

/-- One step; nothing if it is not its turn. The consumption makes the only call of `subscribe`. -/
def step (via : Interface β ι) (workers : Nat) (c : Consumption β) :
    Label ι → Option (Consumption β)
  | .begin =>
    match c.call, c.race with
    | .unstarted, .undecided | .unstarted, .shutdownWon _ => some (c.begin via workers)
    | _, _ => none
  | .inner label => (via.step c.broker label).map fun broker => { c with broker }
  | .settle =>
    match c.race, c.returned? via with
    | .undecided, some _ =>
      let closing := via.close c.broker
      some { c with broker := closing.2, race := .subscriptionWon closing.1 }
    | _, _ => none
  | .shutdown =>
    match c.race with
    | .undecided =>
      let closing := via.close c.broker
      some { c with broker := closing.2, race := .shutdownWon closing.1 }
    | _ => none
  | .conclude =>
    match c.race with
    | .subscriptionWon closing | .shutdownWon closing => c.conclude via closing
    | .undecided | .ended _ => none

/-- The result of a consumption that has returned. -/
def result? (c : Consumption β) : Option (Except BrokerError Unit) :=
  match c.race with
  | .ended result => some result
  | _ => none

/-- The states that a sequence of steps leads to. -/
inductive Reaches (via : Interface β ι) (workers : Nat) :
    Consumption β → List (Label ι) → Consumption β → Prop where
  | refl (c : Consumption β) : Reaches via workers c [] c
  | step {c d e : Consumption β} {labels : List (Label ι)} {label : Label ι}
      (run : Reaches via workers c labels d) (move : d.step via workers label = some e) :
      Reaches via workers c (labels ++ [label]) e

end Consumption

end JobLog.Broker
