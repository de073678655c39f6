import JobLog.Broker.Simulation
import JobLog.Supervisor.Startup

/-!
# One schedule of a supervisor, on simulated time

The supervisor takes every step as soon as it can, connecting takes as long as it is told to,
metrics are flushed at every moment at which a flush falls due, and the consumption of a broker in
memory is simulated as such.
-/

namespace JobLog.Supervision

variable {σ τ : Type}

/-- Dependencies with a broker in memory. -/
def inMemory (setup : Broker.Setup τ (World σ)) (store : Except StoreError Unit)
    (broadcaster : Except BroadcastError Unit)
    (broker : Except BrokerError (World σ → Broker.Queue τ (World σ))) :
    Dependencies σ (Broker.Queue τ (World σ)) Broker.Queue.Label where
  store := ⟨[], store.mapError .store⟩
  broadcaster := ⟨[], broadcaster.mapError .broadcaster⟩
  broker := ⟨[], broker.mapError .broker⟩
  via := Broker.Queue.interface setup
  world q := q.pool.world
  update f q := { q with pool := { q.pool with world := f q.pool.world } }

/-- Let time pass until a moment in milliseconds. -/
def passUntil {β ι : Type} (d : Dependencies σ β ι) (o : Order) (now : Nat)
    (s : Supervision σ β) : Supervision σ β :=
  (s.step d o (.pass (now * 1000000 - (s.world d).clock))).getD s

/-- Let time pass until a moment in milliseconds, with at most `fuel` flushes on the way. -/
def flushUntil {β ι : Type} (d : Dependencies σ β ι) (o : Order) (now : Nat) :
    Nat → Supervision σ β → Supervision σ β
  | 0, s => s.passUntil d o now
  | fuel + 1, s =>
    match s.loop with
    | some loop =>
      if loop.due ≤ now then
        match (s.passUntil d o loop.due).step d o .flush with
        | some s => flushUntil d o now fuel s
        | none => s.passUntil d o now
      else s.passUntil d o now
    | none => s.passUntil d o now

/-- The flushes that a loop started at time 0 can have made up to a moment, and one more. -/
def flushes (o : Order) (now : Nat) : Nat :=
  now / o.interval + 2

/-- Consume from a moment on until the consumption and with it the supervisor returns; `agenda` tells
what happens from outside. -/
def consumeAll (d : Dependencies σ (Broker.Queue τ (World σ)) Broker.Queue.Label)
    (setup : Broker.Setup τ (World σ)) (o : Order) (now : Nat)
    (agenda : List (Nat × Broker.Happening))
    (s : Supervision σ (Broker.Queue τ (World σ))) : Supervision σ (Broker.Queue τ (World σ)) :=
  match s.consumption with
  | none => s
  | some c =>
    let played := (Broker.Simulation.start c.broker now).play setup (fun _ => ⟨0, true, false⟩)
      o.workers (c.broker.published + agenda.length + 4) agenda
    ({ s with consumption := some played.run }.flushUntil d o played.now
      (flushes o played.now)).resume d

/-- The supervisor when the broker answers, `connecting` milliseconds after the start. -/
def untilDialed {β ι : Type} (d : Dependencies σ β ι) (o : Order) (connecting : Nat)
    (world : World σ) : Supervision σ β :=
  let s := (start world).settle d o 5
  match s.stage with
  | .dialing => s.flushUntil d o connecting (flushes o connecting)
  | _ => s

/-- The supervisor after it has returned. -/
def untilReturned (d : Dependencies σ (Broker.Queue τ (World σ)) Broker.Queue.Label)
    (setup : Broker.Setup τ (World σ)) (o : Order) (connecting : Nat)
    (agenda : List (Nat × Broker.Happening)) (s : Supervision σ (Broker.Queue τ (World σ))) :
    Supervision σ (Broker.Queue τ (World σ)) :=
  match s.step d o .proceed with
  | none => s
  | some s =>
    (s.settle d o 2).consumeAll d setup o connecting agenda

end JobLog.Supervision
