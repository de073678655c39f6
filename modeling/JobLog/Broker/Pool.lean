import JobLog.Broker.Delivery

/-!
# The worker pool

A fixed number of workers share one stream. Each worker takes an item, processes it, acknowledges
it whatever came out, gives back the slot it occupied and takes the next. A failed stream and a
crash end the worker they hit and no other.

Processing is done by a `Processor` in small steps on a world that all workers share, so that the
work of several workers can be interleaved at every point. `Pool.step` is one such step; which
worker takes it is up to the schedule.

What workers report themselves is left out: that the stream has failed, that a message is
acknowledged although it has failed, that an acknowledgment has failed, that a worker has drained or
has ended by a crash. Only a processor adds to the events of the world.
-/

namespace JobLog.Broker

/-- How the processing of a message ended. -/
inductive Outcome where
  | returned (result : Except ProcessError Unit)
  | crashed

/-- A way to process messages step by step. `left` bounds the steps that remain, so that all
processing ends; how long a step takes is not said. -/
structure Processor (τ ω : Type) where
  start : (worker : Nat) → Message → ω → τ
  step : (worker : Nat) → τ → ω → τ × ω
  outcome? : τ → Option Outcome
  left : τ → Nat
  step_left_lt : ∀ {worker : Nat} {t : τ} {w : ω}, outcome? t = none →
    left (step worker t w).1 < left t

/-- What one worker is doing. -/
inductive Worker (τ : Type) where
  /-- It waits for the next item. -/
  | waiting
  | busy (message : Message) (task : τ)
  /-- The call has returned and the message is not acknowledged yet. -/
  | acknowledging (message : Message)
  /-- The message is done with, its slot is not given back yet. -/
  | releasing (message : Message) (lost : Bool)
  /-- It takes no more items; `lost` after a crash. -/
  | ended (lost : Bool)

/-- All workers with the world they share, who took which message and who tried to acknowledge
which, both in order. -/
structure Pool (τ ω : Type) where
  workers : List (Worker τ)
  world : ω
  pulled : List (Nat × Message)
  acknowledged : List (Nat × Message)

namespace Worker

variable {τ : Type}

/-- Whether a worker has ended. -/
def isEnded : Worker τ → Bool
  | .ended _ => true
  | _ => false

/-- Whether a worker runs a call on a message. -/
def isBusy : Worker τ → Bool
  | .busy .. => true
  | _ => false

/-- Whether a worker occupies a slot. -/
def holds : Worker τ → Bool
  | .busy .. | .acknowledging _ | .releasing .. => true
  | .waiting | .ended _ => false

end Worker

namespace Pool

/-- What a worker does next. -/
inductive Label where
  /-- It takes an item from the stream. -/
  | pull (worker : Nat) (item : Item)
  /-- It takes one step of its call. -/
  | work (worker : Nat)
  /-- Its call has come to an end. -/
  | finish (worker : Nat)
  /-- It acknowledges its message; nothing depends on whether that succeeds. -/
  | acknowledge (worker : Nat) (result : Except BrokerError Unit)
  /-- It gives back its slot. -/
  | release (worker : Nat)

variable {τ ω : Type}

/-- A pool of workers that wait. -/
def start (workers : Nat) (world : ω) : Pool τ ω :=
  ⟨List.replicate workers .waiting, world, [], []⟩

/-- Put one worker into another state. -/
def put (p : Pool τ ω) (worker : Nat) (state : Worker τ) : Pool τ ω :=
  { p with workers := p.workers.set worker state }

/-- One step of a worker; nothing if it is not at that point. The world changes only by steps of the
processor, so the worker reports nothing itself. -/
def step (processor : Processor τ ω) (p : Pool τ ω) : Label → Option (Pool τ ω)
  | .pull i item =>
    match p.workers[i]? with
    | some .waiting =>
      match item with
      | .delivery m =>
        some { p.put i (.busy m (processor.start i m p.world)) with pulled := p.pulled ++ [(i, m)] }
      | .failure _ | .finished => some (p.put i (.ended false))
    | _ => none
  | .work i =>
    match p.workers[i]? with
    | some (.busy m task) =>
      match processor.outcome? task with
      | some _ => none
      | none =>
        let (task, world) := processor.step i task p.world
        some { p.put i (.busy m task) with world }
    | _ => none
  | .finish i =>
    match p.workers[i]? with
    | some (.busy m task) =>
      match processor.outcome? task with
      | some (.returned _) => some (p.put i (.acknowledging m))
      | some .crashed => some (p.put i (.releasing m true))
      | none => none
    | _ => none
  | .acknowledge i _ =>
    match p.workers[i]? with
    | some (.acknowledging m) =>
      some { p.put i (.releasing m false) with acknowledged := p.acknowledged ++ [(i, m)] }
    | _ => none
  | .release i =>
    match p.workers[i]? with
    | some (.releasing _ lost) => some (p.put i (if lost then .ended true else .waiting))
    | _ => none

/-- Whether every worker has ended, which is when the pool returns. -/
def isDone (p : Pool τ ω) : Bool :=
  p.workers.all Worker.isEnded

end Pool

end JobLog.Broker
