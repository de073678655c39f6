import JobLog.Broker.Consumption

/-!
# One schedule of a consumption, on simulated time

Of all the interleavings that a consumption allows, a simulation takes one: whatever can happen
without waiting happens at once, the pump before the workers, and then time jumps to the next thing
that falls due. Times are in milliseconds. Workers follow a script, which says how long they take
over each message, whether they then handle it, and whether they are lost over it.
-/

namespace JobLog.Broker

/-- What a worker does with one message. -/
structure Cue where
  delay : Nat
  handles : Bool
  crashes : Bool
  deriving DecidableEq, Repr

/-- The progress of a worker that follows a script. -/
inductive Scripted (τ : Type) where
  | idle
  | handling (task : τ)
  | crashing

/-- A processor that handles the messages for which the script asks it to. -/
def Processor.scripted {τ ω : Type} (cue : Message → Cue) (inner : Processor τ ω) :
    Processor (Scripted τ) ω where
  start worker m w :=
    if (cue m).crashes then .crashing
    else if (cue m).handles then .handling (inner.start worker m w)
    else .idle
  step worker t w :=
    match t with
    | .handling task =>
      let moved := inner.step worker task w
      (.handling moved.1, moved.2)
    | .idle | .crashing => (t, w)
  outcome?
    | .idle => some (.returned (.ok ()))
    | .handling task => inner.outcome? task
    | .crashing => some .crashed
  left
    | .handling task => inner.left task
    | .idle | .crashing => 0
  step_left_lt := by
    intro worker t w h
    cases t with
    | handling task => exact inner.step_left_lt h
    | idle => cases h
    | crashing => cases h

/-- A message that a worker has processed. -/
structure Trace where
  start : Nat
  finish : Nat
  index : Nat
  result : Except ProcessError Unit

/-- A thing from outside that happens at some time. -/
inductive Happening where
  | publish (body : List UInt8)
  | endStream
  | shutdown

/-- A consumption at some time; `since` tells when each worker took its message. -/
structure Simulation (τ ω : Type) where
  run : Consumption (Queue τ ω)
  now : Nat
  since : List (Nat × Nat)
  traces : List Trace

namespace Simulation

variable {τ ω : Type}

/-- The steps that are tried, in this order. -/
def labels (c : Consumption (Queue τ ω)) : List (Consumption.Label Queue.Label) :=
  let inner : Queue.Label → Consumption.Label Queue.Label := .inner
  [.begin] ++
    [Queue.Label.build, .launch, .countMessage, .bufferMessage, .takeMessage, .takeSlot, .endPump,
      .cancelPump].map inner ++
    (List.range c.broker.pool.workers.length).flatMap (fun i =>
      [inner (.work i), inner (.finish i), inner (.acknowledge i), inner (.release i),
        inner (.pull i)]) ++
    [Queue.Label.join, .closeBuffer, .dropBuffered, .abort, .leave].map inner ++
    (List.range c.broker.closings.length).map (fun i => inner (.proceed i)) ++
    [.settle, .conclude]

/-- When a worker may go on with its message. -/
def dueAt (cue : Message → Cue) (s : Simulation τ ω) (worker : Nat) : Option Nat :=
  match s.run.broker.pool.workers[worker]? with
  | some (.busy m _) => (s.since.lookup worker).map (· + (cue m).delay)
  | _ => none

/-- Whether the time for a step has come. -/
def ready (cue : Message → Cue) (s : Simulation τ ω) :
    Consumption.Label Queue.Label → Bool
  | .inner (.work i) | .inner (.finish i) =>
    match s.dueAt cue i with
    | some t => t ≤ s.now
    | none => false
  | _ => true

/-- Note when a message was taken and how its processing ended. -/
def note (setup : Setup τ ω) (s : Simulation τ ω) (label : Consumption.Label Queue.Label) :
    Simulation τ ω :=
  match label with
  | .inner (.pull i) => { s with since := (i, s.now) :: s.since.filter (·.1 ≠ i) }
  | .inner (.finish i) =>
    match s.run.broker.pool.workers[i]?, s.since.lookup i with
    | some (.busy m task), some start =>
      match setup.processor.outcome? task with
      | some (.returned result) => { s with traces := ⟨start, s.now, m.index, result⟩ :: s.traces }
      | _ => s
    | _, _ => s
  | _ => s

/-- Take the first of the steps that is possible now. -/
def first (setup : Setup τ ω) (cue : Message → Cue) (workers : Nat) (s : Simulation τ ω) :
    List (Consumption.Label Queue.Label) → Option (Simulation τ ω)
  | [] => none
  | label :: rest =>
    if s.ready cue label then
      match s.run.step (Queue.interface setup) workers label with
      | some run => some { s.note setup label with run }
      | none => first setup cue workers s rest
    else first setup cue workers s rest

/-- Take steps until none is possible without waiting, at most `fuel` many. -/
def settle (setup : Setup τ ω) (cue : Message → Cue) (workers : Nat) :
    Nat → Simulation τ ω → Simulation τ ω
  | 0, s => s
  | fuel + 1, s =>
    match s.first setup cue workers (labels s.run) with
    | some s => settle setup cue workers fuel s
    | none => s

/-- More steps than can be taken without waiting: a message takes fewer than twenty, and so do the
start and the end of a worker and each call of `close`. -/
def fuel (workers : Nat) (s : Simulation τ ω) : Nat :=
  20 * (s.run.broker.published + workers + s.run.broker.closings.length + 4)

/-- A thing from outside happens. -/
def happen (setup : Setup τ ω) (workers : Nat) (s : Simulation τ ω) (h : Happening) :
    Simulation τ ω :=
  let label : Consumption.Label Queue.Label := match h with
    | .publish body => .inner (.publish body)
    | .endStream => .inner .endStream
    | .shutdown => .shutdown
  { s with run := (s.run.step (Queue.interface setup) workers label).getD s.run }

/-- The earlier of two times. -/
def earlier (a b : Option Nat) : Option Nat :=
  match a, b with
  | some a, some b => some (min a b)
  | some a, none => some a
  | none, b => b

/-- The next time at which something falls due, given what is still to happen from outside. -/
def nextTime (cue : Message → Cue) (s : Simulation τ ω) (agenda : List (Nat × Happening)) :
    Option Nat :=
  (List.range s.run.broker.pool.workers.length).foldl
    (fun t i => earlier t (s.dueAt cue i)) (agenda.head?.map (·.1))

/-- Play on until the consumption returns or nothing is left to wait for. Every round ends the
processing of a message or takes a thing off the agenda, so `fuel` need not exceed their number. -/
def play (setup : Setup τ ω) (cue : Message → Cue) (workers : Nat) :
    Nat → List (Nat × Happening) → Simulation τ ω → Simulation τ ω
  | 0, _, s => s
  | rounds + 1, agenda, s =>
    let s := s.settle setup cue workers (s.fuel workers)
    match s.run.result? with
    | some _ => s
    | none =>
      match s.nextTime cue agenda with
      | none => s
      | some time =>
        let (now, later) := agenda.span (·.1 ≤ time)
        let s := now.foldl (fun s (_, h) => s.happen setup workers h) { s with now := max s.now time }
        play setup cue workers rounds later s

/-- A consumption of a broker that starts at a time. What the agenda has for no later time happens
first, except for a shutdown. -/
def start (queue : Queue τ ω) (now : Nat) : Simulation τ ω :=
  ⟨.start queue, now, [], []⟩

end Simulation

/-- Let a subscription of a broker run to its end without a shutdown or delays: its result and the
broker after it. -/
def Queue.subscribeNow {τ ω : Type} (setup : Setup τ ω) (workers : Nat) (q : Queue τ ω) :
    Option (Except BrokerError Unit) × Queue τ ω :=
  match q.subscribe workers with
  | .error cause => (some (.error cause), q)
  | .ok queue =>
    let s : Simulation τ ω := ⟨⟨queue, .running, .ended (.ok ())⟩, 0, [], []⟩
    let s := s.settle setup (fun _ => ⟨0, true, false⟩) workers (s.fuel workers)
    (s.run.returned? (Queue.interface setup), s.run.broker)

/-- Let a call of `close` run to its end: the broker after it. -/
def Queue.closeNow {τ ω : Type} (setup : Setup τ ω) (q : Queue τ ω) : Queue τ ω :=
  let (i, q) := q.close
  let next (q : Queue τ ω) := (q.step setup (.proceed i)).getD q
  next (next (next q))

end JobLog.Broker
