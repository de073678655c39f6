import JobLog.Part
import JobLog.Store.Memory
import JobLog.Broadcast.Memory
import JobLog.Metrics.Snapshot

/-!
# Handling one message

A message body is parsed, its job's log is looked up, the part is stored, and viewers are told. The
first step that fails ends the work, and nothing is tried again. A `Task` is one message at one of
these program points, so that the tasks of several workers can be interleaved step by step;
`Task.complete` runs one to its end without interruption.
-/

namespace JobLog

/-- What a call to another system answers, how long it takes, what becomes of the date meanwhile, and
how it leaves that system. -/
structure Reply (σ α : Type) where
  result : α
  nanos : Nat
  wall : Moment → Moment
  state : σ

/-- The systems that the handling of a message calls, with a joint state. -/
structure Collaborators (σ : Type) where
  find : Int64 → σ → Reply σ (Except StoreError Int64)
  insert : Entry → σ → Reply σ (Except StoreError Int)
  publish : Announcement → σ → Reply σ (Except BroadcastError Unit)

/-- Everything outside one task: the other systems, the shared metrics, the log of events in order,
and the two clocks, one in nanoseconds and one for dates. -/
structure World (σ : Type) where
  systems : σ
  metrics : Metrics
  events : List Event
  clock : Nat
  wall : Moment

/-- The world after a call, during which both clocks go on. -/
def World.after {σ α : Type} (w : World σ) (reply : Reply σ α) : World σ :=
  { w with systems := reply.state, clock := w.clock + reply.nanos, wall := reply.wall w.wall }

/-- A part that went all the way, with its row. -/
structure Processed where
  row : Int
  log : Int64
  job : Int64
  number : Int64
  isFinal : Bool
  deriving DecidableEq, Repr

namespace Task

/-- Where the handling of a message stands. -/
inductive Phase where
  | received (body : Json.Bytes)
  | resolving (part : Part)
  | storing (part : Part) (log : Int64)
  | announcing (part : Part) (log : Int64) (row : Int)
  /-- All calls are made; `part` is what the body held, if it could be read. -/
  | ending (part : Option Part) (result : Except ProcessError Processed)
  | finished (result : Except ProcessError Processed)

/-- How many steps are left at most. -/
def Phase.left : Phase → Nat
  | .received _ => 5
  | .resolving _ => 4
  | .storing .. => 3
  | .announcing .. => 2
  | .ending .. => 1
  | .finished _ => 0

end Task

/-- A message in the hands of a worker since `started`. -/
structure Task where
  worker : Nat
  started : Nat
  phase : Task.Phase

namespace Task

variable {σ : Type}

/-- A worker takes a message at a time of the clock. -/
def start (worker clock : Nat) (body : Json.Bytes) : Task :=
  ⟨worker, clock, .received body⟩

/-- The entry that is stored for a part. -/
def entry (part : Part) (log : Int64) (wall : Moment) : Entry :=
  ⟨log, part.number, part.content, part.isFinal, wall⟩

/-- What is announced for a part. -/
def announcement (part : Part) : Announcement :=
  ⟨channel part.job, partEvent, part.data⟩

/-- The part of the program that reports on messages. -/
def target : String := "logrelay_worker::processor"

/-- The span around the handling of a message; it names the part once the body could be read. -/
def span (part : Option Part) : Event.Span :=
  ⟨"log_part",
    match part with
    | none => []
    | some part => [("job_id", .integer part.job.toInt), ("number", .integer part.number.toInt)]⟩

/-- What is reported about a message. -/
def event (worker : Nat) (part : Option Part) (result : Except ProcessError Processed) : Event :=
  .within (span part) <|
    match result with
    | .ok done =>
      .plain .debug target "Log part stored"
        [("part_id", .integer done.row), ("log_id", .integer done.log.toInt)]
    | .error e =>
      .plain .warn target "Failed to process log part"
        [("stage", .shown e.stage.name), ("worker", .integer worker), ("error", .shown e.message)]

/-- The metrics after the announcement of a part. -/
def countPublish (m : Metrics) (nanos : Nat) (result : Except BroadcastError Unit) : Metrics :=
  match result with
  | .ok _ => m.recordPublish nanos
  | .error _ => (m.recordPublish nanos).markPublishFailed

/-- The metrics after a message has been handled. -/
def countProcessing (m : Metrics) (nanos : Nat) (result : Except ProcessError Processed) :
    Metrics :=
  match result with
  | .ok _ => m.recordProcessing nanos
  | .error _ => (m.recordProcessing nanos).markProcessingFailed

/-- One step of a phase: at most one call to another system. -/
def next (systems : Collaborators σ) (worker started : Nat) (w : World σ) :
    Phase → Phase × World σ
  | .received body =>
    match Part.parse body with
    | .error e => (.ending none (.error (.parse e)), w)
    | .ok part => (.resolving part, w)
  | .resolving part =>
    let reply := systems.find part.job w.systems
    match reply.result with
    | .error e => (.ending (some part) (.error (.ofLookup e)), w.after reply)
    | .ok log => (.storing part log, w.after reply)
  | .storing part log =>
    let reply := systems.insert (entry part log w.wall) w.systems
    match reply.result with
    | .error e => (.ending (some part) (.error (.persist e)), w.after reply)
    | .ok row => (.announcing part log row, w.after reply)
  | .announcing part log row =>
    let reply := systems.publish (announcement part) w.systems
    let counted := { w.after reply with metrics := countPublish w.metrics reply.nanos reply.result }
    match reply.result with
    | .error e => (.ending (some part) (.error (.publish e)), counted)
    | .ok _ => (.ending (some part) (.ok ⟨row, log, part.job, part.number, part.isFinal⟩), counted)
  | .ending part result =>
    (.finished result,
      { w with
        metrics := countProcessing w.metrics (w.clock - started) result
        events := w.events ++ [event worker part result] })
  | .finished result => (.finished result, w)

theorem next_left_lt (systems : Collaborators σ) (worker started : Nat) (w : World σ)
    (phase : Phase) (h : 0 < phase.left) :
    (next systems worker started w phase).1.left < phase.left := by
  cases phase with
  | finished => exact absurd h (Nat.lt_irrefl 0)
  | ending => exact Nat.one_pos
  | received => simp only [next]; split <;> simp [Phase.left]
  | resolving => simp only [next]; split <;> simp [Phase.left]
  | storing => simp only [next]; split <;> simp [Phase.left]
  | announcing => simp only [next]; split <;> simp [Phase.left]

/-- One step of a task. -/
def step (systems : Collaborators σ) (t : Task) (w : World σ) : Task × World σ :=
  let moved := next systems t.worker t.started w t.phase
  ({ t with phase := moved.1 }, moved.2)

/-- The result of a phase that has one. -/
def Phase.result? : Phase → Option (Except ProcessError Processed)
  | .finished result => some result
  | _ => none

theorem Phase.left_pos {phase : Phase} (h : phase.result? = none) : 0 < phase.left := by
  cases phase <;> simp_all [Phase.result?, Phase.left]

/-- Run a phase to its end. -/
def finish (systems : Collaborators σ) (worker started : Nat) (w : World σ) (phase : Phase) :
    Except ProcessError Processed × World σ :=
  match _h : phase.result? with
  | some result => (result, w)
  | none =>
    finish systems worker started (next systems worker started w phase).2
      (next systems worker started w phase).1
termination_by phase.left
decreasing_by exact next_left_lt _ _ _ _ _ (Phase.left_pos _h)

/-- Run a task to its end without interruption. -/
def complete (systems : Collaborators σ) (t : Task) (w : World σ) :
    Except ProcessError Processed × World σ :=
  finish systems t.worker t.started w t.phase

end Task

/-- Handle one message body as a worker, from start to end. -/
def World.handle {σ : Type} (systems : Collaborators σ) (worker : Nat) (body : Json.Bytes)
    (w : World σ) : Except ProcessError Processed × World σ :=
  (Task.start worker w.clock body).complete systems w

end JobLog
