import JobLog.Broker.Pool
import JobLog.Pipeline.Memory

/-!
# The processor of log parts

Workers of a pool handle messages as tasks. What a task reports stands inside the span of the
worker that took the message.
-/

namespace JobLog

/-- The span around everything a worker does. -/
def workerSpan (worker : Nat) : Event.Span :=
  ⟨"worker", [("worker", .integer worker)]⟩

/-- The calls and events of one step of a task, the events inside the worker's span. -/
def Task.stepInSpan {σ : Type} (systems : Collaborators σ) (worker : Nat) (t : Task)
    (w : World σ) : Task × World σ :=
  let moved := t.step systems { w with events := [] }
  (moved.1, { moved.2 with
    events := w.events ++ moved.2.events.map (Event.within (workerSpan worker)) })

/-- The processor that handles messages with these systems. -/
def logPartProcessor {σ : Type} (systems : Collaborators σ) : Broker.Processor Task (World σ) where
  start worker message w := Task.start worker w.clock message.body
  step := Task.stepInSpan systems
  outcome? t := t.phase.result?.map fun result => .returned (result.map fun _ => ())
  left t := t.phase.left
  step_left_lt := by
    intro worker t w h
    exact Task.next_left_lt _ _ _ _ _ (Task.Phase.left_pos (Option.map_eq_none_iff.1 h))

end JobLog
