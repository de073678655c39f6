import JobLog.Pipeline.Processor
import JobLog.Proofs.Consumption.Hosting
import JobLog.Proofs.Metrics.Counts
import JobLog.Proofs.Pool.Conservation
import Mathlib.Algebra.GroupWithZero.Nat

/-!
# One recorded duration for each message

Whatever the store and the broadcaster answer, a worker records one duration for each message that it
takes, at the end of its call: `logPartProcessor_records`. Where processors do so, the number of
recorded durations tells how many messages the workers have taken, up to their open calls:
`Pool.Recorded`.
-/

namespace JobLog

variable {σ τ : Type}

/-- A processor records one duration for each message; `due` is how many an open call has still to
record. -/
def Broker.Processor.Records (processor : Broker.Processor τ (World σ)) (due : τ → Nat) : Prop :=
  processor.Conserves (fun _ => True) (fun w => w.metrics.processing.recorded) due (fun _ => 1)

/-- How many durations a phase has still to record. -/
def Task.Phase.unrecorded : Task.Phase → Nat
  | .finished _ => 0
  | .received _ | .resolving _ | .storing .. | .announcing .. | .ending .. => 1

/-- A step of a phase that is open records a duration if it is the last. -/
theorem Task.next_recorded (systems : Collaborators σ) (worker started : Nat) (w : World σ)
    {phase : Task.Phase} (hopen : phase.result? = none) :
    (next systems worker started w phase).2.metrics.processing.recorded +
        (next systems worker started w phase).1.unrecorded =
      w.metrics.processing.recorded + phase.unrecorded := by
  cases phase with
  | received body =>
      simp only [next]
      split <;> rfl
  | resolving part =>
      simp only [next]
      split <;> rfl
  | storing part log =>
      simp only [next]
      split <;> rfl
  | announcing part log row =>
      have hcount (nanos : Nat) (result : Except BroadcastError Unit) :
          (countPublish w.metrics nanos result).processing = w.metrics.processing := by
        cases result <;> rfl
      simp only [next]
      split <;> simp only [hcount, Phase.unrecorded]
  | ending part result =>
      simp only [next, countProcessing, Phase.unrecorded]
      split <;> exact Metrics.Histogram.recorded_record _ _
  | finished => cases hopen

/-- The processor of log parts records one duration for each message. -/
theorem logPartProcessor_records (systems : Collaborators σ) :
    (logPartProcessor systems).Records fun t => t.phase.unrecorded where
  start _ _ _ := rfl
  step := by
    intro i t w _ hopen
    exact ⟨trivial, Task.next_recorded systems t.worker t.started { w with events := [] }
      (Option.map_eq_none_iff.1 hopen)⟩
  ended hended := by
    obtain ⟨result, hresult, -⟩ := Option.map_eq_some_iff.1 hended
    rename_i t outcome
    cases hphase : t.phase with
    | finished => rfl
    | received | resolving | storing | announcing | ending =>
        rw [hphase] at hresult
        cases hresult

namespace Broker.Pool

variable {processor : Processor τ (World σ)} {due : τ → Nat} {p r : Pool τ (World σ)} {earlier : Nat}

/-- Besides `earlier` ones, a duration is recorded for each message that was taken, unless a call on
it is open that will record it. -/
def Recorded (due : τ → Nat) (earlier : Nat) (p : Pool τ (World σ)) : Prop :=
  p.world.metrics.processing.recorded + p.total (Worker.due due) = earlier + p.pulled.length

theorem total_start (due : τ → Nat) (workers : Nat) (w : World σ) :
    (start workers w).total (Worker.due due) = 0 := by
  simp [total, start, Worker.due]

/-- Before workers start, nothing has been taken. -/
theorem recorded_start (due : τ → Nat) (workers : Nat) (w : World σ) :
    (start workers w).Recorded due w.metrics.processing.recorded := by
  rw [Recorded, total_start]
  rfl

theorem Recorded.advance (hrecords : processor.Records due) (h : p.Recorded due earlier)
    (hnext : p.Advances processor r) : r.Recorded due earlier := by
  have howed (p : Pool τ (World σ)) : p.owed (fun _ => 1) = p.pulled.length := by
    simp [owed]
  cases hnext with
  | still => exact h
  | started hworkers hpulled =>
      rw [Recorded, total, hworkers, hpulled] at h
      rw [Recorded, total_start]
      exact h
  | moved hmove =>
      have hsum := hmove.conserved hrecords trivial
      rw [howed, howed] at hsum
      rw [Recorded] at h ⊢
      omega

/-- Changes of the world that record nothing. -/
theorem Recorded.inWorld (h : p.Recorded due earlier) {f : World σ → World σ}
    (hkept : (f p.world).metrics.processing.recorded = p.world.metrics.processing.recorded) :
    (p.inWorld f).Recorded due earlier := by
  rw [Recorded] at h ⊢
  exact (congrArg (· + _) hkept).trans h

/-- When all workers have ended, a duration is recorded for each message that was taken. -/
theorem Recorded.recorded_eq (h : p.Recorded due earlier) (hdone : p.isDone = true) :
    p.world.metrics.processing.recorded = earlier + p.pulled.length := by
  rwa [Recorded, total_due_of_isDone due hdone, Nat.add_zero] at h

end Broker.Pool

end JobLog
