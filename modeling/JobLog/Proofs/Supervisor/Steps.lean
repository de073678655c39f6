import Mathlib.Data.List.Induction
import JobLog.Supervisor.Startup

/-!
# What a supervisor can do in one step

`Supervision.Moves` lists the steps of a supervisor and of what goes on around it, with their guards
and results, and `moves_of_step` says that there are no others. The small lemmas at the start say
what the operations behind the steps leave alone.
-/

namespace JobLog.Supervision

variable {σ β ι : Type} {d : Dependencies σ β ι} {o : Order} {s t u : Supervision σ β}
  {labels : List (Label ι)}

section Frame

variable (d) (f : World σ → World σ) (s : Supervision σ β) (which : Call) (events : List Event)

@[simp] theorem update_stage : (s.update d f).stage = s.stage := by
  unfold update
  split <;> rfl

@[simp] theorem update_calls : (s.update d f).calls = s.calls := by
  unfold update
  split <;> rfl

@[simp] theorem update_loop : (s.update d f).loop = s.loop := by
  unfold update
  split <;> rfl

@[simp] theorem call_calls : (s.call d which events).calls = s.calls ++ [which] := by
  rw [call, update_calls]

end Frame

/-- `Moves d o s label t` says that the step `label` takes the supervisor `s` to `t`. -/
inductive Moves (d : Dependencies σ β ι) (o : Order) (s : Supervision σ β) :
    Label ι → Supervision σ β → Prop where
  -- The steps of the supervisor.
  | storeFailed {e : StartupError} (hstage : s.stage = .checkStore)
      (hresult : d.store.result = .error e) :
      Moves d o s .proceed ((s.call d .store d.store.events).leave (.error e))
  | storeChecked (hstage : s.stage = .checkStore) (hresult : d.store.result = .ok ()) :
      Moves d o s .proceed { s.call d .store d.store.events with stage := .checkBroadcaster }
  | broadcasterFailed {e : StartupError} (hstage : s.stage = .checkBroadcaster)
      (hresult : d.broadcaster.result = .error e) :
      Moves d o s .proceed ((s.call d .broadcaster d.broadcaster.events).leave (.error e))
  | broadcasterChecked (hstage : s.stage = .checkBroadcaster)
      (hresult : d.broadcaster.result = .ok ()) :
      Moves d o s .proceed
        { s.call d .broadcaster d.broadcaster.events with stage := .startLoop }
  | loopStarted {now : Nat} (hstage : s.stage = .startLoop) :
      Moves d o s .proceed
        ({ s with
          stage := .dial
          loop := some (.start o.interval o.interval_pos now) }.update d (·.report [loopStarted o]))
  | dialed (hstage : s.stage = .dial) :
      Moves d o s .proceed { s.call d .broker d.broker.events with stage := .dialing }
  | dialFailed {e : StartupError} (hstage : s.stage = .dialing)
      (hresult : d.broker.result = .error e) :
      Moves d o s .proceed (s.leave (.error e))
  | connected {connect : World σ → β} (hstage : s.stage = .dialing)
      (hresult : d.broker.result = .ok connect) :
      Moves d o s .proceed
        { s with stage := .makeFactory, consumption := some (.start (connect s.apart)) }
  | factoryMade (hstage : s.stage = .makeFactory) :
      Moves d o s .proceed { s.call d .factory [consumptionStarted o] with stage := .consuming }
  -- Flushes and time.
  | flushed {loop : Metrics.FlushLoop} (hloop : s.loop = some loop)
      (hrunning : loop.running = true) (hdue : loop.due * 1000000 ≤ (s.world d).clock) :
      Moves d o s .flush
        ({ s with loop := some { loop with due := loop.due + loop.interval } }.update d World.flush)
  | passed {nanos : Nat} :
      Moves d o s (.pass nanos) (s.update d fun w => { w with clock := w.clock + nanos })
  -- The consumption with its broker.
  | shutdown {c e : Broker.Consumption β} (hstage : s.stage = .consuming)
      (hconsumption : s.consumption = some c)
      (hstep : c.step d.via o.workers .shutdown = some e) :
      Moves d o s (.consume .shutdown)
        ({ s with consumption := some e }.update d (·.report [shutdownRequested]))
  | consumed {c e : Broker.Consumption β} {label : Broker.Consumption.Label ι}
      (hstage : s.stage = .consuming) (hconsumption : s.consumption = some c)
      (hstep : c.step d.via o.workers label = some e) (hgoing : e.result? = none) :
      Moves d o s (.consume label) { s with consumption := some e }
  | finished {c e : Broker.Consumption β} {label : Broker.Consumption.Label ι}
      {result : Except BrokerError Unit} (hstage : s.stage = .consuming)
      (hconsumption : s.consumption = some c) (hstep : c.step d.via o.workers label = some e)
      (hended : e.result? = some result) :
      Moves d o s (.consume label) ({ s with consumption := some e }.finish d result)
  | beside {c e : Broker.Consumption β} {label : ι} (hstage : s.stage ≠ .consuming)
      (hconsumption : s.consumption = some c)
      (hstep : c.step d.via o.workers (.inner label) = some e) :
      Moves d o s (.consume (.inner label)) { s with consumption := some e }

theorem moves_of_proceed (h : s.proceed d o = some t) : Moves d o s .proceed t := by
  unfold proceed at h
  split at h
  · simp only at h
    split at h <;> cases h
    · exact .storeFailed ‹_› ‹_›
    · exact .storeChecked ‹_› ‹_›
  · simp only at h
    split at h <;> cases h
    · exact .broadcasterFailed ‹_› ‹_›
    · exact .broadcasterChecked ‹_› ‹_›
  · cases h
    exact .loopStarted ‹_›
  · cases h
    exact .dialed ‹_›
  · split at h <;> cases h
    · exact .dialFailed ‹_› ‹_›
    · exact .connected ‹_› ‹_›
  · cases h
    exact .factoryMade ‹_›
  · cases h
  · cases h

theorem moves_of_flush (h : s.flush d = some t) : Moves d o s .flush t := by
  unfold flush at h
  split at h
  · split at h <;> cases h
    rename_i hdue
    exact .flushed ‹_› hdue.1 hdue.2
  · cases h

theorem moves_of_consume {label : Broker.Consumption.Label ι} (h : s.consume d o label = some t) :
    Moves d o s (.consume label) t := by
  unfold consume at h
  split at h
  · cases h
  · rename_i c hconsumption
    split at h
    · obtain ⟨e, hstep, rfl⟩ := Option.map_eq_some_iff.1 h
      exact .shutdown ‹_› hconsumption hstep
    · obtain ⟨e, hstep, rfl⟩ := Option.map_eq_some_iff.1 h
      simp only [resume, Option.bind_some]
      split
      · exact .finished ‹_› hconsumption hstep ‹_›
      · exact .consumed ‹_› hconsumption hstep ‹_›
    · obtain ⟨e, hstep, rfl⟩ := Option.map_eq_some_iff.1 h
      exact .beside (fun hstage => by simp_all) hconsumption hstep
    · cases h

/-- Every step is one that `Moves` lists. -/
theorem moves_of_step {label : Label ι} (h : s.step d o label = some t) : Moves d o s label t := by
  cases label with
  | proceed => exact moves_of_proceed h
  | flush => exact moves_of_flush h
  | pass nanos =>
      cases h
      exact .passed
  | consume label => exact moves_of_consume h

/-- What holds at the start of a run and is kept by every step holds at its end. -/
theorem Reaches.invariant (run : Reaches d o s labels t) {P : Supervision σ β → Prop}
    (hstart : P s) (hstep : ∀ label a b, Moves d o a label b → P a → P b) : P t := by
  induction run with
  | refl => exact hstart
  | step run move ih => exact hstep _ _ _ (moves_of_step move) ih

/-- A run can be computed. -/
theorem reaches_of_foldlM (h : labels.foldlM (fun a label => a.step d o label) s = some t) :
    Reaches d o s labels t := by
  induction labels using List.reverseRecOn generalizing t with
  | nil =>
      cases h
      exact .refl _
  | append_singleton labels label ih =>
      rw [List.foldlM_append] at h
      obtain ⟨u, hinit, hlast⟩ := Option.bind_eq_some_iff.1 h
      exact (ih hinit).step (by simpa using hlast)

end JobLog.Supervision
