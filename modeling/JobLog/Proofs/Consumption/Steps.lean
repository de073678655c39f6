import JobLog.Broker.Consumption
import Mathlib.Data.List.Induction

/-!
# What a consumption can do in one step

`Consumption.Moves` lists the steps of a consumption with their guards and results: the first step
of its subscription, the steps of its broker, and the three that decide and end the race.
`moves_of_step` says that there are no others.
-/

namespace JobLog.Broker.Consumption

variable {β ι : Type} {via : Interface β ι} {workers : Nat} {c e : Consumption β}

/-- `Moves via workers c label e` says that the step `label` takes the consumption `c` to `e`. -/
inductive Moves (via : Interface β ι) (workers : Nat) (c : Consumption β) :
    Label ι → Consumption β → Prop where
  | begun (hcall : c.call = .unstarted)
      (hrace : c.race = .undecided ∨ ∃ i, c.race = .shutdownWon i) :
      Moves via workers c .begin (c.begin via workers)
  | inner {label : ι} {broker : β} (hstep : via.step c.broker label = some broker) :
      Moves via workers c (.inner label) { c with broker }
  | settled {result : Except BrokerError Unit} (hrace : c.race = .undecided)
      (hreturned : c.returned? via = some result) :
      Moves via workers c .settle
        { c with
          broker := (via.close c.broker).2
          race := .subscriptionWon (via.close c.broker).1 }
  | shutDown (hrace : c.race = .undecided) :
      Moves via workers c .shutdown
        { c with broker := (via.close c.broker).2, race := .shutdownWon (via.close c.broker).1 }
  | concluded {i : Nat} {result : Except BrokerError Unit}
      (hrace : c.race = .subscriptionWon i ∨ c.race = .shutdownWon i)
      (hclosed : via.hasClosed c.broker i = true) (hreturned : c.returned? via = some result) :
      Moves via workers c .conclude { c with race := .ended result }

theorem conclude_eq_some {closing : Nat} (h : c.conclude via closing = some e) :
    via.hasClosed c.broker closing = true ∧ ∃ result, c.returned? via = some result ∧
      e = { c with race := .ended result } := by
  unfold conclude at h
  split at h
  · obtain ⟨result, hreturned, rfl⟩ := Option.map_eq_some_iff.1 h
    exact ⟨‹_›, result, hreturned, rfl⟩
  · cases h

/-- Every step of a consumption is one that `Moves` lists. -/
theorem moves_of_step {label : Label ι} (h : c.step via workers label = some e) :
    Moves via workers c label e := by
  cases label with
  | begin =>
      simp only [step] at h
      split at h <;> cases h
      · exact .begun ‹_› (.inl ‹_›)
      · exact .begun ‹_› (.inr ⟨_, ‹_›⟩)
  | inner label =>
      obtain ⟨broker, hstep, rfl⟩ := Option.map_eq_some_iff.1 h
      exact .inner hstep
  | settle =>
      simp only [step] at h
      split at h <;> cases h
      exact .settled ‹_› ‹_›
  | shutdown =>
      simp only [step] at h
      split at h <;> cases h
      exact .shutDown ‹_›
  | conclude =>
      simp only [step] at h
      split at h
      · obtain ⟨hclosed, result, hreturned, rfl⟩ := conclude_eq_some h
        exact .concluded (.inl ‹_›) hclosed hreturned
      · obtain ⟨hclosed, result, hreturned, rfl⟩ := conclude_eq_some h
        exact .concluded (.inr ‹_›) hclosed hreturned
      · cases h
      · cases h

/-- A run can be computed. -/
theorem reaches_of_foldlM {labels : List (Label ι)}
    (h : labels.foldlM (fun a label => a.step via workers label) c = some e) :
    Reaches via workers c labels e := by
  induction labels using List.reverseRecOn generalizing e with
  | nil =>
      cases h
      exact .refl _
  | append_singleton labels label ih =>
      rw [List.foldlM_append] at h
      obtain ⟨d, hinit, hlast⟩ := Option.bind_eq_some_iff.1 h
      exact (ih hinit).step (by simpa using hlast)

end JobLog.Broker.Consumption
