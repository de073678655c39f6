import JobLog.Pipeline.Task

/-!
# A message that goes all the way

`World.handle` runs the steps of a task one after another (`finish_of_open`), and a task that ends
with success has passed each of its phases with an answer to go on with. So the body was a part,
and each system was called once with what the part says: `World.handle_eq_ok`.
-/

namespace JobLog

namespace Task

variable {σ : Type} {systems : Collaborators σ} {worker started : Nat} {w : World σ}
  {phase : Phase} {part : Part} {log : Int64} {row : Int} {done : Processed}

/-- A task that has not ended takes its next step. -/
theorem finish_of_open (h : phase.result? = none) :
    finish systems worker started w phase =
      finish systems worker started (next systems worker started w phase).2
        (next systems worker started w phase).1 := by
  rw [finish]
  split
  · rename_i result hresult
    rw [h] at hresult
    cases hresult
  · rfl

/-- A task that has ended keeps its result. -/
theorem finish_finished (result : Except ProcessError Processed) :
    finish systems worker started w (.finished result) = (result, w) := by
  rw [finish]
  rfl

/-- After its last call a task only counts and reports. -/
theorem finish_ending {part : Option Part} {result : Except ProcessError Processed} :
    (finish systems worker started w (.ending part result)).1 = result ∧
      (finish systems worker started w (.ending part result)).2.systems = w.systems := by
  rw [finish_of_open rfl, next, finish_finished]
  exact ⟨rfl, rfl⟩

theorem finish_received_ok {body : Json.Bytes}
    (h : (finish systems worker started w (.received body)).1 = .ok done) :
    ∃ part, Part.parse body = .ok part ∧
      finish systems worker started w (.received body) =
        finish systems worker started w (.resolving part) := by
  rw [finish_of_open rfl] at h ⊢
  cases hparse : Part.parse body with
  | error e =>
      simp only [next, hparse] at h
      cases finish_ending.1.symm.trans h
  | ok part =>
      simp only [next, hparse]
      exact ⟨part, rfl, rfl⟩

theorem finish_resolving_ok
    (h : (finish systems worker started w (.resolving part)).1 = .ok done) :
    ∃ log, (systems.find part.job w.systems).result = .ok log ∧
      finish systems worker started w (.resolving part) =
        finish systems worker started (w.after (systems.find part.job w.systems))
          (.storing part log) := by
  rw [finish_of_open rfl] at h ⊢
  cases hfind : (systems.find part.job w.systems).result with
  | error e =>
      simp only [next, hfind] at h
      cases finish_ending.1.symm.trans h
  | ok log =>
      simp only [next, hfind]
      exact ⟨log, rfl, rfl⟩

theorem finish_storing_ok
    (h : (finish systems worker started w (.storing part log)).1 = .ok done) :
    ∃ row, (systems.insert (entry part log w.wall) w.systems).result = .ok row ∧
      finish systems worker started w (.storing part log) =
        finish systems worker started (w.after (systems.insert (entry part log w.wall) w.systems))
          (.announcing part log row) := by
  rw [finish_of_open rfl] at h ⊢
  cases hinsert : (systems.insert (entry part log w.wall) w.systems).result with
  | error e =>
      simp only [next, hinsert] at h
      cases finish_ending.1.symm.trans h
  | ok row =>
      simp only [next, hinsert]
      exact ⟨row, rfl, rfl⟩

theorem finish_announcing_ok
    (h : (finish systems worker started w (.announcing part log row)).1 = .ok done) :
    (systems.publish (announcement part) w.systems).result = .ok () ∧
      (finish systems worker started w (.announcing part log row)).2.systems =
        (systems.publish (announcement part) w.systems).state := by
  rw [finish_of_open rfl] at h ⊢
  cases hpublish : (systems.publish (announcement part) w.systems).result with
  | error e =>
      simp only [next, hpublish] at h
      cases finish_ending.1.symm.trans h
  | ok u =>
      simp only [next, hpublish]
      exact ⟨trivial, finish_ending.2⟩

end Task

namespace World

variable {σ : Type}

/-- The calls for a part from the systems' state `s` and the date `wall` on, answered so that it goes
all the way, and the state `t` after them. The part is stored with the date after its lookup. -/
inductive Delivers (systems : Collaborators σ) (part : Part) (wall : Moment) (s t : σ) : Prop where
  | all (found : Reply σ (Except StoreError Int64)) (inserted : Reply σ (Except StoreError Int))
      (published : Reply σ (Except BroadcastError Unit)) (log : Int64) (row : Int)
      (hfind : systems.find part.job s = found) (hlog : found.result = .ok log)
      (hinsert : systems.insert (Task.entry part log (found.wall wall)) found.state = inserted)
      (hrow : inserted.result = .ok row)
      (hpublish : systems.publish (Task.announcement part) inserted.state = published)
      (hdone : published.result = .ok ()) (hstate : t = published.state)

/-- A message that is handled with success is a part, and all calls for it were answered. -/
theorem handle_eq_ok {systems : Collaborators σ} {worker : Nat} {body : Json.Bytes} {w : World σ}
    {done : Processed} (h : (w.handle systems worker body).1 = .ok done) :
    ∃ part, Part.parse body = .ok part ∧
      Delivers systems part w.wall w.systems (w.handle systems worker body).2.systems := by
  have hrun : w.handle systems worker body =
      Task.finish systems worker w.clock w (.received body) := rfl
  rw [hrun] at h ⊢
  obtain ⟨part, hparse, hreceived⟩ := Task.finish_received_ok h
  rw [hreceived] at h ⊢
  obtain ⟨log, hlog, hresolved⟩ := Task.finish_resolving_ok h
  rw [hresolved] at h ⊢
  obtain ⟨row, hrow, hstored⟩ := Task.finish_storing_ok h
  rw [hstored] at h ⊢
  obtain ⟨hdone, hstate⟩ := Task.finish_announcing_ok h
  exact ⟨part, hparse, .all _ _ _ log row rfl hlog rfl hrow rfl hdone hstate⟩

end World

end JobLog
