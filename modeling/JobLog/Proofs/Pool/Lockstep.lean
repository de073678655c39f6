import JobLog.Proofs.Pool.Steps
import Mathlib.Data.List.Forall2

/-!
# Pools in lockstep

Two pools with the same number of workers may use different processors on different worlds. If the
processors do alike with tasks and worlds that are alike (`Processor.Mirrors`), then so do the
pools: what a worker of one of them can do next, the same worker of the other can do too, and the
pools are alike afterwards (`Pool.Moves.paired`). A schedule of one is therefore a schedule of the
other, with the same deliveries and acknowledgments (`Pool.Paired.run`).
-/

namespace JobLog.Broker

variable {τ ω : Type} {P Q : Processor τ ω} {tasks : τ → τ → Prop} {worlds : ω → ω → Prop}

/-- Whether a call has crashed; what it has returned otherwise is left out. -/
def Outcome.hasCrashed : Outcome → Bool
  | .returned _ => false
  | .crashed => true

/-- Two processors that begin alike, stay alike with every step and end together. -/
structure Processor.Mirrors (P Q : Processor τ ω) (tasks : τ → τ → Prop)
    (worlds : ω → ω → Prop) : Prop where
  start : ∀ (worker : Nat) (m : Message) {w v : ω}, worlds w v →
    tasks (P.start worker m w) (Q.start worker m v)
  step : ∀ (worker : Nat) {t u : τ} {w v : ω}, tasks t u → worlds w v →
    tasks (P.step worker t w).1 (Q.step worker u v).1 ∧
      worlds (P.step worker t w).2 (Q.step worker u v).2
  outcome : ∀ {t u : τ}, tasks t u →
    (P.outcome? t).map Outcome.hasCrashed = (Q.outcome? u).map Outcome.hasCrashed

/-- Two workers at the same point, with the same message and tasks that are alike. -/
inductive Worker.Paired (tasks : τ → τ → Prop) : Worker τ → Worker τ → Prop where
  | waiting : Paired tasks .waiting .waiting
  | busy (m : Message) (t u : τ) (h : tasks t u) : Paired tasks (.busy m t) (.busy m u)
  | acknowledging (m : Message) : Paired tasks (.acknowledging m) (.acknowledging m)
  | releasing (m : Message) (lost : Bool) : Paired tasks (.releasing m lost) (.releasing m lost)
  | ended (lost : Bool) : Paired tasks (.ended lost) (.ended lost)

/-- Two pools whose workers are at the same points, in worlds that are alike. -/
structure Pool.Paired (tasks : τ → τ → Prop) (worlds : ω → ω → Prop) (p q : Pool τ ω) : Prop where
  workers : List.Forall₂ (Worker.Paired tasks) p.workers q.workers
  world : worlds p.world q.world
  pulled : p.pulled = q.pulled
  acknowledged : p.acknowledged = q.acknowledged

/-! ## The other way round -/

theorem Processor.Mirrors.flip (h : P.Mirrors Q tasks worlds) :
    Q.Mirrors P (fun u t => tasks t u) fun v w => worlds w v where
  start worker m _ _ hworlds := h.start worker m hworlds
  step worker _ _ _ _ htasks hworlds := h.step worker htasks hworlds
  outcome htasks := (h.outcome htasks).symm

theorem Worker.Paired.flip {s u : Worker τ} (h : s.Paired tasks u) :
    u.Paired (fun u t => tasks t u) s := by
  cases h with
  | busy m t u h => exact .busy m u t h
  | waiting => exact .waiting
  | acknowledging m => exact .acknowledging m
  | releasing m lost => exact .releasing m lost
  | ended lost => exact .ended lost

namespace Pool

variable {p q r : Pool τ ω} {i : Nat} {s : Worker τ} {label : Label}

theorem Paired.flip (h : Paired tasks worlds p q) :
    Paired (fun u t => tasks t u) (fun v w => worlds w v) q p where
  workers := (h.workers.imp fun _ _ h => h.flip).flip
  world := h.world
  pulled := h.pulled.symm
  acknowledged := h.acknowledged.symm

/-! ## One worker -/

theorem Paired.lookup (h : Paired tasks worlds p q) (hs : p.workers[i]? = some s) :
    ∃ u, q.workers[i]? = some u ∧ s.Paired tasks u := by
  obtain ⟨hi, rfl⟩ := List.getElem?_eq_some_iff.1 hs
  have hj : i < q.workers.length := h.workers.length_eq ▸ hi
  exact ⟨_, List.getElem?_eq_getElem hj, h.workers.get hi hj⟩

theorem forall₂_set {α : Type} {R : α → α → Prop} {l k : List α} (h : List.Forall₂ R l k) (i : Nat)
    {a b : α} (hab : R a b) : List.Forall₂ R (l.set i a) (k.set i b) := by
  induction h generalizing i with
  | nil => exact .nil
  | cons hfirst hrest ih =>
      cases i with
      | zero => exact .cons hab hrest
      | succ i => exact .cons hfirst (ih i)

theorem Paired.put (h : Paired tasks worlds p q) (i : Nat) {u : Worker τ} (hs : s.Paired tasks u) :
    Paired tasks worlds (p.put i s) (q.put i u) where
  workers := forall₂_set h.workers i hs
  world := h.world
  pulled := h.pulled
  acknowledged := h.acknowledged

/-! ## Steps and schedules -/

/-- Workers that wait, in worlds that are alike. -/
theorem paired_start (workers : Nat) {w v : ω} (h : worlds w v) :
    Paired tasks worlds (start workers w) (start workers v) where
  workers := by
    refine List.forall₂_same.2 fun worker hworker => ?_
    rw [List.eq_of_mem_replicate hworker]
    exact .waiting
  world := h
  pulled := rfl
  acknowledged := rfl

/-- Each step of one pool is a step of the other. -/
theorem Moves.paired (hmirrors : P.Mirrors Q tasks worlds) (h : Paired tasks worlds p q)
    (move : Moves P p label r) : ∃ s, Moves Q q label s ∧ Paired tasks worlds r s := by
  cases move with
  | @taken i m hwaiting =>
      obtain ⟨_, hother, ⟨⟩⟩ := h.lookup hwaiting
      have hput := h.put i (.busy m _ _ (hmirrors.start i m h.world))
      exact ⟨_, .taken hother, hput.workers, hput.world, congrArg (· ++ [(i, m)]) h.pulled,
        hput.acknowledged⟩
  | refused hwaiting hitem =>
      obtain ⟨_, hother, ⟨⟩⟩ := h.lookup hwaiting
      exact ⟨_, .refused hother hitem, h.put _ (.ended false)⟩
  | @worked i m _ hbusy hopen =>
      obtain ⟨_, hother, _ | ⟨_, _, u, htasks⟩⟩ := h.lookup hbusy
      have houtcome := hmirrors.outcome htasks
      rw [hopen, Option.map_none, eq_comm, Option.map_eq_none_iff] at houtcome
      obtain ⟨hstepped, hworld⟩ := hmirrors.step i htasks h.world
      have hput := h.put i (.busy m _ _ hstepped)
      exact ⟨_, .worked hother houtcome, hput.workers, hworld, hput.pulled, hput.acknowledged⟩
  | returned hbusy hresult =>
      obtain ⟨_, hother, _ | ⟨_, _, u, htasks⟩⟩ := h.lookup hbusy
      have houtcome := hmirrors.outcome htasks
      rw [hresult, Option.map_some, eq_comm, Option.map_eq_some_iff] at houtcome
      obtain ⟨_ | _, hreturned, ⟨⟩⟩ := houtcome
      exact ⟨_, .returned hother hreturned, h.put _ (.acknowledging _)⟩
  | crashed hbusy hcrash =>
      obtain ⟨_, hother, _ | ⟨_, _, u, htasks⟩⟩ := h.lookup hbusy
      have houtcome := hmirrors.outcome htasks
      rw [hcrash, Option.map_some, eq_comm, Option.map_eq_some_iff] at houtcome
      obtain ⟨_ | _, hcrashed, ⟨⟩⟩ := houtcome
      exact ⟨_, .crashed hother hcrashed, h.put _ (.releasing _ true)⟩
  | @acknowledged i m _ hdone =>
      obtain ⟨_, hother, ⟨⟩⟩ := h.lookup hdone
      have hput := h.put i (.releasing m false)
      exact ⟨_, .acknowledged hother, hput.workers, hput.world, hput.pulled,
        congrArg (· ++ [(i, m)]) h.acknowledged⟩
  | @released _ _ lost hdone =>
      obtain ⟨_, hother, ⟨⟩⟩ := h.lookup hdone
      refine ⟨_, .released hother, h.put _ ?_⟩
      cases lost with
      | false => exact .waiting
      | true => exact .ended true

/-- A step is possible in both pools, which are alike afterwards, or in neither. -/
theorem Paired.step (hmirrors : P.Mirrors Q tasks worlds) (h : Paired tasks worlds p q)
    (label : Label) : Option.Rel (Paired tasks worlds) (p.step P label) (q.step Q label) := by
  cases hp : p.step P label with
  | some r =>
      obtain ⟨s, hmove, hpaired⟩ := (step_eq_some_iff.1 hp).paired hmirrors h
      rw [step_eq_some_iff.2 hmove]
      exact .some hpaired
  | none =>
      cases hq : q.step Q label with
      | none => exact .none
      | some s =>
          obtain ⟨r, hmove, -⟩ := (step_eq_some_iff.1 hq).paired hmirrors.flip h.flip
          rw [step_eq_some_iff.2 hmove] at hp
          cases hp

/-- What becomes of a pool with this schedule; nothing if a worker is not at its point. -/
def run (processor : Processor τ ω) (p : Pool τ ω) (labels : List Label) : Option (Pool τ ω) :=
  labels.foldlM (fun p label => p.step processor label) p

/-- A schedule is possible for both pools, which are alike at its end, or for neither. -/
theorem Paired.run (hmirrors : P.Mirrors Q tasks worlds) (h : Paired tasks worlds p q)
    (labels : List Label) : Option.Rel (Paired tasks worlds) (p.run P labels) (q.run Q labels) := by
  induction labels generalizing p q with
  | nil => exact .some h
  | cons label labels ih =>
      have hstep := h.step hmirrors label
      simp only [Pool.run, List.foldlM_cons] at ih ⊢
      generalize p.step P label = one at hstep
      generalize q.step Q label = other at hstep
      cases hstep with
      | none => exact .none
      | some hnext => exact ih hnext

end Pool

end JobLog.Broker
