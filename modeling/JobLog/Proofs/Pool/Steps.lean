import JobLog.Broker.Pool
import Mathlib.Algebra.BigOperators.Group.List.Basic

/-!
# What a worker pool can do in one step

`Pool.Moves` lists the steps of a pool with their guards and results, and `step_eq_some_iff` says
that these are all; `Pool.Runs` are sequences of such steps. Quantities that belong to single
workers are added up by `Pool.total`; `total_put` is how such a sum changes when one worker changes.
The number of occupied slots and the number of messages that still need an acknowledgment are sums
of this kind.
-/

namespace JobLog.Broker

namespace Worker

variable {τ : Type}

/-- Whether a worker has a message that it will acknowledge unless its call crashes. -/
def owes : Worker τ → Bool
  | .busy .. | .acknowledging _ => true
  | .waiting | .releasing .. | .ended _ => false

end Worker

namespace Pool

variable {τ ω : Type} {processor : Processor τ ω} {p r : Pool τ ω}

/-- `Moves processor p label r` says that a worker of `p` takes the step `label`, which leaves the
pool `r`. -/
inductive Moves (processor : Processor τ ω) (p : Pool τ ω) : Label → Pool τ ω → Prop where
  | taken {i : Nat} {m : Message} (hwaiting : p.workers[i]? = some .waiting) :
      Moves processor p (.pull i (.delivery m))
        { p.put i (.busy m (processor.start i m p.world)) with pulled := p.pulled ++ [(i, m)] }
  | refused {i : Nat} {item : Item} (hwaiting : p.workers[i]? = some .waiting)
      (hitem : ∀ m, item ≠ .delivery m) :
      Moves processor p (.pull i item) (p.put i (.ended false))
  | worked {i : Nat} {m : Message} {task : τ} (hbusy : p.workers[i]? = some (.busy m task))
      (hopen : processor.outcome? task = none) :
      Moves processor p (.work i)
        { p.put i (.busy m (processor.step i task p.world).1) with
          world := (processor.step i task p.world).2 }
  | returned {i : Nat} {m : Message} {task : τ} {result : Except ProcessError Unit}
      (hbusy : p.workers[i]? = some (.busy m task))
      (hresult : processor.outcome? task = some (.returned result)) :
      Moves processor p (.finish i) (p.put i (.acknowledging m))
  | crashed {i : Nat} {m : Message} {task : τ} (hbusy : p.workers[i]? = some (.busy m task))
      (hcrash : processor.outcome? task = some .crashed) :
      Moves processor p (.finish i) (p.put i (.releasing m true))
  | acknowledged {i : Nat} {m : Message} {result : Except BrokerError Unit}
      (hdone : p.workers[i]? = some (.acknowledging m)) :
      Moves processor p (.acknowledge i result)
        { p.put i (.releasing m false) with acknowledged := p.acknowledged ++ [(i, m)] }
  | released {i : Nat} {m : Message} {lost : Bool}
      (hdone : p.workers[i]? = some (.releasing m lost)) :
      Moves processor p (.release i) (p.put i (if lost then .ended true else .waiting))

/-- The steps of a pool are those that `Moves` lists. -/
theorem step_eq_some_iff {label : Label} :
    p.step processor label = some r ↔ Moves processor p label r := by
  constructor
  · intro h
    cases label with
    | pull i item =>
        simp only [step] at h
        split at h
        · split at h <;> cases h
          · exact .taken ‹_›
          · exact .refused ‹_› (by simp)
          · exact .refused ‹_› (by simp)
        · cases h
    | work i =>
        simp only [step] at h
        split at h
        · split at h <;> cases h
          exact .worked ‹_› ‹_›
        · cases h
    | finish i =>
        simp only [step] at h
        split at h
        · split at h <;> cases h
          · exact .returned ‹_› ‹_›
          · exact .crashed ‹_› ‹_›
        · cases h
    | acknowledge i result =>
        simp only [step] at h
        split at h <;> cases h
        exact .acknowledged ‹_›
    | release i =>
        simp only [step] at h
        split at h <;> cases h
        exact .released ‹_›
  · intro h
    cases h with
    | taken hwaiting => simp [step, hwaiting]
    | @refused i item hwaiting hitem =>
        cases item with
        | delivery m => exact absurd rfl (hitem m)
        | failure | finished => simp [step, hwaiting]
    | worked hbusy hopen => simp [step, hbusy, hopen]
    | returned hbusy hresult => simp [step, hbusy, hresult]
    | crashed hbusy hcrash => simp [step, hbusy, hcrash]
    | acknowledged hdone | released hdone => simp [step, hdone]

/-- Steps of workers lead from one pool to another. -/
inductive Runs (processor : Processor τ ω) (p : Pool τ ω) : Pool τ ω → Prop where
  | refl : Runs processor p p
  | step {r s : Pool τ ω} {label : Label} (run : Runs processor p r)
      (move : Moves processor r label s) : Runs processor p s

theorem getElem?_put_self {i : Nat} {w : Worker τ} (h : p.workers[i]? = some w) (v : Worker τ) :
    (p.put i v).workers[i]? = some v :=
  List.getElem?_set_self (List.getElem?_eq_some_iff.1 h).1

/-- After one worker has been put into another state, each worker is that one or as before. -/
theorem getElem?_put {i j : Nat} {v w : Worker τ} (h : (p.put i v).workers[j]? = some w) :
    i = j ∧ w = v ∨ p.workers[j]? = some w := by
  have hset : (p.workers.set i v)[j]? = some w := h
  by_cases hij : i = j
  · subst hij
    have hlt : i < p.workers.length := by
      have hbound := (List.getElem?_eq_some_iff.1 hset).1
      rwa [List.length_set] at hbound
    rw [List.getElem?_set_self hlt, Option.some.injEq] at hset
    exact .inl ⟨rfl, hset.symm⟩
  · rw [List.getElem?_set_ne hij] at hset
    exact .inr hset

/-! ## Sums over the workers -/

section Total

variable {M : Type} [AddCommMonoid M]

/-- The sum of a quantity of the single workers. -/
def total (p : Pool τ ω) (f : Worker τ → M) : M :=
  (p.workers.map f).sum

/-- Changing one entry of a list changes the sum by that entry's share. -/
theorem sum_map_set {α : Type} (f : α → M) {l : List α} {i : Nat} {a : α} (b : α)
    (h : l[i]? = some a) : ((l.set i b).map f).sum + f a = (l.map f).sum + f b := by
  induction l generalizing i with
  | nil => simp at h
  | cons c l ih =>
      cases i with
      | zero =>
          obtain rfl : c = a := by simpa using h
          simp only [List.set_cons_zero, List.map_cons, List.sum_cons]
          exact add_right_comm _ _ _ |>.trans (by rw [add_comm (f b), add_right_comm])
      | succ i =>
          simp only [List.set_cons_succ, List.map_cons, List.sum_cons, add_assoc]
          rw [ih (by simpa using h)]

/-- A step of one worker changes a sum by that worker's share. -/
theorem total_put (f : Worker τ → M) {i : Nat} {w : Worker τ} (v : Worker τ)
    (h : p.workers[i]? = some w) : (p.put i v).total f + f w = p.total f + f v :=
  sum_map_set f v h

end Total

/-- How many slots the workers occupy. -/
def holding (p : Pool τ ω) : Nat :=
  p.total fun w => w.holds.toNat

/-- How many messages the workers have still to acknowledge. -/
def owing (p : Pool τ ω) : Nat :=
  p.total fun w => w.owes.toNat

end Pool

end JobLog.Broker
