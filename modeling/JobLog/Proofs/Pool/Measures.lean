import JobLog.Proofs.Pool.Ledger
import Mathlib.Algebra.Order.BigOperators.Group.List
import Mathlib.Algebra.Order.Group.Nat

/-!
# What a step changes in a worker pool

Steps neither add nor remove workers, and only a worker that has not ended takes one. The slots that
the workers occupy, the messages they have still to acknowledge and the workers that have crashed
are sums over the workers, and each step changes them by what its label says. `Moves.ahead_lt` is
the measure behind termination: every step brings a worker closer to its end, outside its call or
inside.
-/

namespace JobLog.Broker

namespace Worker

variable {τ ω : Type}

/-- A bound on the steps of a worker outside its calls, until it ends without another message. -/
def ahead : Worker τ → Nat
  | .busy .. => 4
  | .acknowledging _ => 3
  | .releasing .. => 2
  | .waiting => 1
  | .ended _ => 0

/-- What a worker has left inside its call. -/
def left (processor : Processor τ ω) : Worker τ → Nat
  | .busy _ task => processor.left task
  | _ => 0

end Worker

namespace Pool

variable {τ ω : Type} {processor : Processor τ ω} {p r : Pool τ ω}

/-- Steps neither add nor remove workers. -/
theorem Moves.length_eq {label : Label} (hmove : Moves processor p label r) :
    r.workers.length = p.workers.length := by
  cases hmove <;> simp [put]

/-- A worker that takes a step has not ended. -/
theorem Moves.not_isDone {label : Label} (hmove : Moves processor p label r) :
    p.isDone = false := by
  have hnot {i : Nat} {w : Worker τ} (hw : p.workers[i]? = some w) (hopen : w.isEnded = false) :
      p.isDone = false :=
    List.all_eq_false.2 ⟨w, List.mem_of_getElem? hw, by simp [hopen]⟩
  cases hmove with
  | taken h | refused h | worked h | returned h | crashed h | acknowledged h | released h =>
      exact hnot h rfl

/-- A pool without workers has no steps. -/
theorem Moves.workers_ne_nil {label : Label} (hmove : Moves processor p label r) :
    p.workers ≠ [] := by
  intro hnil
  have hopen := hmove.not_isDone
  simp [isDone, hnil] at hopen

theorem Runs.length_eq (run : Runs processor p r) : r.workers.length = p.workers.length := by
  induction run with
  | refl => rfl
  | step run move ih => exact move.length_eq.trans ih

/-- A pool without workers stays as it is. -/
theorem Runs.eq_of_nil (run : Runs processor p r) (hnil : r.workers = []) : r = p := by
  cases run with
  | refl => rfl
  | step run move =>
      have hlength := move.length_eq
      rw [hnil, List.length_nil] at hlength
      exact absurd (List.length_eq_zero_iff.1 hlength.symm) move.workers_ne_nil

/-! ## Messages that are taken -/

/-- The message that a step takes from the stream. -/
def Label.message? : Label → Option Message
  | .pull _ (.delivery m) => some m
  | _ => none

/-- A pool notes every message that is taken. -/
theorem Moves.pulled_eq {label : Label} (hmove : Moves processor p label r) :
    r.pulled.map Prod.snd = p.pulled.map Prod.snd ++ label.message?.toList := by
  cases hmove with
  | taken => simp [Label.message?]
  | @refused i item h hitem =>
      cases item with
      | delivery m => exact absurd rfl (hitem m)
      | failure | finished => exact (List.append_nil _).symm
  | _ => exact (List.append_nil _).symm

/-- Only a step that takes a message changes what was taken. -/
theorem Moves.pulled_of_none {label : Label} (hmove : Moves processor p label r)
    (hlabel : label.message? = none) : r.pulled = p.pulled := by
  cases hmove with
  | taken => cases hlabel
  | _ => rfl

/-! ## Slots, acknowledgments and crashes -/

/-- How many messages a step takes from the stream. -/
def Label.takes : Label → Nat
  | .pull _ (.delivery _) => 1
  | _ => 0

/-- How many messages a step acknowledges. -/
def Label.settles : Label → Nat
  | .acknowledge .. => 1
  | _ => 0

/-- How many slots a step gives back. -/
def Label.frees : Label → Nat
  | .release _ => 1
  | _ => 0

/-- A worker occupies a slot from taking a message until giving the slot back. -/
theorem Moves.holding_eq {label : Label} (hmove : Moves processor p label r) :
    r.holding + label.frees = p.holding + label.takes := by
  cases hmove with
  | taken h => exact total_put _ _ h
  | @refused i item h hitem =>
      cases item with
      | delivery m => exact absurd rfl (hitem m)
      | failure | finished => exact total_put _ _ h
  | worked h | returned h | crashed h | acknowledged h =>
      exact Nat.add_right_cancel (m := 1) (total_put _ _ h)
  | @released i m lost h => cases lost <;> exact total_put _ _ h

/-- A worker owes an acknowledgment from taking a message until it acknowledges or crashes. -/
theorem Moves.owing_le {label : Label} (hmove : Moves processor p label r) :
    r.owing + label.settles ≤ p.owing + label.takes := by
  cases hmove with
  | taken h => exact Nat.le_of_eq (total_put _ _ h)
  | @refused i item h hitem =>
      cases item with
      | delivery m => exact absurd rfl (hitem m)
      | failure | finished => exact Nat.le_of_eq (total_put _ _ h)
  | worked h | returned h => exact Nat.le_of_eq (Nat.add_right_cancel (m := 1) (total_put _ _ h))
  | @crashed i m _ h =>
      have hsum : (p.put i (.releasing m true)).owing + 1 = p.owing + 0 := total_put _ _ h
      exact Nat.le_of_succ_le (Nat.le_of_eq hsum)
  | acknowledged h => exact Nat.le_of_eq (total_put _ _ h)
  | @released i m lost h => cases lost <;> exact Nat.le_of_eq (total_put _ _ h)

theorem Moves.acknowledged_length {label : Label} (hmove : Moves processor p label r) :
    r.acknowledged.length = p.acknowledged.length + label.settles := by
  cases hmove with
  | acknowledged => simp [Label.settles]
  | _ => rfl

theorem total_add {M : Type} [AddCommMonoid M] (p : Pool τ ω) (f g : Worker τ → M) :
    p.total (fun w => f w + g w) = p.total f + p.total g :=
  List.sum_map_add

/-- How many workers have crashed. -/
def lost (p : Pool τ ω) : Nat :=
  p.total fun w => w.isLost.toNat

theorem lost_le (p : Pool τ ω) : p.lost ≤ p.workers.length := by
  have hone : ∀ n ∈ p.workers.map fun w => w.isLost.toNat, n ≤ 1 := by
    intro n hn
    obtain ⟨w, -, rfl⟩ := List.mem_map.1 hn
    exact Bool.toNat_le _
  simpa [lost, total] using List.sum_le_card_nsmul _ 1 hone

/-- A message that was taken is owed until it is acknowledged, unless it is lost with its worker. -/
theorem Moves.owing_add_lost {label : Label} (hmove : Moves processor p label r) :
    r.owing + r.lost + label.settles = p.owing + p.lost + label.takes := by
  have hsum (s : Pool τ ω) :
      s.owing + s.lost = s.total fun w => w.owes.toNat + w.isLost.toNat := (total_add s _ _).symm
  rw [hsum, hsum]
  cases hmove with
  | taken h => exact total_put _ _ h
  | @refused i item h hitem =>
      cases item with
      | delivery m => exact absurd rfl (hitem m)
      | failure | finished => exact total_put _ _ h
  | worked h | returned h | crashed h => exact Nat.add_right_cancel (m := 1) (total_put _ _ h)
  | acknowledged h => exact total_put _ _ h
  | @released i m lost h =>
      cases lost with
      | true => exact Nat.add_right_cancel (m := 1) (total_put _ _ h)
      | false => exact total_put _ _ h

/-- A worker that has crashed stays lost. -/
theorem Moves.lost_le_lost {label : Label} (hmove : Moves processor p label r) :
    p.lost ≤ r.lost := by
  have hput {i : Nat} {w v : Worker τ} (hw : p.workers[i]? = some w)
      (hle : w.isLost.toNat ≤ v.isLost.toNat) : p.lost ≤ (p.put i v).lost := by
    have hsum := total_put (fun w => w.isLost.toNat) v hw
    simp only [lost]
    omega
  cases hmove with
  | taken h | refused h | worked h | returned h | crashed h | acknowledged h =>
      exact hput h (Nat.zero_le _)
  | @released i m lost h => exact hput h (by cases lost <;> simp [Worker.isLost])

/-! ## What lies ahead -/

/-- A bound on the steps of all workers outside their calls. -/
def ahead (p : Pool τ ω) : Nat :=
  p.total Worker.ahead

/-- What all workers have left inside their calls. -/
def left (processor : Processor τ ω) (p : Pool τ ω) : Nat :=
  p.total (Worker.left processor)

/-- A worker that comes closer to its end brings the pool closer to its end. -/
theorem ahead_put_lt {i : Nat} {w v : Worker τ} (h : p.workers[i]? = some w)
    (hlt : v.ahead < w.ahead) : (p.put i v).ahead < p.ahead := by
  have hsum := total_put Worker.ahead v h
  simp only [ahead]
  omega

/-- A step of a worker brings it forward, inside its call or outside; only with a new message does a
worker have more to do. -/
theorem Moves.ahead_lt {label : Label} (hmove : Moves processor p label r) :
    r.ahead < p.ahead + 4 * label.takes ∨
      r.ahead = p.ahead ∧ label.takes = 0 ∧ r.left processor < p.left processor := by
  cases hmove with
  | @taken i m h =>
      have hsum := total_put Worker.ahead (.busy m (processor.start i m p.world)) h
      simp only [Worker.ahead] at hsum
      left
      show (p.put i _).total Worker.ahead < p.total Worker.ahead + 4
      omega
  | refused h => exact .inl (Nat.lt_of_lt_of_le (ahead_put_lt h Nat.one_pos) (Nat.le_add_right ..))
  | @worked i m task h hopen =>
      have hsum := total_put Worker.ahead (.busy m (processor.step i task p.world).1) h
      have hleft := total_put (Worker.left processor)
        (.busy m (processor.step i task p.world).1) h
      have hlt : processor.left (processor.step i task p.world).1 < processor.left task :=
        processor.step_left_lt hopen
      simp only [Worker.left] at hleft
      refine .inr ⟨Nat.add_right_cancel hsum, rfl, ?_⟩
      show (p.put i _).total (Worker.left processor) < p.total (Worker.left processor)
      omega
  | returned h | crashed h => exact .inl (ahead_put_lt h (by simp [Worker.ahead]))
  | @acknowledged i m _ h =>
      exact .inl (ahead_put_lt (v := .releasing m false) h (by simp [Worker.ahead]))
  | @released i m lost h =>
      exact .inl (ahead_put_lt h (by cases lost <;> simp [Worker.ahead]))

end Pool

end JobLog.Broker
