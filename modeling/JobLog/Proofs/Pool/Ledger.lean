import JobLog.Proofs.Pool.Steps
import Mathlib.Data.List.Nodup
import Mathlib.Data.List.Perm.Basic

/-!
# Who took and who acknowledged which message

The two lists that a pool keeps agree worker by worker: what a worker has acknowledged is what it
has taken, in the same order, except for the message in its hands. So a worker never has two
messages at once, acknowledges a message only after taking it, takes the next only after
acknowledging, and leaves out only the message whose processing crashed. `Pool.Ledger` states this,
`Moves.ledger` says that steps keep it, and `Ledger.perm` draws the conclusion for a pool whose
workers have all ended.
-/

namespace JobLog.Broker

/-- Processing never crashes. -/
def Processor.Steady {τ ω : Type} (processor : Processor τ ω) : Prop :=
  ∀ task, processor.outcome? task ≠ some .crashed

/-- A processor whose calls take one step each and fail; the world counts them. -/
def Processor.failing : Processor Bool Nat where
  start _ _ _ := false
  step _ _ count := (true, count + 1)
  outcome? done := if done then some (.returned (.error (.notFound 0))) else none
  left done := (!done).toNat
  step_left_lt := by
    intro _ done _ hopen
    cases done <;> simp at hopen ⊢

theorem Processor.failing_steady : failing.Steady := by
  intro done
  cases done <;> simp [failing]

namespace Worker

variable {τ : Type}

/-- Whether a worker's last call has crashed. -/
def isLost : Worker τ → Bool
  | .releasing _ lost | .ended lost => lost
  | .waiting | .busy .. | .acknowledging _ => false

/-- What the messages a worker has taken and those it has acknowledged have to do with each other,
given what it is doing. -/
def Agrees (taken acknowledged : List Message) : Worker τ → Prop
  | .busy m _ | .acknowledging m | .releasing m true => taken = acknowledged ++ [m]
  | .waiting | .releasing _ false | .ended false => taken = acknowledged
  | .ended true => ∃ m, taken = acknowledged ++ [m]

theorem Agrees.acknowledged_taken {taken acknowledged : List Message} {w : Worker τ}
    (h : w.Agrees taken acknowledged) : acknowledged <+: taken := by
  cases w with
  | waiting => exact h ▸ List.prefix_rfl
  | busy m _ | acknowledging m => exact ⟨[m], h.symm⟩
  | releasing m lost =>
      cases lost with
      | false => exact h ▸ List.prefix_rfl
      | true => exact ⟨[m], h.symm⟩
  | ended lost =>
      cases lost with
      | false => exact h ▸ List.prefix_rfl
      | true =>
          obtain ⟨m, hm⟩ := h
          exact ⟨[m], hm.symm⟩

end Worker

namespace Pool

variable {τ ω : Type} {processor : Processor τ ω} {p r : Pool τ ω}

/-- The messages that a list has for one worker. -/
def entriesOf (i : Nat) (entries : List (Nat × Message)) : List Message :=
  (entries.filter fun entry => entry.1 = i).map Prod.snd

theorem entriesOf_append (i : Nat) (l s : List (Nat × Message)) :
    entriesOf i (l ++ s) = entriesOf i l ++ entriesOf i s := by
  simp [entriesOf]

@[simp] theorem entriesOf_singleton_self (i : Nat) (m : Message) :
    entriesOf i [(i, m)] = [m] := by
  simp [entriesOf]

theorem entriesOf_singleton_of_ne {i j : Nat} (m : Message) (h : j ≠ i) :
    entriesOf i [(j, m)] = [] := by
  simp [entriesOf, h]

/-- The entries of single workers fix how often an entry occurs. -/
theorem count_entriesOf (i : Nat) (m : Message) (entries : List (Nat × Message)) :
    (entriesOf i entries).count m = entries.count (i, m) := by
  induction entries with
  | nil => rfl
  | cons entry entries ih =>
      obtain ⟨j, n⟩ := entry
      rw [← List.singleton_append, entriesOf_append, List.count_append, List.count_append, ih]
      by_cases h : j = i
      · subst h
        rw [entriesOf_singleton_self, List.count_singleton, List.count_singleton]
        simp
      · rw [entriesOf_singleton_of_ne n h, List.count_singleton]
        simp [h]

theorem mem_entriesOf {i : Nat} {m : Message} {entries : List (Nat × Message)} :
    m ∈ entriesOf i entries ↔ (i, m) ∈ entries := by
  simp [entriesOf]

theorem entriesOf_sublist (i : Nat) (entries : List (Nat × Message)) :
    (entriesOf i entries).Sublist (entries.map Prod.snd) :=
  List.filter_sublist.map Prod.snd

/-- The two lists of a pool agree for every worker and name no others. -/
structure Ledger (p : Pool τ ω) : Prop where
  agrees : ∀ {i : Nat} {w : Worker τ}, p.workers[i]? = some w →
    w.Agrees (entriesOf i p.pulled) (entriesOf i p.acknowledged)
  none_else : ∀ {i : Nat}, p.workers[i]? = none →
    entriesOf i p.pulled = [] ∧ entriesOf i p.acknowledged = []

theorem ledger_start (workers : Nat) (world : ω) : (start workers world : Pool τ ω).Ledger where
  agrees := by
    intro i w h
    obtain ⟨-, rfl⟩ := List.mem_replicate.1 (List.mem_of_getElem? h)
    rfl
  none_else _ := ⟨rfl, rfl⟩

/-- A pool agrees after a step if the worker that took it does and the entries of the others are as
before. -/
theorem Ledger.put (h : p.Ledger) {i : Nat} {w v : Worker τ} (hw : p.workers[i]? = some w)
    (hworkers : r.workers = p.workers.set i v)
    (hself : v.Agrees (entriesOf i r.pulled) (entriesOf i r.acknowledged))
    (hothers : ∀ j, i ≠ j → entriesOf j r.pulled = entriesOf j p.pulled ∧
      entriesOf j r.acknowledged = entriesOf j p.acknowledged) : r.Ledger where
  agrees := by
    intro j u hu
    by_cases hij : i = j
    · subst hij
      have hlt : i < p.workers.length := (List.getElem?_eq_some_iff.1 hw).1
      rw [hworkers, List.getElem?_set_self hlt, Option.some.injEq] at hu
      exact hu ▸ hself
    · rw [hworkers, List.getElem?_set_ne hij] at hu
      rw [(hothers j hij).1, (hothers j hij).2]
      exact h.agrees hu
  none_else := by
    intro j hj
    have hij : i ≠ j := by
      rintro rfl
      rw [hworkers, List.getElem?_eq_none_iff, List.length_set] at hj
      exact absurd (List.getElem?_eq_some_iff.1 hw).1 (Nat.not_lt.2 hj)
    rw [hworkers, List.getElem?_set_ne hij] at hj
    rw [(hothers j hij).1, (hothers j hij).2]
    exact h.none_else hj

/-- Every step of a pool keeps its ledger. -/
theorem Moves.ledger {label : Label} (hmove : Moves processor p label r) (h : p.Ledger) :
    r.Ledger := by
  cases hmove with
  | @taken i m hwaiting =>
      have hi : entriesOf i p.pulled = entriesOf i p.acknowledged := h.agrees hwaiting
      refine h.put hwaiting rfl ?_ fun j hij => ⟨?_, rfl⟩
      · simp only [put, entriesOf_append, entriesOf_singleton_self, hi, Worker.Agrees]
      · simp only [entriesOf_append, entriesOf_singleton_of_ne m hij, List.append_nil]
  | refused hwaiting =>
      have hi := h.agrees hwaiting
      exact h.put hwaiting rfl hi fun j _ => ⟨rfl, rfl⟩
  | worked hbusy | returned hbusy | crashed hbusy =>
      have hi := h.agrees hbusy
      exact h.put hbusy rfl hi fun j _ => ⟨rfl, rfl⟩
  | @acknowledged i m result hdone =>
      have hi : entriesOf i p.pulled = entriesOf i p.acknowledged ++ [m] := h.agrees hdone
      refine h.put hdone rfl ?_ fun j hij => ⟨rfl, ?_⟩
      · simp only [put, entriesOf_append, entriesOf_singleton_self, hi, Worker.Agrees]
      · simp only [entriesOf_append, entriesOf_singleton_of_ne m hij, List.append_nil]
  | @released i m lost hdone =>
      refine h.put hdone rfl ?_ fun j _ => ⟨rfl, rfl⟩
      have hi := h.agrees hdone
      cases lost with
      | false => exact hi
      | true => exact ⟨m, hi⟩

/-- The ledger of a pool agrees at every moment of its work. -/
theorem Runs.ledger {workers : Nat} {world : ω} (run : Runs processor (start workers world) p) :
    p.Ledger := by
  induction run with
  | refl => exact ledger_start workers world
  | step run move ih => exact move.ledger ih

/-- A worker acknowledges in the order in which it has taken the messages. -/
theorem Ledger.acknowledged_entriesOf (h : p.Ledger) (i : Nat) :
    entriesOf i p.acknowledged <+: entriesOf i p.pulled := by
  cases hw : p.workers[i]? with
  | none =>
      rw [(h.none_else hw).1]
      exact (h.none_else hw).2 ▸ List.nil_prefix
  | some w => exact (h.agrees hw).acknowledged_taken

/-- Only a message that was taken is acknowledged. -/
theorem Ledger.acknowledged_subset (h : p.Ledger) : p.acknowledged ⊆ p.pulled := by
  rintro ⟨i, m⟩ hacknowledged
  exact mem_entriesOf.1 ((h.acknowledged_entriesOf i).subset (mem_entriesOf.2 hacknowledged))

/-- Where no message is taken twice, none is acknowledged twice. -/
theorem Ledger.acknowledged_nodup (h : p.Ledger) (hnodup : p.pulled.Nodup) :
    p.acknowledged.Nodup := by
  refine List.nodup_iff_count_le_one.2 fun ⟨i, m⟩ => ?_
  calc p.acknowledged.count (i, m)
      = (entriesOf i p.acknowledged).count m := (count_entriesOf ..).symm
    _ ≤ (entriesOf i p.pulled).count m := (h.acknowledged_entriesOf i).sublist.count_le m
    _ = p.pulled.count (i, m) := count_entriesOf ..
    _ ≤ 1 := List.nodup_iff_count_le_one.1 hnodup _

/-- Where no message is taken twice, none is acknowledged while a call on it is open. -/
theorem Ledger.not_acknowledged (h : p.Ledger) (hnodup : (p.pulled.map Prod.snd).Nodup) {i : Nat}
    {m : Message} {task : τ} (hbusy : p.workers[i]? = some (.busy m task)) (j : Nat) :
    (j, m) ∉ p.acknowledged := by
  intro hacknowledged
  have hagrees : entriesOf i p.pulled = entriesOf i p.acknowledged ++ [m] := h.agrees hbusy
  have hi : (i, m) ∈ p.pulled := mem_entriesOf.1 (by simp [hagrees])
  have hj : (j, m) ∈ p.pulled :=
    mem_entriesOf.1 ((h.acknowledged_entriesOf j).subset (mem_entriesOf.2 hacknowledged))
  obtain rfl : i = j := congrArg Prod.fst (List.inj_on_of_nodup_map hnodup hi hj rfl)
  have honce := hnodup.sublist (entriesOf_sublist i p.pulled)
  rw [hagrees] at honce
  exact List.disjoint_of_nodup_append honce (mem_entriesOf.2 hacknowledged)
    (List.mem_singleton_self m)

/-- No worker is lost. -/
def Whole (p : Pool τ ω) : Prop :=
  ∀ w ∈ p.workers, w.isLost = false

theorem whole_start (workers : Nat) (world : ω) : (start workers world : Pool τ ω).Whole := by
  intro w hw
  obtain ⟨-, rfl⟩ := List.mem_replicate.1 hw
  rfl

theorem Whole.put (h : p.Whole) {v : Worker τ} (i : Nat) (hv : v.isLost = false) :
    (p.put i v).Whole := by
  intro w hw
  rcases List.mem_or_eq_of_mem_set hw with hw | rfl
  · exact h w hw
  · exact hv

/-- Where processing never crashes, no worker is ever lost. -/
theorem Moves.whole (hsteady : processor.Steady) {label : Label}
    (hmove : Moves processor p label r) (h : p.Whole) : r.Whole := by
  cases hmove with
  | taken | worked | acknowledged => exact h.put _ rfl
  | refused | returned => exact h.put _ rfl
  | crashed _ hcrash => exact absurd hcrash (hsteady _)
  | released hdone =>
      have hlost := h _ (List.mem_of_getElem? hdone)
      simp only [Worker.isLost] at hlost
      subst hlost
      exact h.put _ rfl

theorem Runs.whole (hsteady : processor.Steady) {workers : Nat} {world : ω}
    (run : Runs processor (start workers world) p) : p.Whole := by
  induction run with
  | refl => exact whole_start workers world
  | step run move ih => exact move.whole hsteady ih

/-- When all workers have ended and none is lost, every worker has acknowledged what it has taken.
-/
theorem Ledger.entriesOf_eq (h : p.Ledger) (hwhole : p.Whole) (hdone : p.isDone = true) (i : Nat) :
    entriesOf i p.pulled = entriesOf i p.acknowledged := by
  cases hw : p.workers[i]? with
  | none => rw [(h.none_else hw).1, (h.none_else hw).2]
  | some w =>
      have hmem := List.mem_of_getElem? hw
      have hagrees := h.agrees hw
      have hlost := hwhole w hmem
      have hended := List.all_eq_true.1 hdone w hmem
      cases w with
      | ended lost =>
          simp only [Worker.isLost] at hlost
          subst hlost
          exact hagrees
      | waiting | busy | acknowledging | releasing => simp [Worker.isEnded] at hended

/-- When all workers have ended and none is lost, every message that was taken has been acknowledged
exactly once, by the worker that took it. -/
theorem Ledger.perm (h : p.Ledger) (hwhole : p.Whole) (hdone : p.isDone = true) :
    p.acknowledged.Perm p.pulled := by
  refine List.perm_iff_count.2 fun ⟨i, m⟩ => ?_
  rw [← count_entriesOf, ← count_entriesOf, h.entriesOf_eq hwhole hdone]

end Pool

end JobLog.Broker
