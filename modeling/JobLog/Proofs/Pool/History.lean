import JobLog.Proofs.Pool.Measures

/-!
# What the workers of a pool have done

A history tells, in order, who took which item, how which call ended and who tried to acknowledge
which message with what success. For a single worker it is a sequence of rounds, each with one call
and one acknowledgment, and then what belongs to the state the worker is in: `Worker.Trail`. A
history goes on after a message only while the worker does, and a worker ends only by what itself
met with. `Moves.follows` says that every step of a pool keeps this.
-/

namespace JobLog.Broker

/-- Something that a worker does and that others can see. -/
inductive Act where
  /-- It takes an item; if that is a delivery, its call on the message begins. -/
  | took (item : Item)
  | returned (message : Message) (result : Except ProcessError Unit)
  | crashed (message : Message)
  /-- It has tried to acknowledge the message. -/
  | acknowledged (message : Message) (result : Except BrokerError Unit)

namespace Act

/-- The item that was taken. -/
def item? : Act → Option Item
  | .took item => some item
  | .returned .. | .crashed _ | .acknowledged .. => none

/-- Whether a worker meets with a failed stream or a crash. -/
def isFault : Act → Bool
  | .took (.failure _) | .crashed _ => true
  | .took (.delivery _) | .took .finished | .returned .. | .acknowledged .. => false

/-- Whether a worker finds that the stream has ended. -/
def isFinish : Act → Bool
  | .took .finished => true
  | _ => false

/-- Whether this is the last thing a worker does. -/
def isLast (act : Act) : Bool :=
  act.isFault || act.isFinish

end Act

/-- One round after another: a message is taken, the call on it returns, and an acknowledgment is
tried, whatever the call returned and whether or not the one before succeeded. -/
inductive Rounds : List Act → Prop where
  | nil : Rounds []
  | round {acts : List Act} {m : Message} {outcome : Except ProcessError Unit}
      {result : Except BrokerError Unit} (h : Rounds acts) :
      Rounds (acts ++ [.took (.delivery m), .returned m outcome, .acknowledged m result])

/-- In complete rounds nothing is the last thing a worker does. -/
theorem Rounds.not_last {acts : List Act} (h : Rounds acts) :
    ∀ act ∈ acts, act.isLast = false := by
  induction h with
  | nil => exact nofun
  | round h ih =>
      intro act hact
      rcases List.mem_append.1 hact with hact | hact
      · exact ih act hact
      · simp only [List.mem_cons, List.not_mem_nil, or_false] at hact
        rcases hact with rfl | rfl | rfl <;> rfl

namespace Worker

variable {τ : Type}

/-- `w.Trail acts` says that `acts` is what a worker can have done by the time it is in the state
`w`. -/
inductive Trail : Worker τ → List Act → Prop where
  | waiting {acts : List Act} (h : Rounds acts) : Trail .waiting acts
  | busy {acts : List Act} {m : Message} {task : τ} (h : Rounds acts) :
      Trail (.busy m task) (acts ++ [.took (.delivery m)])
  | acknowledging {acts : List Act} {m : Message} {outcome : Except ProcessError Unit}
      (h : Rounds acts) :
      Trail (.acknowledging m) (acts ++ [.took (.delivery m), .returned m outcome])
  | acknowledged {acts : List Act} {m : Message} (h : Rounds acts) :
      Trail (.releasing m false) acts
  | crashed {acts : List Act} {m : Message} (h : Rounds acts) :
      Trail (.releasing m true) (acts ++ [.took (.delivery m), .crashed m])
  | lost {acts : List Act} {m : Message} (h : Rounds acts) :
      Trail (.ended true) (acts ++ [.took (.delivery m), .crashed m])
  | refused {acts : List Act} {item : Item} (h : Rounds acts) (hitem : ∀ m, item ≠ .delivery m) :
      Trail (.ended false) (acts ++ [.took item])

/-- Whether a worker has ended or is about to, after a crash. -/
def isOver : Worker τ → Bool
  | .ended _ | .releasing _ true => true
  | .waiting | .busy .. | .acknowledging _ | .releasing _ false => false

/-- A worker ends if and only if itself has met with a failed stream, with a crash or with the end
of the stream. -/
theorem Trail.isOver_iff {w : Worker τ} {acts : List Act} (h : w.Trail acts) :
    w.isOver = true ↔ ∃ act ∈ acts, act.isLast = true := by
  have hopen {earlier later : List Act} (hrounds : Rounds earlier)
      (hlater : ∀ act ∈ later, act.isLast = false) :
      ¬∃ act ∈ earlier ++ later, act.isLast = true := by
    rintro ⟨act, hact, hlast⟩
    rcases List.mem_append.1 hact with hact | hact
    · exact absurd ((hrounds.not_last act hact).symm.trans hlast) nofun
    · exact absurd ((hlater act hact).symm.trans hlast) nofun
  cases h with
  | waiting h | acknowledged h =>
      exact iff_of_false nofun (List.append_nil acts ▸ hopen h nofun)
  | busy h => exact iff_of_false nofun (hopen h (by simp [Act.isLast, Act.isFault, Act.isFinish]))
  | acknowledging h =>
      exact iff_of_false nofun (hopen h (by simp [Act.isLast, Act.isFault, Act.isFinish]))
  | @crashed acts m h | @lost acts m h => exact iff_of_true rfl ⟨.crashed m, by simp, rfl⟩
  | @refused acts item h hitem =>
      refine iff_of_true rfl ⟨.took item, by simp, ?_⟩
      cases item with
      | delivery m => exact absurd rfl (hitem m)
      | failure | finished => rfl

end Worker

namespace Pool

variable {τ ω : Type} {processor : Processor τ ω} {p r : Pool τ ω} {history : List (Nat × Act)}

/-- What a step adds to the history. -/
def acts (processor : Processor τ ω) (p : Pool τ ω) : Label → List (Nat × Act)
  | .pull i item => [(i, .took item)]
  | .finish i =>
    match p.workers[i]? with
    | some (.busy m task) =>
      match processor.outcome? task with
      | some (.returned result) => [(i, .returned m result)]
      | some .crashed => [(i, .crashed m)]
      | none => []
    | _ => []
  | .acknowledge i result =>
    match p.workers[i]? with
    | some (.acknowledging m) => [(i, .acknowledged m result)]
    | _ => []
  | .work _ | .release _ => []

/-- What a history has for one worker. -/
def actsOf (i : Nat) (history : List (Nat × Act)) : List Act :=
  history.filterMap fun entry => if entry.1 = i then some entry.2 else none

@[simp] theorem actsOf_concat_self (i : Nat) (history : List (Nat × Act)) (act : Act) :
    actsOf i (history ++ [(i, act)]) = actsOf i history ++ [act] := by
  simp [actsOf]

theorem actsOf_concat_of_ne {i j : Nat} (history : List (Nat × Act)) (act : Act) (h : i ≠ j) :
    actsOf j (history ++ [(i, act)]) = actsOf j history := by
  simp [actsOf, h]

theorem mem_actsOf {i : Nat} {act : Act} {history : List (Nat × Act)} :
    act ∈ actsOf i history ↔ (i, act) ∈ history := by
  simp only [actsOf, List.mem_filterMap, Option.ite_none_right_eq_some, Option.some.injEq]
  constructor
  · rintro ⟨⟨j, _⟩, hmem, rfl, rfl⟩
    exact hmem
  · intro hmem
    exact ⟨(i, act), hmem, rfl, rfl⟩

/-- A history is one that the workers of a pool can have, and it names no others. -/
structure Follows (p : Pool τ ω) (history : List (Nat × Act)) : Prop where
  trail : ∀ {i : Nat} {w : Worker τ}, p.workers[i]? = some w → w.Trail (actsOf i history)
  none_else : ∀ {i : Nat}, p.workers[i]? = none → actsOf i history = []

theorem follows_start (workers : Nat) (world : ω) :
    (start workers world : Pool τ ω).Follows [] where
  trail := by
    intro i w h
    obtain ⟨-, rfl⟩ := List.mem_replicate.1 (List.mem_of_getElem? h)
    exact .waiting .nil
  none_else _ := rfl

/-- A step of one worker is recorded if its own trail is and the others' are left alone. -/
theorem Follows.put (h : p.Follows history) {i : Nat} {w v : Worker τ}
    (hw : p.workers[i]? = some w) (hworkers : r.workers = p.workers.set i v)
    {entries : List (Nat × Act)} (hself : v.Trail (actsOf i (history ++ entries)))
    (hothers : ∀ j, i ≠ j → actsOf j (history ++ entries) = actsOf j history) :
    r.Follows (history ++ entries) where
  trail := by
    intro j u hu
    rw [hworkers] at hu
    by_cases hij : i = j
    · subst hij
      have hlt : i < p.workers.length := (List.getElem?_eq_some_iff.1 hw).1
      rw [List.getElem?_set_self hlt, Option.some.injEq] at hu
      exact hu ▸ hself
    · rw [List.getElem?_set_ne hij] at hu
      rw [hothers j hij]
      exact h.trail hu
  none_else := by
    intro j hj
    have hij : i ≠ j := by
      rintro rfl
      rw [hworkers, List.getElem?_eq_none_iff, List.length_set] at hj
      exact absurd (List.getElem?_eq_some_iff.1 hw).1 (Nat.not_lt.2 hj)
    rw [hworkers, List.getElem?_set_ne hij] at hj
    rw [hothers j hij]
    exact h.none_else hj

/-- A step that nobody sees is recorded if the history fits the worker's new state as well. -/
theorem Follows.put_silent (h : p.Follows history) {i : Nat} {w v : Worker τ}
    (hw : p.workers[i]? = some w) (hworkers : r.workers = p.workers.set i v)
    (hself : v.Trail (actsOf i history)) : r.Follows (history ++ []) :=
  h.put hw hworkers (by rwa [List.append_nil]) fun j _ => by rw [List.append_nil]

/-- A visible step of one worker is recorded if it continues the worker's trail. -/
theorem Follows.put_act (h : p.Follows history) {i : Nat} {w v : Worker τ} {act : Act}
    (hw : p.workers[i]? = some w) (hworkers : r.workers = p.workers.set i v)
    (hself : v.Trail (actsOf i history ++ [act])) : r.Follows (history ++ [(i, act)]) :=
  h.put hw hworkers (by rwa [actsOf_concat_self]) fun _ hij => actsOf_concat_of_ne history act hij

/-- Every step of a pool continues its history. -/
theorem Moves.follows {label : Label} (hmove : Moves processor p label r)
    (h : p.Follows history) : r.Follows (history ++ p.acts processor label) := by
  cases hmove with
  | taken hwaiting =>
      cases h.trail hwaiting with
      | waiting hrounds => exact h.put_act hwaiting rfl (.busy hrounds)
  | refused hwaiting hitem =>
      cases h.trail hwaiting with
      | waiting hrounds => exact h.put_act hwaiting rfl (.refused hrounds hitem)
  | @worked i m task hbusy =>
      have htrail := h.trail hbusy
      generalize hacts : actsOf i history = acts at htrail
      cases htrail with
      | busy hrounds => exact h.put_silent hbusy rfl (hacts ▸ .busy hrounds)
  | @returned i m task result hbusy hresult =>
      have htrail := h.trail hbusy
      generalize hacts : actsOf i history = acts at htrail
      simp only [Pool.acts, hbusy, hresult]
      cases htrail with
      | busy hrounds =>
          refine h.put_act hbusy rfl ?_
          rw [hacts, List.append_assoc]
          exact .acknowledging hrounds
  | @crashed i m task hbusy hcrash =>
      have htrail := h.trail hbusy
      generalize hacts : actsOf i history = acts at htrail
      simp only [Pool.acts, hbusy, hcrash]
      cases htrail with
      | busy hrounds =>
          refine h.put_act hbusy rfl ?_
          rw [hacts, List.append_assoc]
          exact .crashed hrounds
  | @acknowledged i m result hdone =>
      have htrail := h.trail hdone
      generalize hacts : actsOf i history = acts at htrail
      simp only [Pool.acts, hdone]
      cases htrail with
      | acknowledging hrounds =>
          refine h.put_act hdone rfl ?_
          rw [hacts, List.append_assoc]
          exact .acknowledged (.round hrounds)
  | @released i m lost hdone =>
      have htrail := h.trail hdone
      generalize hacts : actsOf i history = acts at htrail
      cases htrail with
      | acknowledged hrounds => exact h.put_silent hdone rfl (hacts ▸ .waiting hrounds)
      | crashed hrounds => exact h.put_silent hdone rfl (hacts ▸ .lost hrounds)

/-- How many workers have ended or are about to. -/
def endings (p : Pool τ ω) : Nat :=
  p.total fun w => w.isOver.toNat

/-- How many workers have met with what ends them. -/
def lasts (history : List (Nat × Act)) : Nat :=
  history.countP fun entry => entry.2.isLast

theorem endings_put {i n : Nat} {w v : Worker τ} (hw : p.workers[i]? = some w)
    (hendings : v.isOver.toNat = w.isOver.toNat + n) : (p.put i v).endings = p.endings + n := by
  have hsum := total_put (fun w => w.isOver.toNat) v hw
  simp only [endings]
  omega

/-- A step ends a worker if and only if the history says so. -/
theorem Moves.endings_eq {label : Label} (hmove : Moves processor p label r) :
    r.endings = p.endings + lasts (p.acts processor label) := by
  cases hmove with
  | taken h => exact endings_put (n := 0) h rfl
  | @refused i item h hitem =>
      cases item with
      | delivery m => exact absurd rfl (hitem m)
      | failure | finished => exact endings_put h rfl
  | worked h => exact endings_put (n := 0) h rfl
  | returned h hresult | crashed h hresult =>
      simp only [acts, h, hresult]
      exact endings_put h rfl
  | acknowledged h =>
      simp only [acts, h]
      exact endings_put (v := .releasing _ false) h rfl
  | @released i m lost h => cases lost <;> exact endings_put h rfl

/-- When all workers have ended, each of them is over. -/
theorem endings_eq_length (hdone : p.isDone = true) : p.endings = p.workers.length := by
  have hone : ∀ n ∈ p.workers.map fun w => w.isOver.toNat, n = 1 := by
    intro n hn
    obtain ⟨w, hw, rfl⟩ := List.mem_map.1 hn
    have hended := List.all_eq_true.1 hdone w hw
    cases w with
    | ended => rfl
    | waiting | busy | acknowledging | releasing => cases hended
  rw [endings, total, List.eq_replicate_of_mem hone]
  simp

end Pool

end JobLog.Broker
