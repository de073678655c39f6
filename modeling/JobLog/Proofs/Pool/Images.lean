import JobLog.Proofs.Pool.Crew

/-!
# Images of pools

A processor may keep more in its tasks and in the world than another one that does the same. If
leaving this out turns each of its steps into a step of the other (`Processor.Shows`), then the
image of a pool takes the steps that the pool takes (`Pool.step_image`), with the same history, and
every schedule does to the image what it does to the pool (`Crew.run_image`). What the steps need to
know about the tasks and the world is an invariant of the larger pool.
-/

namespace JobLog.Broker

variable {τ ω α β : Type} {P : Processor τ ω} {Q : Processor α β} {f : τ → α} {g : ω → β}

/-- A worker with the image of its task. -/
def Worker.image (f : τ → α) : Worker τ → Worker α
  | .waiting => .waiting
  | .busy m task => .busy m (f task)
  | .acknowledging m => .acknowledging m
  | .releasing m lost => .releasing m lost
  | .ended lost => .ended lost

/-- A pool with the images of its tasks and its world. -/
def Pool.image (f : τ → α) (g : ω → β) (p : Pool τ ω) : Pool α β :=
  ⟨p.workers.map (Worker.image f), g p.world, p.pulled, p.acknowledged⟩

/-- Workers that share a stream, with the images of their tasks and their world. -/
def Crew.image (f : τ → α) (g : ω → β) (c : Crew τ ω) : Crew α β :=
  ⟨c.pool.image f g, c.holder, c.asked, c.tasks, c.history⟩

/-- What the calls of a pool do next is shown by their images. -/
structure Processor.Shows (P : Processor τ ω) (Q : Processor α β) (f : τ → α) (g : ω → β)
    (p : Pool τ ω) : Prop where
  start : ∀ i m, Q.start i m (g p.world) = f (P.start i m p.world)
  step : ∀ {i : Nat} {m : Message} {task : τ}, p.workers[i]? = some (.busy m task) →
    Q.step i (f task) (g p.world) = (f (P.step i task p.world).1, g (P.step i task p.world).2)
  outcome : ∀ task, Q.outcome? (f task) = P.outcome? task

namespace Pool

variable {p : Pool τ ω}

@[simp] theorem image_world : (p.image f g).world = g p.world :=
  rfl

theorem image_getElem? (i : Nat) :
    (p.image f g).workers[i]? = p.workers[i]?.map (Worker.image f) :=
  List.getElem?_map

/-- A pool and its image take the same steps. -/
theorem step_image (h : P.Shows Q f g p) (label : Label) :
    (p.image f g).step Q label = (p.step P label).map (image f g) := by
  cases label with
  | pull i item =>
      simp only [step, image_getElem?]
      cases p.workers[i]? with
      | none => rfl
      | some w =>
          cases w with
          | waiting =>
              cases item with
              | delivery m =>
                  simp only [image, put, Option.map_some, Worker.image, List.map_set, h.start]
              | failure | finished =>
                  simp only [image, put, Option.map_some, Worker.image, List.map_set]
          | busy | acknowledging | releasing | ended => rfl
  | work i =>
      simp only [step, image_getElem?]
      cases hw : p.workers[i]? with
      | none => rfl
      | some w =>
          cases w with
          | busy m task =>
              simp only [Option.map_some, Worker.image, image_world, h.outcome]
              cases P.outcome? task with
              | some outcome => rfl
              | none =>
                  simp only [h.step hw, image, put, Option.map_some, Worker.image, List.map_set]
          | waiting | acknowledging | releasing | ended => rfl
  | finish i =>
      simp only [step, image_getElem?]
      cases p.workers[i]? with
      | none => rfl
      | some w =>
          cases w with
          | busy m task =>
              simp only [Option.map_some, Worker.image, h.outcome]
              cases P.outcome? task with
              | none => rfl
              | some outcome =>
                  cases outcome <;>
                    simp only [image, put, Option.map_some, Worker.image, List.map_set]
          | waiting | acknowledging | releasing | ended => rfl
  | acknowledge i result =>
      simp only [step, image_getElem?]
      cases p.workers[i]? with
      | none => rfl
      | some w =>
          cases w with
          | acknowledging m => simp only [image, put, Option.map_some, Worker.image, List.map_set]
          | waiting | busy | releasing | ended => rfl
  | release i =>
      simp only [step, image_getElem?]
      cases p.workers[i]? with
      | none => rfl
      | some w =>
          cases w with
          | releasing m lost =>
              cases lost <;> simp only [image, put, Option.map_some, List.map_set] <;> rfl
          | waiting | busy | acknowledging | ended => rfl

/-- A pool and its image do the same for others to see. -/
theorem acts_image (houtcome : ∀ task, Q.outcome? (f task) = P.outcome? task) (label : Label) :
    (p.image f g).acts Q label = p.acts P label := by
  cases label with
  | pull | work | release => rfl
  | finish i =>
      simp only [acts, image_getElem?]
      cases p.workers[i]? with
      | none => rfl
      | some w =>
          cases w with
          | busy m task => simp only [Option.map_some, Worker.image, houtcome]
          | waiting | acknowledging | releasing | ended => rfl
  | acknowledge i result =>
      simp only [acts, image_getElem?]
      cases p.workers[i]? with
      | none => rfl
      | some w => cases w <;> rfl

end Pool

namespace Crew

variable {c d : Crew τ ω} {source : Source} {labels : List Label}

@[simp] theorem image_asked : (c.image f g).asked = c.asked :=
  rfl

@[simp] theorem image_holder : (c.image f g).holder = c.holder :=
  rfl

theorem move_image (h : P.Shows Q f g c.pool) (label : Pool.Label) :
    (c.image f g).move Q label = (c.move P label).map (image f g) := by
  simp only [move, image, Pool.step_image h, Pool.acts_image h.outcome, Option.map_map]
  rfl

theorem step_image (h : P.Shows Q f g c.pool) (label : Label) :
    (c.image f g).step Q source label = (c.step P source label).map (image f g) := by
  cases label with
  | lock i =>
      simp only [step, image, Pool.image_getElem?]
      cases c.pool.workers[i]? with
      | none => rfl
      | some w => cases w <;> cases c.holder <;> rfl
  | take i =>
      simp only [step, move_image h, image_asked, image_holder]
      cases source.item? c.asked with
      | none => rfl
      | some item =>
          dsimp only
          split
          · simp only [Option.map_map]
            rfl
          · rfl
  | inner label =>
      simp only [step, move_image h]
      split <;> rfl
  | join i =>
      simp only [step, image, Pool.image_getElem?]
      cases c.pool.workers[i]? with
      | none => rfl
      | some w =>
          cases w with
          | ended lost =>
              simp only [Option.map_some, Worker.image, apply_ite (Option.map (image f g))]
              rfl
          | waiting | busy | acknowledging | releasing => rfl

/-- What every step of a pool keeps of the pool and its history is kept when its workers share a
stream. -/
theorem Moves.kept {label : Label} {K : Pool τ ω → List (Nat × Act) → Prop}
    (hmove : Moves P source c label d)
    (hkept : ∀ {p r : Pool τ ω} {label : Pool.Label} {history : List (Nat × Act)},
      Pool.Moves P p label r → K p history → K r (history ++ p.acts P label))
    (hc : K c.pool c.history) : K d.pool d.history := by
  cases hmove with
  | locked | joined => exact hc
  | took _ _ hpool => exact hkept hpool hc
  | moved _ hpool => exact hkept hpool hc

end Crew

end JobLog.Broker
