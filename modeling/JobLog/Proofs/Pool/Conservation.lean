import JobLog.Proofs.Pool.Steps

/-!
# What a pool does altogether

The work of many workers can be added up: if every step of a call moves something from what the call
still has to do into the world, then what the world has received, together with what the open calls
still have to do, is what the messages were worth that have been taken. `Runs.conserved` says so for
sums in which the order makes no difference; a pool of one worker also keeps the order:
`Runs.account_eq_single`.
-/

namespace JobLog.Broker

variable {τ ω : Type} {processor : Processor τ ω} {ok : ω → Prop} {M N : Type}

/-- Calls leave `account` of an `ok` world larger by what a message is `owed`; `due` is what an open
call has still to add. -/
structure Processor.Conserves [AddMonoid M] (processor : Processor τ ω) (ok : ω → Prop)
    (account : ω → M) (due : τ → M) (owed : Message → M) : Prop where
  start : ∀ i m w, due (processor.start i m w) = owed m
  step : ∀ {i t w}, ok w → processor.outcome? t = none →
    ok (processor.step i t w).2 ∧
      account (processor.step i t w).2 + due (processor.step i t w).1 = account w + due t
  ended : ∀ {t outcome}, processor.outcome? t = some outcome → due t = 0

/-- What is conserved in detail is conserved in outline. -/
theorem Processor.Conserves.map [AddMonoid M] [AddMonoid N] {account : ω → M} {due : τ → M}
    {owed : Message → M} (h : processor.Conserves ok account due owed) (f : M →+ N) :
    processor.Conserves ok (fun w => f (account w)) (fun t => f (due t))
      (fun m => f (owed m)) where
  start i m w := by rw [h.start]
  step hok hopen := by
    obtain ⟨hkept, hsum⟩ := h.step hok hopen
    exact ⟨hkept, by rw [← map_add, hsum, map_add]⟩
  ended hended := by rw [h.ended hended, map_zero]

/-- What a worker has still to do. -/
def Worker.due [Zero M] (due : τ → M) : Worker τ → M
  | .busy _ t => due t
  | .waiting | .acknowledging _ | .releasing .. | .ended _ => 0

namespace Pool

variable {p r : Pool τ ω}

/-- What the messages were worth that the workers have taken. -/
def owed [AddMonoid M] (value : Message → M) (p : Pool τ ω) : M :=
  (p.pulled.map fun entry => value entry.2).sum

/-- The world stays `ok`. -/
theorem Moves.keeps_ok [AddMonoid M] {account : ω → M} {due : τ → M} {value : Message → M}
    (h : processor.Conserves ok account due value) {label : Label}
    (hmove : Moves processor p label r) (hok : ok p.world) : ok r.world := by
  cases hmove with
  | worked _ hopen => exact (h.step hok hopen).1
  | _ => exact hok

theorem Runs.keeps_ok [AddMonoid M] {account : ω → M} {due : τ → M} {value : Message → M}
    (h : processor.Conserves ok account due value) (run : Runs processor p r)
    (hok : ok p.world) : ok r.world := by
  induction run with
  | refl => exact hok
  | step run move ih => exact move.keeps_ok h ih

section Unordered

variable [AddCancelCommMonoid M] {account : ω → M} {due : τ → M} {value : Message → M}

/-- No step of a worker changes what the world has received, the open calls have to do and the taken
messages were worth. -/
theorem Moves.conserved (h : processor.Conserves ok account due value) {label : Label}
    (hmove : Moves processor p label r) (hok : ok p.world) :
    account r.world + r.total (Worker.due due) + p.owed value =
      account p.world + p.total (Worker.due due) + r.owed value := by
  have hidle {i : Nat} {w v : Worker τ} (hw : p.workers[i]? = some w) (hdue : w.due due = 0)
      (hnone : v.due due = 0) : (p.put i v).total (Worker.due due) = p.total (Worker.due due) := by
    simpa [hdue, hnone] using total_put (Worker.due due) v hw
  cases hmove with
  | @taken i m hwaiting =>
      have hsum := total_put (Worker.due due) (.busy m (processor.start i m p.world)) hwaiting
      simp only [Worker.due, h.start, add_zero] at hsum
      show account p.world + (p.put i _).total (Worker.due due) + p.owed value =
        account p.world + p.total (Worker.due due) + _
      simp only [owed, List.map_append, List.map_singleton, List.sum_append, List.sum_singleton]
      rw [hsum]
      ac_rfl
  | refused hwaiting => exact congrArg (account p.world + · + _) (hidle hwaiting rfl rfl)
  | @worked i m task hbusy hopen =>
      have hsum := total_put (Worker.due due) (.busy m (processor.step i task p.world).1) hbusy
      have hstep := (h.step (i := i) hok hopen).2
      simp only [Worker.due] at hsum
      refine congrArg (· + p.owed value) (add_right_cancel (b := due task) ?_)
      calc (account (processor.step i task p.world).2 +
            (p.put i (.busy m (processor.step i task p.world).1)).total (Worker.due due)) + due task
          = account (processor.step i task p.world).2 + due (processor.step i task p.world).1 +
              p.total (Worker.due due) := by rw [add_assoc, hsum]; ac_rfl
        _ = account p.world + p.total (Worker.due due) + due task := by rw [hstep]; ac_rfl
  | returned hbusy hresult | crashed hbusy hresult =>
      exact congrArg (account p.world + · + _) (hidle hbusy (h.ended hresult) rfl)
  | acknowledged hdone => exact congrArg (account p.world + · + _) (hidle hdone rfl rfl)
  | @released i m lost hdone =>
      exact congrArg (account p.world + · + _) (hidle hdone rfl (by cases lost <;> rfl))

/-- What the world has received and the open calls have still to do is what the taken messages were
worth. -/
theorem Runs.conserved (h : processor.Conserves ok account due value) {workers : Nat} {world : ω}
    (hok : ok world) (run : Runs processor (start workers world) p) :
    account p.world + p.total (Worker.due due) = account world + p.owed value := by
  induction run with
  | refl => simp [total, start, owed, Worker.due]
  | @step a b label run move ih =>
      have hsum := move.conserved h (run.keeps_ok h hok)
      rw [ih] at hsum
      refine add_right_cancel (b := a.owed value) (hsum.trans ?_)
      ac_rfl

/-- Workers that have ended have nothing to do. -/
theorem total_due_of_isDone (due : τ → M) (hdone : p.isDone = true) :
    p.total (Worker.due due) = 0 := by
  refine List.sum_eq_zero fun d hd => ?_
  obtain ⟨w, hw, rfl⟩ := List.mem_map.1 hd
  have hended := List.all_eq_true.1 hdone w hw
  cases w with
  | ended => rfl
  | waiting | busy | acknowledging | releasing => cases hended

/-- When all workers have ended, the world has received all that the taken messages were worth. -/
theorem Runs.account_eq (h : processor.Conserves ok account due value) {workers : Nat} {world : ω}
    (hok : ok world) (run : Runs processor (start workers world) p) (hdone : p.isDone = true) :
    account p.world = account world + p.owed value := by
  rw [← run.conserved h hok, total_due_of_isDone due hdone, add_zero]

end Unordered

section Ordered

variable [AddMonoid M] {account : ω → M} {due : τ → M} {value : Message → M}

/-- The pool has one worker, which has added to `start` what its messages were worth, in order, up
to what its open call has still to do. -/
def Settled (account : ω → M) (due : τ → M) (value : Message → M) (start : M) (p : Pool τ ω) :
    Prop :=
  ∃ w, p.workers = [w] ∧ account p.world + w.due due = start + p.owed value

/-- A single worker adds to the world in the order in which it takes messages. -/
theorem Moves.settled (h : processor.Conserves ok account due value) {label : Label} {total : M}
    (hmove : Moves processor p label r) (hok : ok p.world)
    (hsettled : p.Settled account due value total) : r.Settled account due value total := by
  obtain ⟨w, hone, hsum⟩ := hsettled
  have hworker {i : Nat} {v : Worker τ} (hv : p.workers[i]? = some v) : i = 0 ∧ w = v := by
    cases i with
    | zero => exact ⟨rfl, by simpa [hone] using hv⟩
    | succ i => simp [hone] at hv
  have hput (u : Worker τ) : (p.put 0 u).workers = [u] := by simp [put, hone]
  cases hmove with
  | @taken i m hwaiting =>
      obtain ⟨rfl, rfl⟩ := hworker hwaiting
      refine ⟨_, hput _, ?_⟩
      simp only [Worker.due, add_zero] at hsum
      simp only [put, Worker.due, h.start, hsum, owed, List.map_append, List.sum_append,
        List.map_singleton, List.sum_singleton, add_assoc]
  | refused hwaiting =>
      obtain ⟨rfl, rfl⟩ := hworker hwaiting
      exact ⟨_, hput _, hsum⟩
  | worked hbusy hopen =>
      obtain ⟨rfl, rfl⟩ := hworker hbusy
      exact ⟨_, hput _, (h.step hok hopen).2.trans hsum⟩
  | returned hbusy hresult | crashed hbusy hresult =>
      obtain ⟨rfl, rfl⟩ := hworker hbusy
      simp only [Worker.due, h.ended hresult] at hsum
      exact ⟨_, hput _, hsum⟩
  | acknowledged hdone =>
      obtain ⟨rfl, rfl⟩ := hworker hdone
      exact ⟨_, hput _, hsum⟩
  | @released i m lost hdone =>
      obtain ⟨rfl, rfl⟩ := hworker hdone
      refine ⟨_, hput _, ?_⟩
      cases lost <;> exact hsum

/-- When its only worker has ended, the world has received all that the taken messages were worth,
in their order. -/
theorem Runs.account_eq_single (h : processor.Conserves ok account due value) {world : ω}
    (hok : ok world) (run : Runs processor (start 1 world) p) (hdone : p.isDone = true) :
    account p.world = account world + p.owed value := by
  have hsettled : p.Settled account due value (account world) := by
    clear hdone
    induction run with
    | refl => exact ⟨.waiting, rfl, by simp [Worker.due, owed, start]⟩
    | step run move ih => exact move.settled h (run.keeps_ok h hok) ih
  obtain ⟨w, hone, hsum⟩ := hsettled
  simp only [isDone, hone, List.all_cons, List.all_nil, Bool.and_true] at hdone
  cases w with
  | ended lost => simpa [Worker.due] using hsum
  | waiting | busy | acknowledging | releasing => cases hdone

end Ordered

end Pool

end JobLog.Broker
