import JobLog.Broker.Simulation
import JobLog.Proofs.Pool.History
import Mathlib.Algebra.GroupWithZero.Nat
import Mathlib.Order.WellFounded

/-!
# Workers that share a stream

The workers of a pool take their items from one stream, which only one of them can ask at a time,
and the pool returns when it has noticed the end of every worker. The stream is arbitrary: it gives
messages and failures in any order and then ends, stays silent or goes on forever.
`serves_source` says what the workers do with it, however their calls and acknowledgments turn out
and in whatever order they take their turns.
-/

namespace JobLog.Broker

/-- What a stream gives to those who ask, one request after another. -/
structure Source where
  /-- The answer to the request with this number; nothing if the stream stays silent from there on.
  -/
  item? : Nat → Option Item
  /-- A stream that has ended gives nothing else any more. -/
  finished : ∀ {n : Nat}, item? n = some .finished → item? (n + 1) = some .finished

/-- From some request on, a stream gives no messages. -/
def Source.Bounded (source : Source) : Prop :=
  ∃ bound, ∀ n, bound ≤ n → ∀ m, source.item? n ≠ some (.delivery m)

/-- Whether a worker takes an item. -/
def Pool.Label.isPull : Pool.Label → Bool
  | .pull .. => true
  | .work _ | .finish _ | .acknowledge .. | .release _ => false

/-- A pool of workers and the stream they share. -/
structure Crew (τ ω : Type) where
  pool : Pool τ ω
  /-- The worker that has locked the stream. -/
  holder : Option Nat
  /-- How many items have been taken from the stream. -/
  asked : Nat
  /-- The workers whose end has not been noticed yet. -/
  tasks : List Nat
  history : List (Nat × Act)

namespace Crew

/-- What can happen next. -/
inductive Label where
  /-- A worker locks the stream. -/
  | lock (worker : Nat)
  /-- The worker that has locked the stream gets an item and unlocks it. -/
  | take (worker : Nat)
  /-- A worker takes a step in which it asks for no item. -/
  | inner (label : Pool.Label)
  /-- The end of a worker is noticed. -/
  | join (worker : Nat)

variable {τ ω : Type}

/-- Workers that have not begun. -/
def start (workers : Nat) (world : ω) : Crew τ ω :=
  ⟨.start workers world, none, 0, List.range workers, []⟩

/-- A worker takes a step, which the history records. -/
def move (processor : Processor τ ω) (c : Crew τ ω) (label : Pool.Label) : Option (Crew τ ω) :=
  (c.pool.step processor label).map fun pool =>
    { c with pool, history := c.history ++ c.pool.acts processor label }

/-- One step; nothing if it is not its turn. -/
def step (processor : Processor τ ω) (source : Source) (c : Crew τ ω) :
    Label → Option (Crew τ ω)
  | .lock i =>
    match c.pool.workers[i]?, c.holder with
    | some .waiting, none => some { c with holder := some i }
    | _, _ => none
  | .take i =>
    match source.item? c.asked with
    | some item =>
      if c.holder = some i then
        (c.move processor (.pull i item)).map fun d =>
          { d with holder := none, asked := c.asked + 1 }
      else none
    | none => none
  | .inner label => if label.isPull then none else c.move processor label
  | .join i =>
    match c.pool.workers[i]? with
    | some (.ended _) => if i ∈ c.tasks then some { c with tasks := c.tasks.erase i } else none
    | _ => none

/-- Take steps one after another. -/
def run (processor : Processor τ ω) (source : Source) (c : Crew τ ω) (labels : List Label) :
    Option (Crew τ ω) :=
  labels.foldlM (fun c label => c.step processor source label) c

/-- Whether the pool has returned. -/
def hasReturned (c : Crew τ ω) : Bool :=
  c.tasks.isEmpty

/-- The items that were taken, in order. -/
def taken (c : Crew τ ω) : List Item :=
  c.history.filterMap fun entry => entry.2.item?

/-- No schedule of the workers goes on forever. -/
def Terminates (processor : Processor τ ω) (source : Source) (c : Crew τ ω) : Prop :=
  ¬∃ states : Nat → Crew τ ω, states 0 = c ∧
    ∀ k, ∃ label, (states k).step processor source label = some (states (k + 1))

variable {processor : Processor τ ω} {source : Source} {c d : Crew τ ω} {workers : Nat}
  {world : ω} {labels : List Label}

/-- The steps with their guards and results. -/
inductive Moves (processor : Processor τ ω) (source : Source) (c : Crew τ ω) :
    Label → Crew τ ω → Prop where
  | locked {i : Nat} (hwaiting : c.pool.workers[i]? = some .waiting) (hfree : c.holder = none) :
      Moves processor source c (.lock i) { c with holder := some i }
  | took {i : Nat} {item : Item} {pool : Pool τ ω} (hholder : c.holder = some i)
      (hitem : source.item? c.asked = some item)
      (hpool : Pool.Moves processor c.pool (.pull i item) pool) :
      Moves processor source c (.take i)
        { c with
          pool, holder := none, asked := c.asked + 1, history := c.history ++ [(i, .took item)] }
  | moved {label : Pool.Label} {pool : Pool τ ω} (hlabel : label.isPull = false)
      (hpool : Pool.Moves processor c.pool label pool) :
      Moves processor source c (.inner label)
        { c with pool, history := c.history ++ c.pool.acts processor label }
  | joined {i : Nat} {lost : Bool} (hended : c.pool.workers[i]? = some (.ended lost))
      (htask : i ∈ c.tasks) :
      Moves processor source c (.join i) { c with tasks := c.tasks.erase i }

/-- Every step is one of those that `Moves` lists. -/
theorem moves_of_step {label : Label} (h : c.step processor source label = some d) :
    Moves processor source c label d := by
  cases label with
  | lock i =>
      simp only [step] at h
      split at h <;> cases h
      exact .locked ‹_› ‹_›
  | take i =>
      simp only [step] at h
      split at h
      · split at h
        · obtain ⟨_, hmove, rfl⟩ := Option.map_eq_some_iff.1 h
          obtain ⟨pool, hpool, rfl⟩ := Option.map_eq_some_iff.1 hmove
          exact .took ‹_› ‹_› (Pool.step_eq_some_iff.1 hpool)
        · cases h
      · cases h
  | inner label =>
      simp only [step] at h
      split at h
      · cases h
      · obtain ⟨pool, hpool, rfl⟩ := Option.map_eq_some_iff.1 h
        exact .moved (Bool.eq_false_iff.2 ‹_›) (Pool.step_eq_some_iff.1 hpool)
  | join i =>
      simp only [step] at h
      split at h
      · split at h <;> cases h
        exact .joined ‹_› ‹_›
      · cases h

/-- What every step keeps holds after every run. -/
theorem run_invariant {P : Crew τ ω → Prop}
    (hstep : ∀ {c d : Crew τ ω} {label : Label}, Moves processor source c label d → P c → P d)
    (hrun : c.run processor source labels = some d) (hc : P c) : P d := by
  induction labels generalizing c with
  | nil =>
      cases hrun
      exact hc
  | cons label labels ih =>
      obtain ⟨e, hfirst, hrest⟩ := Option.bind_eq_some_iff.1 hrun
      exact ih hrest (hstep (moves_of_step hfirst) hc)

end Crew

namespace Pool

variable {τ ω : Type} {processor : Processor τ ω} {p r : Pool τ ω}

/-- A step leaves alone the workers that have ended and, unless it takes an item, those that wait.
-/
theorem Moves.getElem?_eq {label : Label} (hmove : Moves processor p label r) {j : Nat}
    {w : Worker τ} (hw : p.workers[j]? = some w)
    (hidle : w.isEnded = true ∨ w = .waiting ∧ label.isPull = false) :
    r.workers[j]? = some w := by
  have hset {i : Nat} {u v : Worker τ} (hu : p.workers[i]? = some u) (hne : u ≠ w) :
      (p.put i v).workers[j]? = some w := by
    have hij : i ≠ j := by
      rintro rfl
      exact hne (Option.some.inj (hu.symm.trans hw))
    show (p.workers.set i v)[j]? = some w
    rw [List.getElem?_set_ne hij]
    exact hw
  cases hmove with
  | taken hu | refused hu =>
      refine hset hu ?_
      rintro rfl
      rcases hidle with hended | ⟨-, hpull⟩
      · cases hended
      · cases hpull
  | worked hu | returned hu | crashed hu | acknowledged hu | released hu =>
      refine hset hu ?_
      rintro rfl
      rcases hidle with hended | ⟨hwaiting, -⟩
      · cases hended
      · cases hwaiting

/-- Only a step that takes an item adds an item to the history. -/
theorem filterMap_acts {label : Label} (hlabel : label.isPull = false) :
    (p.acts processor label).filterMap (fun entry => entry.2.item?) = [] := by
  cases label with
  | pull => cases hlabel
  | work | release => rfl
  | finish i =>
      simp only [acts]
      split
      · split <;> rfl
      · rfl
  | acknowledge i result =>
      simp only [acts]
      split <;> rfl

end Pool

namespace Crew

variable {τ ω : Type} {processor : Processor τ ω} {source : Source} {c d : Crew τ ω}
  {workers : Nat} {world : ω} {labels : List Label}

/-- What holds of workers and stream at every moment. -/
structure Sound (source : Source) (workers : Nat) (c : Crew τ ω) : Prop where
  length_eq : c.pool.workers.length = workers
  follows : c.pool.Follows c.history
  endings_eq : c.pool.endings = Pool.lasts c.history
  taken_eq : c.taken.map some = (List.range c.asked).map source.item?
  holder : ∀ i, c.holder = some i → c.pool.workers[i]? = some .waiting
  task_lt : ∀ i ∈ c.tasks, i < workers
  ended : ∀ i < workers, i ∉ c.tasks → ∃ lost, c.pool.workers[i]? = some (.ended lost)

theorem sound_start : (start workers world : Crew τ ω).Sound source workers where
  length_eq := List.length_replicate
  follows := Pool.follows_start workers world
  endings_eq := by
    simp [start, Pool.endings, Pool.total, Pool.start, Worker.isOver, Pool.lasts]
  taken_eq := rfl
  holder := nofun
  task_lt _ := List.mem_range.1
  ended i hi hjoined := absurd (List.mem_range.2 hi) hjoined

/-- Every step keeps this. -/
theorem Moves.sound {label : Label} (hmove : Moves processor source c label d)
    (h : c.Sound source workers) : d.Sound source workers := by
  obtain ⟨hlength, hfollows, hendings, htaken, hholder, htask, hended⟩ := h
  have hstays {label : Pool.Label} {pool : Pool τ ω}
      (hpool : Pool.Moves processor c.pool label pool) :
      ∀ i < workers, i ∉ c.tasks → ∃ lost, pool.workers[i]? = some (.ended lost) := by
    intro i hi hjoined
    obtain ⟨lost, hlost⟩ := hended i hi hjoined
    exact ⟨lost, hpool.getElem?_eq hlost (.inl rfl)⟩
  have hlasts {label : Pool.Label} {pool : Pool τ ω}
      (hpool : Pool.Moves processor c.pool label pool) :
      pool.endings = Pool.lasts (c.history ++ c.pool.acts processor label) := by
    rw [hpool.endings_eq, hendings]
    exact List.countP_append.symm
  cases hmove with
  | locked hwaiting hfree =>
      refine ⟨hlength, hfollows, hendings, htaken, ?_, htask, hended⟩
      intro i hi
      cases hi
      exact hwaiting
  | took _ hitem hpool =>
      refine ⟨hpool.length_eq.trans hlength, hpool.follows hfollows, hlasts hpool, ?_, nofun, htask,
        hstays hpool⟩
      show (List.filterMap _ (c.history ++ [_])).map some = _
      rw [List.filterMap_append, List.map_append, List.range_succ, List.map_append, ← htaken]
      exact congrArg _ (congrArg (fun item => [item]) hitem.symm)
  | moved hlabel hpool =>
      refine ⟨hpool.length_eq.trans hlength, hpool.follows hfollows, hlasts hpool, ?_, ?_, htask,
        hstays hpool⟩
      · show (List.filterMap _ (c.history ++ _)).map some = _
        rw [List.filterMap_append, Pool.filterMap_acts hlabel, List.append_nil]
        exact htaken
      · intro i hi
        exact hpool.getElem?_eq (hholder i hi) (.inr ⟨rfl, hlabel⟩)
  | @joined i lost hlost =>
      refine ⟨hlength, hfollows, hendings, htaken, hholder, ?_, ?_⟩
      · intro j hj
        exact htask j (List.mem_of_mem_erase hj)
      · intro j hj hjoined
        by_cases hij : j = i
        · exact ⟨lost, hij ▸ hlost⟩
        · exact hended j hj fun hmem => hjoined ((List.mem_erase_of_ne hij).2 hmem)

theorem sound_of_run (hrun : (start workers world).run processor source labels = some c) :
    c.Sound source workers :=
  run_invariant Moves.sound hrun sound_start

/-- When the pool has returned, all workers have ended. -/
theorem Sound.isDone (h : c.Sound source workers) (hreturned : c.hasReturned = true) :
    c.pool.isDone = true := by
  refine List.all_eq_true.2 fun w hw => ?_
  obtain ⟨i, hi⟩ := List.getElem?_of_mem hw
  have hlt : i < workers := h.length_eq ▸ (List.getElem?_eq_some_iff.1 hi).1
  have hjoined : i ∉ c.tasks := by
    rw [List.isEmpty_iff.1 hreturned]
    exact List.not_mem_nil
  obtain ⟨lost, hlost⟩ := h.ended i hlt hjoined
  rw [hi] at hlost
  cases hlost
  rfl

/-- When all workers have ended, the stream has ended or as many of them have failed. -/
theorem Sound.finished_or_faults (h : c.Sound source workers) (hdone : c.pool.isDone = true) :
    (∃ i, (i, .took .finished) ∈ c.history) ∨
      (c.history.countP fun entry => entry.2.isFault) = workers := by
  by_cases hfinish : ∃ i, (i, Act.took .finished) ∈ c.history
  · exact .inl hfinish
  · have hsame : (c.history.countP fun entry => entry.2.isFault) = Pool.lasts c.history := by
      refine List.countP_congr fun ⟨i, act⟩ hmem => ?_
      cases act with
      | took item =>
          cases item with
          | finished => exact absurd ⟨i, hmem⟩ hfinish
          | delivery | failure => rfl
      | returned | crashed | acknowledged => rfl
    right
    rw [hsame, ← h.endings_eq, Pool.endings_eq_length hdone, h.length_eq]

/-- Once all workers have ended, nothing is left to do but to notice it. -/
theorem Moves.join_of_isDone {label : Label} (hmove : Moves processor source c label d)
    (hdone : c.pool.isDone = true) : ∃ i, label = .join i := by
  cases hmove with
  | @locked i hwaiting =>
      cases List.all_eq_true.1 hdone _ (List.mem_of_getElem? hwaiting)
  | took _ _ hpool | moved _ hpool => exact absurd (hpool.not_isDone.symm.trans hdone) nofun
  | joined => exact ⟨_, rfl⟩

/-- Until the pool has returned, something can happen or the stream stays silent to a worker that
has asked. -/
theorem Sound.progress (h : c.Sound source workers) (hopen : c.hasReturned = false) :
    (∃ label, (c.step processor source label).isSome = true) ∨
      source.item? c.asked = none ∧
        ∃ i, c.holder = some i ∧ c.pool.workers[i]? = some .waiting := by
  obtain ⟨i, htask⟩ := List.exists_mem_of_ne_nil c.tasks (by simpa [hasReturned] using hopen)
  have hlt : i < c.pool.workers.length := h.length_eq ▸ h.task_lt i htask
  cases hw : c.pool.workers[i]? with
  | none => exact absurd hlt (Nat.not_lt.2 (List.getElem?_eq_none_iff.1 hw))
  | some w =>
      cases w with
      | waiting =>
          cases hholder : c.holder with
          | none => exact .inl ⟨.lock i, by simp [step, hw, hholder]⟩
          | some j =>
              have hwaiting := h.holder j hholder
              cases hitem : source.item? c.asked with
              | none => exact .inr ⟨rfl, j, rfl, hwaiting⟩
              | some item =>
                  refine .inl ⟨.take j, ?_⟩
                  cases item <;> simp [step, hitem, hholder, move, Pool.step, hwaiting]
      | busy m task =>
          left
          cases houtcome : processor.outcome? task with
          | none =>
              refine ⟨.inner (.work i), ?_⟩
              simp [step, Pool.Label.isPull, move, Pool.step, hw, houtcome]
          | some outcome =>
              refine ⟨.inner (.finish i), ?_⟩
              cases outcome <;> simp [step, Pool.Label.isPull, move, Pool.step, hw, houtcome]
      | acknowledging m =>
          exact .inl ⟨.inner (.acknowledge i (.ok ())),
            by simp [step, Pool.Label.isPull, move, Pool.step, hw]⟩
      | releasing m lost =>
          exact .inl ⟨.inner (.release i), by simp [step, Pool.Label.isPull, move, Pool.step, hw]⟩
      | ended lost => exact .inl ⟨.join i, by simp [step, hw, htask]⟩

/-- A bound on the steps outside the calls of the processor, given from which request on the stream
has no messages: eight for each request before that and two for each step of a worker, so that the
lock that comes with a request is paid for. -/
def ahead (bound : Nat) (c : Crew τ ω) : Nat :=
  8 * (bound - c.asked) + 2 * c.pool.ahead + c.tasks.length + c.holder.isNone.toNat

/-- Every step brings the workers closer to their end, outside their calls or inside. -/
theorem Moves.ahead_lt {label : Label} (hmove : Moves processor source c label d) {bound : Nat}
    (hbound : ∀ n, bound ≤ n → ∀ m, source.item? n ≠ some (.delivery m)) :
    d.ahead bound < c.ahead bound ∨
      d.ahead bound = c.ahead bound ∧ d.pool.left processor < c.pool.left processor := by
  cases hmove with
  | locked _ hfree =>
      left
      simp only [ahead, hfree, Option.isNone_some, Option.isNone_none, Bool.toNat_false,
        Bool.toNat_true]
      omega
  | @took i item pool hholder hitem hpool =>
      left
      have hlate : bound ≤ c.asked → (Pool.Label.pull i item).takes = 0 := by
        intro hle
        cases item with
        | delivery m => exact absurd hitem (hbound c.asked hle m)
        | failure | finished => rfl
      have htakes : (Pool.Label.pull i item).takes ≤ 1 := by
        cases item <;> simp [Pool.Label.takes]
      simp only [ahead, hholder, Option.isNone_some, Option.isNone_none, Bool.toNat_false,
        Bool.toNat_true]
      rcases hpool.ahead_lt with hlt | ⟨heq, hnone, -⟩
      · by_cases hle : bound ≤ c.asked
        · have hnone := hlate hle
          omega
        · omega
      · -- Taking an item is no step inside a call.
        cases hpool with
        | taken => cases hnone
        | refused hwaiting =>
            exact absurd heq (Nat.ne_of_lt (Pool.ahead_put_lt hwaiting Nat.one_pos))
  | @moved label pool hlabel hpool =>
      have htakes : label.takes = 0 := by
        cases label with
        | pull => cases hlabel
        | work | finish | acknowledge | release => rfl
      simp only [ahead]
      rcases hpool.ahead_lt with hlt | ⟨heq, -, hleft⟩
      · left
        omega
      · right
        exact ⟨by omega, hleft⟩
  | @joined i _ _ htask =>
      left
      have hlength := List.length_erase_of_mem htask
      have hpos := List.length_pos_of_mem htask
      simp only [ahead]
      omega

/-- Where the stream has only finitely many messages, no schedule goes on forever. -/
theorem terminates (hbounded : source.Bounded) : c.Terminates processor source := by
  obtain ⟨bound, hbound⟩ := hbounded
  rintro ⟨states, -, hsteps⟩
  let rank (d : Crew τ ω) : Nat × Nat := (d.ahead bound, d.pool.left processor)
  have hlex : WellFounded (Prod.Lex (· < ·) (· < ·) : Nat × Nat → Nat × Nat → Prop) :=
    WellFounded.prod_lex Nat.lt_wfRel.wf Nat.lt_wfRel.wf
  obtain ⟨_, ⟨k, rfl⟩, hmin⟩ :=
    hlex.has_min (Set.range fun k => rank (states k)) ⟨_, 0, rfl⟩
  refine hmin _ ⟨k + 1, rfl⟩ ?_
  obtain ⟨label, hstep⟩ := hsteps k
  rcases (moves_of_step hstep).ahead_lt hbound with hlt | ⟨heq, hlt⟩
  · exact .left _ _ hlt
  · simp only [rank, heq]
    exact .right _ hlt

/-- Workers that share an arbitrary stream, however their calls and acknowledgments turn out and in
whatever order they take their turns. The items are taken in the order of the stream, none is left
out, and each is taken by one worker. What a worker does is a sequence of rounds, each with one call
and one acknowledgment of the message taken, and it ends if and only if itself has met with a failed
stream, a crash or the end of the stream. When the pool has returned, all workers have ended, so the
stream has ended or as many of them have failed; when all have ended, nothing but the pool's return
is left. Before that something can happen unless the stream stays silent, and if the stream has only
finitely many messages, the pool does return or come to wait for a silent stream. -/
theorem serves_source (hrun : (start workers world).run processor source labels = some c) :
    c.taken.map some = (List.range c.asked).map source.item? ∧
      c.pool.workers.length = workers ∧ c.pool.Follows c.history ∧
      (∀ {i : Nat} {w : Worker τ}, c.pool.workers[i]? = some w →
        (w.isOver = true ↔ ∃ act, (i, act) ∈ c.history ∧ act.isLast = true)) ∧
      (c.hasReturned = true → c.pool.isDone = true) ∧
      (c.pool.isDone = true →
        ((∃ i, (i, .took .finished) ∈ c.history) ∨
          (c.history.countP fun entry => entry.2.isFault) = workers) ∧
        ∀ label d, c.step processor source label = some d → ∃ i, label = .join i) ∧
      (c.hasReturned = false → (∃ label, (c.step processor source label).isSome = true) ∨
        source.item? c.asked = none ∧
          ∃ i, c.holder = some i ∧ c.pool.workers[i]? = some .waiting) ∧
      (source.Bounded → c.Terminates processor source) := by
  have hsound : c.Sound source workers := sound_of_run hrun
  refine ⟨hsound.taken_eq, hsound.length_eq, hsound.follows, ?_, hsound.isDone, ?_, hsound.progress,
    terminates⟩
  · intro i w hw
    rw [(hsound.follows.trail hw).isOver_iff]
    simp only [Pool.mem_actsOf]
  · intro hdone
    exact ⟨hsound.finished_or_faults hdone,
      fun label d hstep => (moves_of_step hstep).join_of_isDone hdone⟩

/-- A stream of two messages, a failure and an end. -/
def shortSource : Source where
  item?
    | 0 => some (.delivery ⟨0, [1]⟩)
    | 1 => some (.delivery ⟨1, [2]⟩)
    | 2 => some (.failure .closed)
    | _ => some .finished
  finished := by
    intro n h
    rcases n with _ | _ | _ | n
    · cases h
    · cases h
    · cases h
    · rfl

/-- Two workers and a stream of two messages, a failure and an end. The call on the first message
crashes and that on the second one fails, as does the acknowledgment after it, and the worker of the
second message meets with the failure. The pool returns without asking for the end. -/
theorem serves_source_two :
    ∃ (source : Source) (c : Crew (Scripted Bool) Nat),
      c.history = [(0, .took (.delivery ⟨0, [1]⟩)), (1, .took (.delivery ⟨1, [2]⟩)),
        (0, .crashed ⟨0, [1]⟩), (1, .returned ⟨1, [2]⟩ (.error (.notFound 0))),
        (1, .acknowledged ⟨1, [2]⟩ (.error .closed)), (1, .took (.failure .closed))] ∧
      c.hasReturned = true ∧ c.pool.isDone = true ∧
      c.taken.map some = (List.range 3).map source.item? := by
  let processor : Processor (Scripted Bool) Nat :=
    .scripted (fun m => ⟨0, true, m.index = 0⟩) .failing
  let labels : List Label := [.lock 0, .take 0, .lock 1, .take 1, .inner (.finish 0),
    .inner (.release 0), .join 0, .inner (.work 1), .inner (.finish 1),
    .inner (.acknowledge 1 (.error .closed)), .inner (.release 1), .lock 1, .take 1, .join 1]
  obtain ⟨c, hrun, hhistory, hasked, hreturned⟩ :
      ∃ c, (start 2 0).run processor shortSource labels = some c ∧
        c.history = [(0, .took (.delivery ⟨0, [1]⟩)), (1, .took (.delivery ⟨1, [2]⟩)),
          (0, .crashed ⟨0, [1]⟩), (1, .returned ⟨1, [2]⟩ (.error (.notFound 0))),
          (1, .acknowledged ⟨1, [2]⟩ (.error .closed)), (1, .took (.failure .closed))] ∧
        c.asked = 3 ∧ c.hasReturned = true :=
    ⟨_, rfl, rfl, rfl, rfl⟩
  obtain ⟨htaken, -, -, -, hdone, -⟩ := serves_source hrun
  exact ⟨shortSource, c, hhistory, hreturned, hdone hreturned, hasked ▸ htaken⟩

end Crew

end JobLog.Broker
