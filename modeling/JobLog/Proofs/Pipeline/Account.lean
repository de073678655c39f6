import JobLog.Pipeline.Processor
import JobLog.Proofs.Metrics.Counts
import JobLog.Proofs.Pool.Conservation
import JobLog.Proofs.Pool.Ledger

/-!
# What handling a message leaves behind

As long as the answers of the store and the broadcaster do not change, it is decided by its body
what the handling of a message will leave behind: rows, announcements and counts, which an `Account`
collects in their order. What a single step adds is `Phase.adds`, and `next_conserves` says that it
is taken from what the phase has still to do; so calls of different workers add up whatever their
order: `logPartProcessor_conserves`.
-/

namespace JobLog

/-- An entry without its time. -/
def Entry.untimed (entry : Entry) : Int64 × Int64 × String × Bool :=
  (entry.log, entry.number, entry.content, entry.isFinal)

/-- What the handling of messages leaves behind. -/
@[ext]
structure Account where
  rows : List (Int64 × Int64 × String × Bool)
  announced : List Announcement
  lookups : Nat
  processed : Nat
  processingFailures : Nat
  published : Nat
  publishFailures : Nat

namespace Account

instance : Add Account where
  add a b :=
    ⟨a.rows ++ b.rows, a.announced ++ b.announced, a.lookups + b.lookups,
      a.processed + b.processed, a.processingFailures + b.processingFailures,
      a.published + b.published, a.publishFailures + b.publishFailures⟩

instance : Zero Account where
  zero := ⟨[], [], 0, 0, 0, 0, 0⟩

theorem add_def (a b : Account) :
    a + b = ⟨a.rows ++ b.rows, a.announced ++ b.announced, a.lookups + b.lookups,
      a.processed + b.processed, a.processingFailures + b.processingFailures,
      a.published + b.published, a.publishFailures + b.publishFailures⟩ :=
  rfl

theorem zero_def : (0 : Account) = ⟨[], [], 0, 0, 0, 0, 0⟩ :=
  rfl

/-- Accounts are put one after another. -/
instance : AddMonoid Account where
  add_assoc a b c := by simp [add_def, Nat.add_assoc]
  zero_add a := by simp [add_def, zero_def]
  add_zero a := by simp [add_def, zero_def]
  nsmul := nsmulRec

/-- The account of a message whose handling ends. -/
def ofEnd (failed : Bool) : Account :=
  { (0 : Account) with processed := 1, processingFailures := failed.toNat }

/-- The account of a part that is about to be announced. -/
def ofAnnouncing (memory : Memory) (part : Part) : Account :=
  match memory.board.fault with
  | some _ => { (0 : Account) with published := 1, publishFailures := 1 } + ofEnd true
  | none =>
    { (0 : Account) with announced := [Task.announcement part], published := 1 } + ofEnd false

/-- The account of a part that is about to be stored. -/
def ofStoring (memory : Memory) (part : Part) (log : Int64) : Account :=
  match memory.store.insertFault with
  | some _ => ofEnd true
  | none =>
    { (0 : Account) with rows := [(log, part.number, part.content, part.isFinal)] } +
      ofAnnouncing memory part

/-- The account of a part whose log is about to be looked up. -/
def ofResolving (memory : Memory) (part : Part) : Account :=
  { (0 : Account) with lookups := 1 } +
    match memory.store.lookupResult part.job with
    | .error _ => ofEnd true
    | .ok log => ofStoring memory part log

/-- The account of a message with this body. -/
def ofBody (memory : Memory) (body : Json.Bytes) : Account :=
  match Part.parse body with
  | .error _ => ofEnd true
  | .ok part => ofResolving memory part

end Account

/-- What a phase has still to do. -/
def Task.Phase.due (memory : Memory) : Task.Phase → Account
  | .received body => .ofBody memory body
  | .resolving part => .ofResolving memory part
  | .storing part log => .ofStoring memory part log
  | .announcing part _ _ => .ofAnnouncing memory part
  | .ending _ (.ok _) => .ofEnd false
  | .ending _ (.error _) => .ofEnd true
  | .finished _ => 0

/-- Rows are numbered from one in the order of insertion. -/
def Store.Numbered (s : Store) : Prop :=
  s.rows.map Row.id = (List.range s.rows.length).map fun (k : Nat) => (k : Int) + 1

theorem Store.Numbered.insert {s : Store} (h : s.Numbered) (entry : Entry) :
    (s.insert entry).2.Numbered := by
  unfold Store.insert
  split
  · exact h
  · simp only [Numbered, List.map_append, List.length_append, List.length_singleton,
      List.range_succ] at h ⊢
    rw [h]
    rfl

theorem Store.insert_switches (s : Store) (entry : Entry) :
    (s.insert entry).2.logs = s.logs ∧ (s.insert entry).2.lookupFault = s.lookupFault ∧
      (s.insert entry).2.insertFault = s.insertFault := by
  unfold Store.insert
  split <;> exact ⟨rfl, rfl, rfl⟩

theorem Board.publish_fault (b : Board) (announcement : Announcement) :
    (b.publish announcement).2.fault = b.fault := by
  unfold Board.publish
  split <;> rfl

namespace World

/-- What has been left behind in a world. -/
def account (w : World Memory) : Account where
  rows := w.systems.store.rows.map fun row => row.toEntry.untimed
  announced := w.systems.board.announced
  lookups := w.systems.store.lookups
  processed := w.metrics.processed.1
  processingFailures := w.metrics.processingFailures
  published := w.metrics.published.1
  publishFailures := w.metrics.publishFailures

/-- Store and broadcaster of a world answer as those of `memory`, and its rows are numbered. -/
structure Fits (memory : Memory) (w : World Memory) : Prop where
  logs : w.systems.store.logs = memory.store.logs
  lookupFault : w.systems.store.lookupFault = memory.store.lookupFault
  insertFault : w.systems.store.insertFault = memory.store.insertFault
  fault : w.systems.board.fault = memory.board.fault
  numbered : w.systems.store.Numbered

theorem Fits.lookupResult_eq {memory : Memory} {w : World Memory} (h : w.Fits memory)
    (job : Int64) : w.systems.store.lookupResult job = memory.store.lookupResult job := by
  simp only [Store.lookupResult, Store.logOf?, h.logs, h.lookupFault]

end World

namespace Task

/-- What one step of a phase adds to the account of its world. -/
def Phase.adds (memory : Memory) : Phase → Account
  | .received _ => 0
  | .resolving _ => { (0 : Account) with lookups := 1 }
  | .storing part log =>
    match memory.store.insertFault with
    | some _ => 0
    | none => { (0 : Account) with rows := [(log, part.number, part.content, part.isFinal)] }
  | .announcing part _ _ =>
    match memory.board.fault with
    | some _ => { (0 : Account) with published := 1, publishFailures := 1 }
    | none => { (0 : Account) with announced := [announcement part], published := 1 }
  | .ending _ (.ok _) => .ofEnd false
  | .ending _ (.error _) => .ofEnd true
  | .finished _ => 0

variable {memory : Memory} {w : World Memory} {phase : Phase} (latency : Latency)
  (worker started : Nat)

theorem next_account : (next (Memory.systems latency) worker started w phase).2.account =
    w.account + phase.adds w.systems := by
  cases phase with
  | received body =>
      simp only [next]
      split <;> exact (add_zero _).symm
  | resolving part =>
      simp only [next, Memory.systems, Store.find, Phase.adds]
      split <;> simp [World.account, World.after, Account.add_def, Account.zero_def]
  | storing part log =>
      cases hinsert : w.systems.store.insertFault with
      | some reason | none =>
          simp only [next, Memory.systems, Store.insert, hinsert, Phase.adds]
          simp [World.account, World.after, Account.add_def, Account.zero_def, Entry.untimed, entry]
  | announcing part log row =>
      cases hpublish : w.systems.board.fault with
      | some reason | none =>
          simp only [next, Memory.systems, Board.publish, hpublish, Phase.adds, countPublish]
          simp [World.account, World.after, Account.add_def, Account.zero_def,
            Metrics.processed_fst, Metrics.published_fst, Metrics.recordPublish,
            Metrics.markPublishFailed, Metrics.Histogram.recorded_record]
  | ending part result =>
      cases result with
      | ok done | error e =>
          simp only [next, Phase.adds, countProcessing]
          simp [World.account, Account.ofEnd, Account.add_def, Account.zero_def,
            Metrics.processed_fst, Metrics.published_fst, Metrics.recordProcessing,
            Metrics.markProcessingFailed, Metrics.Histogram.recorded_record]
  | finished result => exact (add_zero _).symm

/-- No step changes what the systems answer. -/
theorem next_fits (h : w.Fits memory) :
    (next (Memory.systems latency) worker started w phase).2.Fits memory := by
  cases phase with
  | received | resolving =>
      simp only [next]
      split <;> exact ⟨h.logs, h.lookupFault, h.insertFault, h.fault, h.numbered⟩
  | storing part log =>
      obtain ⟨hlogs, hlookupFault, hinsertFault⟩ :=
        w.systems.store.insert_switches (entry part log w.wall)
      simp only [next]
      split <;>
        exact ⟨hlogs.trans h.logs, hlookupFault.trans h.lookupFault,
          hinsertFault.trans h.insertFault, h.fault, h.numbered.insert _⟩
  | announcing part log row =>
      have hfault := w.systems.board.publish_fault (announcement part)
      simp only [next]
      split <;>
        exact ⟨h.logs, h.lookupFault, h.insertFault, hfault.trans h.fault, h.numbered⟩
  | ending | finished => exact ⟨h.logs, h.lookupFault, h.insertFault, h.fault, h.numbered⟩

/-- A step takes from what the phase has still to do what it adds to the world. -/
theorem adds_add_due (hfits : w.Fits memory) (hopen : phase.result? = none) :
    phase.adds w.systems + (next (Memory.systems latency) worker started w phase).1.due memory =
      phase.due memory := by
  cases phase with
  | received body =>
      cases hparse : Part.parse body with
      | error e | ok part =>
          simp only [next, hparse, Phase.adds, Phase.due, Account.ofBody]
          exact zero_add _
  | resolving part =>
      cases hlookup : memory.store.lookupResult part.job with
      | error e | ok log =>
          simp only [next, Memory.systems, Store.find, hfits.lookupResult_eq, hlookup, Phase.adds,
            Phase.due, Account.ofResolving]
  | storing part log =>
      cases hinsert : memory.store.insertFault with
      | some reason =>
          simp only [next, Memory.systems, Store.insert, hfits.insertFault, hinsert, Phase.adds,
            Phase.due, Account.ofStoring]
          exact zero_add _
      | none =>
          simp only [next, Memory.systems, Store.insert, hfits.insertFault, hinsert, Phase.adds,
            Phase.due, Account.ofStoring]
  | announcing part log row =>
      cases hpublish : memory.board.fault with
      | some reason | none =>
          simp only [next, Memory.systems, Board.publish, hfits.fault, hpublish, Phase.adds,
            Phase.due, Account.ofAnnouncing]
  | ending part result => cases result <;> exact add_zero _
  | finished result => cases hopen

/-- A step moves something from what the phase has still to do into the world. -/
theorem next_conserves (hfits : w.Fits memory) (hopen : phase.result? = none) :
    (next (Memory.systems latency) worker started w phase).2.Fits memory ∧
      (next (Memory.systems latency) worker started w phase).2.account +
          (next (Memory.systems latency) worker started w phase).1.due memory =
        w.account + phase.due memory := by
  refine ⟨next_fits latency worker started hfits, ?_⟩
  rw [next_account, add_assoc, adds_add_due latency worker started hfits hopen]

/-- A phase that has a result has nothing more to do. -/
theorem Phase.due_of_result {phase : Phase} {result : Except ProcessError Processed}
    (h : phase.result? = some result) : phase.due memory = 0 := by
  cases phase with
  | finished => rfl
  | received | resolving | storing | announcing | ending => cases h

/-- A run to the end does all that a phase has to do. -/
theorem finish_conserves (worker started : Nat) (phase : Phase) (hfits : w.Fits memory) :
    (finish (Memory.systems latency) worker started w phase).2.Fits memory ∧
      (finish (Memory.systems latency) worker started w phase).2.account =
        w.account + phase.due memory := by
  fun_induction finish (Memory.systems latency) worker started w phase with
  | case1 w phase result hresult => exact ⟨hfits, by rw [Phase.due_of_result hresult, add_zero]⟩
  | case2 w phase hopen ih =>
      obtain ⟨hkept, hsum⟩ := next_conserves latency worker started hfits hopen
      obtain ⟨hend, htotal⟩ := ih hkept
      exact ⟨hend, htotal.trans hsum⟩

end Task

/-- Workers that handle log parts conserve the account of the messages. -/
theorem logPartProcessor_conserves (memory : Memory) (latency : Latency) :
    (logPartProcessor (Memory.systems latency)).Conserves (World.Fits memory) World.account
      (fun t => t.phase.due memory) (fun m => .ofBody memory m.body) where
  start _ _ _ := rfl
  step := by
    intro i t w hfits hopen
    -- What a step reports is in no account.
    have hquiet : World.Fits memory { w with events := [] } :=
      ⟨hfits.logs, hfits.lookupFault, hfits.insertFault, hfits.fault, hfits.numbered⟩
    obtain ⟨hkept, hsum⟩ := Task.next_conserves latency t.worker t.started hquiet
      (Option.map_eq_none_iff.1 hopen)
    exact ⟨⟨hkept.logs, hkept.lookupFault, hkept.insertFault, hkept.fault, hkept.numbered⟩, hsum⟩
  ended hended := by
    obtain ⟨result, hresult, -⟩ := Option.map_eq_some_iff.1 hended
    exact Task.Phase.due_of_result hresult

theorem logPartProcessor_steady {σ : Type} (systems : Collaborators σ) :
    (logPartProcessor systems).Steady := by
  intro t h
  obtain ⟨result, -, hcrash⟩ := Option.map_eq_some_iff.1 h
  cases hcrash

/-- Handle messages one after another as one worker. -/
def World.handleAll {σ : Type} (systems : Collaborators σ) (worker : Nat)
    (bodies : List Json.Bytes) (w : World σ) : World σ :=
  bodies.foldl (fun w body => (w.handle systems worker body).2) w

/-- Handling messages one after another puts their accounts one after another. -/
theorem World.handleAll_conserves {memory : Memory} {w : World Memory} (latency : Latency)
    (worker : Nat) (bodies : List Json.Bytes) (hfits : w.Fits memory) :
    (w.handleAll (Memory.systems latency) worker bodies).Fits memory ∧
      (w.handleAll (Memory.systems latency) worker bodies).account =
        w.account + (bodies.map (Account.ofBody memory)).sum := by
  unfold handleAll
  induction bodies generalizing w with
  | nil => exact ⟨hfits, (add_zero _).symm⟩
  | cons body bodies ih =>
      obtain ⟨hkept, hsum⟩ :=
        Task.finish_conserves latency worker w.clock (.received body) hfits
      obtain ⟨hend, htotal⟩ := ih (w := (w.handle (Memory.systems latency) worker body).2) hkept
      refine ⟨hend, htotal.trans ?_⟩
      rw [List.map_cons, List.sum_cons, ← add_assoc]
      exact congrArg (· + _) hsum

end JobLog
