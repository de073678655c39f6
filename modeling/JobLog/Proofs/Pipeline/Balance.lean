import JobLog.Proofs.Pipeline.Account
import JobLog.Proofs.Pipeline.Fidelity

/-!
# Rows, announcements and counts stay in step

One processor is called with one message body after another. At any moment, also inside a call, jobs
may get logs and each kind of call to the systems may be told to fail. Between two calls the rows,
the announcements, the lookups and the metrics agree whatever happened before: `Desk.accounts`.

Inside a call they do not agree, but the difference is known. What a phase has done and not yet
counted is its `Lag`; an account with such a lag is `Balanced`, and every step keeps it so.
-/

namespace JobLog

open Json (Bytes)

/-! ## What rows and announcements share -/

/-- Whether a message body is a part. -/
def Part.parses (body : Bytes) : Bool :=
  (Part.parse body).isOk

/-- The number, the content and the end mark of a part. -/
def Part.shown (part : Part) : Int64 × String × Bool :=
  (part.number, part.content, part.isFinal)

/-- The number, the content and the end mark of an entry. -/
def Entry.shown (entry : Entry) : Int64 × String × Bool :=
  (entry.number, entry.content, entry.isFinal)

/-- An announcement shows a part on the channel of its job, and its data decode to the part. -/
structure Announcement.Shows (a : Announcement) (part : Part) : Prop where
  channel : a.channel = "job-" ++ toString part.job.toInt
  event : a.event = "job:log"
  data : Decodes a.data (.object
    [("id", .integer part.job.toInt), ("number", .integer part.number.toInt),
      ("_log", .text part.content), ("final", .flag part.isFinal)])

theorem Task.announcement_shows (part : Part) : (Task.announcement part).Shows part where
  channel := rfl
  event := rfl
  data := part.decodes_data

theorem Part.nul_not_mem_of_parse {body : Bytes} {part : Part} (h : Part.parse body = .ok part) :
    '\x00' ∉ part.content.toList := by
  obtain ⟨raw, -, rfl⟩ := Json.map_eq_ok h
  show '\x00' ∉ (sanitize raw.content).toList
  rw [sanitize, String.toList_ofList, List.mem_filter]
  rintro ⟨-, hkept⟩
  exact absurd rfl (of_decide_eq_true hkept)

/-! ## Calls and switches -/

/-- A processor with its systems in memory. `handled` are the bodies that it was called with, in
order, and `task` is the call under way. -/
structure Desk where
  worker : Nat
  world : World Memory
  task : Option Task
  handled : List Bytes

namespace Desk

/-- A processor that was never called, with empty systems. -/
def new (worker : Nat) : Desk :=
  ⟨worker, .fresh .empty, none, []⟩

/-- What can happen to a processor and its systems. -/
inductive Action where
  /-- A job gets a log, in place of the one that it had. -/
  | register (job log : Int64)
  | failLookups (reason : String)
  | failInserts (reason : String)
  | failAnnouncements (reason : String)
  | wait (nanos : Nat) (wall : Moment)
  /-- The processor is called with a message body. -/
  | call (body : Bytes)
  /-- The call under way makes one step. -/
  | step (latency : Latency)

/-- The systems are changed from outside. -/
def change (d : Desk) (f : Memory → Memory) : Desk :=
  { d with world := { d.world with systems := f d.world.systems } }

/-- The task that goes on after a step, if there is one. -/
def ongoing (t : Task) : Option Task :=
  match t.phase.result? with
  | none => some t
  | some _ => none

/-- What an action does, if it is possible. Calls are made one after another. -/
def act (d : Desk) : Action → Option Desk
  | .register job log => some (d.change fun m => { m with store := m.store.register job log })
  | .failLookups reason => some (d.change fun m => { m with store := m.store.failLookups reason })
  | .failInserts reason => some (d.change fun m => { m with store := m.store.failInserts reason })
  | .failAnnouncements reason =>
    some (d.change fun m => { m with board := m.board.failWith reason })
  | .wait nanos wall =>
    some { d with world := { d.world with clock := d.world.clock + nanos, wall } }
  | .call body =>
    match d.task with
    | some _ => none
    | none =>
      some { d with
        task := some (.start d.worker d.world.clock body), handled := d.handled ++ [body] }
  | .step latency =>
    match d.task with
    | none => none
    | some t =>
      let moved := t.step (Memory.systems latency) d.world
      some { d with world := moved.2, task := ongoing moved.1 }

/-- What actions do one after another. -/
def run (d : Desk) (actions : List Action) : Option Desk :=
  actions.foldlM act d

theorem run_cons (d : Desk) (action : Action) (actions : List Action) :
    d.run (action :: actions) = (d.act action).bind fun e => e.run actions :=
  List.foldlM_cons

end Desk

/-! ## What is not counted yet -/

/-- What a call has done and not yet counted, and what it has still to do for certain. -/
structure Lag where
  /-- The lookup that will be made. -/
  lookups : Nat
  /-- The row that is not announced yet. -/
  unshown : List (Int64 × String × Bool)
  /-- An announcement whose call is not counted as processed. -/
  successes : Nat
  /-- A failed announcement whose call is not counted as failed. -/
  publishFailures : Nat
  /-- The call, unless it is counted as processed. -/
  calls : Nat

/-- Everything is counted. -/
def Lag.none : Lag := ⟨0, [], 0, 0, 0⟩

namespace Task.Phase

/-- What is not counted yet at a phase. -/
def lag : Phase → Lag
  | .received body => ⟨(Part.parses body).toNat, [], 0, 0, 1⟩
  | .resolving _ => ⟨1, [], 0, 0, 1⟩
  | .storing .. => ⟨0, [], 0, 0, 1⟩
  | .announcing part .. => ⟨0, [part.shown], 0, 0, 1⟩
  | .ending _ (.ok _) => ⟨0, [], 1, 0, 1⟩
  | .ending _ (.error (.publish _)) => ⟨0, [], 0, 1, 1⟩
  | .ending _ (.error _) => ⟨0, [], 0, 0, 1⟩
  | .finished _ => .none

/-- A part that may still be stored has no NUL characters. -/
def Clean : Phase → Prop
  | .resolving part | .storing part _ => '\x00' ∉ part.content.toList
  | _ => True

end Task.Phase

/-- An account agrees with itself and with the bodies that were handled, up to a lag. -/
structure Balanced (handled : List Bytes) (a : Account) (lag : Lag) : Prop where
  stored : a.rows.length = a.published + lag.unshown.length
  announced : a.announced.length + a.publishFailures = a.published
  processed : a.announced.length + a.processingFailures = a.processed + lag.successes
  publishFailures : a.publishFailures ≤ a.processingFailures + lag.publishFailures
  lookups : a.lookups + lag.lookups = handled.countP Part.parses
  calls : a.processed + lag.calls = handled.length
  clean : ∀ row ∈ a.rows, '\x00' ∉ row.2.2.1.toList
  shown : ∃ parts : List Part, List.Forall₂ Announcement.Shows a.announced parts ∧
    (parts.map Part.shown ++ lag.unshown).Sublist (a.rows.map Prod.snd)

namespace Balanced

variable {handled : List Bytes} {a : Account} {l s p c : Nat}
  {unshown : List (Int64 × String × Bool)}

/-- Nothing has happened. -/
theorem zero : Balanced [] 0 .none where
  stored := rfl
  announced := rfl
  processed := rfl
  publishFailures := Nat.le_refl 0
  lookups := rfl
  calls := rfl
  clean _ h := absurd h List.not_mem_nil
  shown := ⟨[], .nil, .slnil⟩

/-- The processor is called. -/
theorem call (h : Balanced handled a .none) (body : Bytes) :
    Balanced (handled ++ [body]) a (Task.Phase.received body).lag :=
  { h with
    lookups := by
      show a.lookups + (Part.parses body).toNat = (handled ++ [body]).countP Part.parses
      rw [List.countP_append, ← h.lookups, List.countP_singleton]
      cases Part.parses body <;> rfl
    calls := by
      rw [List.length_append, ← h.calls]
      rfl }

/-- A lookup is made. -/
theorem lookup (h : Balanced handled a ⟨l + 1, unshown, s, p, c⟩) :
    Balanced handled (a + { (0 : Account) with lookups := 1 }) ⟨l, unshown, s, p, c⟩ := by
  simp only [Account.add_def, Account.zero_def, List.append_nil, Nat.add_zero]
  exact { h with lookups := (Nat.add_right_comm ..).trans h.lookups }

/-- A part is stored. -/
theorem store {row : Int64 × Int64 × String × Bool} (h : Balanced handled a ⟨l, [], s, p, c⟩)
    (hclean : '\x00' ∉ row.2.2.1.toList) :
    Balanced handled (a + { (0 : Account) with rows := [row] }) ⟨l, [row.2], s, p, c⟩ := by
  simp only [Account.add_def, Account.zero_def, List.append_nil, Nat.add_zero]
  refine { h with stored := ?_, clean := ?_, shown := ?_ }
  · rw [List.length_append, h.stored]
    rfl
  · intro other hother
    rcases List.mem_append.1 hother with hold | hnew
    · exact h.clean other hold
    · rw [List.mem_singleton.1 hnew]
      exact hclean
  -- The new row waits for its announcement behind those that were announced.
  · obtain ⟨parts, hparts, hshown⟩ := h.shown
    refine ⟨parts, hparts, ?_⟩
    rw [List.append_nil] at hshown
    rw [List.map_append]
    exact hshown.append (List.Sublist.refl _)

/-- The part that was stored last is announced. -/
theorem announce {part : Part} (h : Balanced handled a ⟨l, [part.shown], s, p, c⟩) :
    Balanced handled
      (a + { (0 : Account) with announced := [Task.announcement part], published := 1 })
      ⟨l, [], s + 1, p, c⟩ := by
  simp only [Account.add_def, Account.zero_def, List.append_nil, Nat.add_zero]
  refine { h with stored := h.stored, announced := ?_, processed := ?_, shown := ?_ }
  · have hannounced := h.announced
    simp only [List.length_append, List.length_singleton]
    omega
  · have hprocessed := h.processed
    simp only [List.length_append, List.length_singleton] at hprocessed ⊢
    omega
  · obtain ⟨parts, hparts, hshown⟩ := h.shown
    refine ⟨parts ++ [part], ?_, ?_⟩
    · exact List.rel_append hparts (.cons (Task.announcement_shows part) .nil)
    · rw [List.map_append, List.append_nil]
      exact hshown

/-- The part that was stored last is not announced. -/
theorem refuse {shown : Int64 × String × Bool} (h : Balanced handled a ⟨l, [shown], s, p, c⟩) :
    Balanced handled (a + { (0 : Account) with published := 1, publishFailures := 1 })
      ⟨l, [], s, p + 1, c⟩ := by
  simp only [Account.add_def, Account.zero_def, List.append_nil, Nat.add_zero]
  refine { h with
    stored := h.stored
    announced := congrArg (· + 1) h.announced
    publishFailures := Nat.succ_le_succ h.publishFailures
    shown := ?_ }
  -- The row stays without an announcement, so later ones show a part of the rows only.
  obtain ⟨parts, hparts, hshown⟩ := h.shown
  refine ⟨parts, hparts, ?_⟩
  rw [List.append_nil]
  exact (List.sublist_append_left ..).trans hshown

/-- A call ends with success. -/
theorem succeed (h : Balanced handled a ⟨l, unshown, s + 1, p, c + 1⟩) :
    Balanced handled (a + .ofEnd false) ⟨l, unshown, s, p, c⟩ := by
  simp only [Account.ofEnd, Account.add_def, Account.zero_def, List.append_nil, Nat.add_zero]
  exact { h with
    processed := by
      have hprocessed := h.processed
      show a.announced.length + a.processingFailures = a.processed + 1 + s
      dsimp only at hprocessed
      omega
    calls := (Nat.add_right_comm ..).trans h.calls }

/-- A call fails, after a failed announcement or without one. -/
theorem fail {q : Nat} (h : Balanced handled a ⟨l, unshown, s, q, c + 1⟩) (hle : q ≤ p + 1) :
    Balanced handled (a + .ofEnd true) ⟨l, unshown, s, p, c⟩ := by
  simp only [Account.ofEnd, Account.add_def, Account.zero_def, List.append_nil, Nat.add_zero]
  exact { h with
    processed := (congrArg (· + 1) h.processed).trans (Nat.add_right_comm ..)
    publishFailures := by
      have hfailures := h.publishFailures
      show a.publishFailures ≤ a.processingFailures + 1 + p
      dsimp only at hfailures
      omega
    calls := (Nat.add_right_comm ..).trans h.calls }

end Balanced

namespace Task

variable {handled : List Bytes} {w : World Memory} {phase : Phase} (latency : Latency)
  (worker started : Nat)

/-- What a step adds to the account is the difference of the lags before and after it. -/
theorem next_balanced (h : Balanced handled w.account phase.lag) (hclean : phase.Clean) :
    Balanced handled (next (Memory.systems latency) worker started w phase).2.account
        (next (Memory.systems latency) worker started w phase).1.lag ∧
      (next (Memory.systems latency) worker started w phase).1.Clean := by
  rw [next_account]
  cases phase with
  | received body =>
      cases hparse : Part.parse body with
      | error e =>
          -- No lookup was expected for this body, and none will be made.
          simp only [Phase.lag, Part.parses, hparse] at h
          simp only [next, hparse, Phase.adds, add_zero]
          exact ⟨h, trivial⟩
      | ok part =>
          simp only [Phase.lag, Part.parses, hparse] at h
          simp only [next, hparse, Phase.adds, add_zero]
          exact ⟨h, Part.nul_not_mem_of_parse hparse⟩
  | resolving part =>
      simp only [next, Phase.adds]
      split
      · -- The lookup counts, whether it is answered or not; no kind of failure adds to the lag.
        rename_i e _
        cases e <;> exact ⟨h.lookup, trivial⟩
      · exact ⟨h.lookup, hclean⟩
  | storing part log =>
      cases hinsert : w.systems.store.insertFault with
      | some reason =>
          simp only [next, Memory.systems, Store.insert, hinsert, Phase.adds, add_zero]
          exact ⟨h, trivial⟩
      | none =>
          simp only [next, Memory.systems, Store.insert, hinsert, Phase.adds]
          exact ⟨h.store hclean, trivial⟩
  | announcing part log row =>
      cases hpublish : w.systems.board.fault with
      | some reason =>
          simp only [next, Memory.systems, Board.publish, hpublish, Phase.adds]
          exact ⟨h.refuse, trivial⟩
      | none =>
          simp only [next, Memory.systems, Board.publish, hpublish, Phase.adds]
          exact ⟨h.announce, trivial⟩
  | ending part result =>
      cases result with
      | ok done => exact ⟨h.succeed, trivial⟩
      | error e => cases e <;> exact ⟨h.fail (by decide), trivial⟩
  | finished result =>
      simp only [next, Phase.adds, add_zero]
      exact ⟨h, trivial⟩

end Task

/-! ## Runs -/

namespace Desk

variable {d e : Desk}

/-- What the call under way has not counted yet. -/
def lag : Option Task → Lag
  | none => .none
  | some t => t.phase.lag

/-- What holds at any moment. -/
structure Kept (d : Desk) : Prop where
  numbered : d.world.systems.store.Numbered
  balanced : Balanced d.handled d.world.account (lag d.task)
  clean : ∀ t ∈ d.task, t.phase.Clean

theorem kept_new (worker : Nat) : (new worker).Kept where
  numbered := rfl
  balanced := by
    have hzero : (new worker).world.account = 0 :=
      Account.ext rfl rfl rfl (Metrics.processed_fst _) rfl (Metrics.published_fst _) rfl
    show Balanced [] (new worker).world.account .none
    rw [hzero]
    exact .zero
  clean _ h := nomatch h

/-- A task that has ended has counted everything. -/
theorem lag_ongoing (t : Task) : lag (ongoing t) = t.phase.lag := by
  obtain ⟨worker, started, phase⟩ := t
  cases phase <;> rfl

theorem eq_of_ongoing {t u : Task} (h : ongoing t = some u) : u = t := by
  unfold ongoing at h
  split at h <;> cases h
  rfl

theorem Kept.act {action : Action} (h : d.Kept) (hact : d.act action = some e) : e.Kept := by
  cases action with
  | register | failLookups | failInserts | failAnnouncements | wait =>
      cases hact
      exact ⟨h.numbered, h.balanced, h.clean⟩
  | call body =>
      simp only [Desk.act] at hact
      split at hact
      · cases hact
      · rename_i hquiet
        cases hact
        have hbalanced := h.balanced
        rw [hquiet] at hbalanced
        refine ⟨h.numbered, hbalanced.call body, ?_⟩
        intro t ht
        cases ht
        exact trivial
  | step latency =>
      simp only [Desk.act] at hact
      split at hact
      · cases hact
      · rename_i t htask
        cases hact
        have hbalanced := h.balanced
        rw [htask] at hbalanced
        obtain ⟨hnext, hclean⟩ :=
          Task.next_balanced latency t.worker t.started hbalanced (h.clean t htask)
        have hfits : d.world.Fits d.world.systems := ⟨rfl, rfl, rfl, rfl, h.numbered⟩
        refine ⟨(Task.next_fits latency t.worker t.started hfits).numbered, ?_, ?_⟩
        · show Balanced d.handled _ (lag (ongoing _))
          rw [lag_ongoing]
          exact hnext
        · intro u hu
          rw [eq_of_ongoing hu]
          exact hclean

theorem Kept.run {actions : List Action} (h : d.Kept) (run : d.run actions = some e) : e.Kept := by
  induction actions generalizing d with
  | nil =>
      cases run
      exact h
  | cons action actions ih =>
      rw [run_cons] at run
      obtain ⟨between, hact, hrest⟩ := Option.bind_eq_some_iff.1 run
      exact ih (h.act hact) hrest

/-- A call that is under way is brought to its end by steps, whatever the systems answer. -/
theorem run_finish (latency : Latency) {i worker started : Nat} {w : World Memory}
    {phase : Task.Phase} {handled : List Bytes} (hopen : phase.result? = none) :
    ∃ steps, run ⟨i, w, some ⟨worker, started, phase⟩, handled⟩ steps = some
      ⟨i, (Task.finish (Memory.systems latency) worker started w phase).2, none, handled⟩ := by
  fun_induction Task.finish (Memory.systems latency) worker started w phase with
  | case1 w phase result hresult =>
      rw [hopen] at hresult
      cases hresult
  | case2 w phase _ ih =>
      generalize hnext : Task.next (Memory.systems latency) worker started w phase = moved at ih ⊢
      obtain ⟨after, v⟩ := moved
      have hstep : act ⟨i, w, some ⟨worker, started, phase⟩, handled⟩ (.step latency) =
          some ⟨i, v, ongoing ⟨worker, started, after⟩, handled⟩ := by
        simp only [act, Task.step, hnext]
      -- The step to the end closes the call; after any other step the same task goes on.
      cases after with
      | finished result =>
          refine ⟨[.step latency], ?_⟩
          rw [run_cons, hstep, Task.finish_finished]
          rfl
      | received | resolving | storing | announcing | ending =>
          obtain ⟨steps, hsteps⟩ := ih rfl
          refine ⟨.step latency :: steps, ?_⟩
          rw [run_cons, hstep]
          exact hsteps

/-- A call from its start to its end is a run. -/
theorem run_handle (hquiet : d.task = none) (body : Bytes) (latency : Latency) :
    ∃ steps, d.run (.call body :: steps) = some
      ⟨d.worker, (d.world.handle (Memory.systems latency) d.worker body).2, none,
        d.handled ++ [body]⟩ := by
  obtain ⟨worker, w, task, handled⟩ := d
  obtain rfl : task = none := hquiet
  have hfinish : ∃ steps,
      run ⟨worker, w, some (.start worker w.clock body), handled ++ [body]⟩ steps =
        some ⟨worker, (w.handle (Memory.systems latency) worker body).2, none, handled ++ [body]⟩ :=
    run_finish latency rfl
  obtain ⟨steps, hsteps⟩ := hfinish
  refine ⟨steps, ?_⟩
  rw [run_cons]
  exact hsteps

/-- Rows, announcements, lookups and metrics agree with each other and with the bodies that were
handled. -/
structure Agrees (d : Desk) : Prop where
  stored : d.world.systems.store.rows.length = d.world.metrics.published.1
  announced : d.world.systems.board.announced.length + d.world.metrics.publishFailures =
    d.world.metrics.published.1
  processed : d.world.systems.board.announced.length + d.world.metrics.processingFailures =
    d.world.metrics.processed.1
  publishFailures_le : d.world.metrics.publishFailures ≤ d.world.metrics.processingFailures
  processingFailures_le : d.world.metrics.processingFailures ≤ d.world.metrics.processed.1
  calls : d.world.metrics.processed.1 = d.handled.length
  lookups : d.world.systems.store.lookups = d.handled.countP Part.parses
  numbered : d.world.systems.store.rows.map Row.id =
    (List.range d.world.systems.store.rows.length).map fun (k : Nat) => (k : Int) + 1
  clean : ∀ row ∈ d.world.systems.store.rows, '\x00' ∉ row.content.toList
  /-- The parts that the announcements show are stored, in the same order. -/
  shown : ∃ parts : List Part,
    List.Forall₂ Announcement.Shows d.world.systems.board.announced parts ∧
      (parts.map Part.shown).Sublist
        (d.world.systems.store.rows.map fun row => row.toEntry.shown)

/-- Everything is counted between two calls. -/
theorem Kept.agrees (h : d.Kept) (hquiet : d.task = none) : d.Agrees := by
  obtain ⟨hnumbered, hbalanced, -⟩ := h
  rw [hquiet] at hbalanced
  obtain ⟨hstored, hannounced, hprocessed, hfailures, hlookups, hcalls, hclean, parts, hparts,
    hshown⟩ := hbalanced
  refine ⟨?_, hannounced, hprocessed, hfailures, ?_, hcalls, hlookups, hnumbered, ?_, parts, hparts,
    ?_⟩
  · exact (List.length_map _).symm.trans hstored
  · exact (Nat.le_add_left ..).trans_eq hprocessed
  · intro row hrow
    exact hclean row.toEntry.untimed (List.mem_map_of_mem hrow)
  · have hrows : d.world.account.rows.map Prod.snd =
        d.world.systems.store.rows.map fun row => row.toEntry.shown := List.map_map
    rw [hrows, show (lag none).unshown = [] from rfl, List.append_nil] at hshown
    exact hshown

/-- Rows, announcements, lookups and metrics agree between two calls, whatever happened before:
jobs got logs, and calls to the systems were told to fail, between the calls or inside them. Every
further call ends between two calls again. -/
theorem accounts {worker : Nat} {actions : List Action} (run : (new worker).run actions = some d)
    (hquiet : d.task = none) :
    d.Agrees ∧ ∀ body latency, ∃ steps, d.run (.call body :: steps) = some
      ⟨d.worker, (d.world.handle (Memory.systems latency) d.worker body).2, none,
        d.handled ++ [body]⟩ := by
  refine ⟨((kept_new worker).run run).agrees hquiet, ?_⟩
  intro body latency
  exact run_handle hquiet body latency

/-- The part `[1,2,"a",true]` is handled twice, and announcements begin to fail inside the second
call. -/
theorem accounts_failing :
    let body : Bytes := [91, 49, 44, 50, 44, 34, 97, 34, 44, 116, 114, 117, 101, 93]
    let actions : List Action :=
      [.register 1 7, .call body] ++ List.replicate 5 (.step ⟨5, 20, 3⟩) ++
        [.call body, .step .zero, .step .zero, .failAnnouncements "full"] ++
        List.replicate 3 (.step .zero)
    ∃ d, (new 0).run actions = some d ∧ d.task = none ∧ d.world.systems.store.rows.length = 2 ∧
      d.world.systems.board.announced.length = 1 ∧ d.Agrees := by
  intro body actions
  have hends : ((new 0).run actions).map (fun d => (d.task.isNone,
      d.world.systems.store.rows.length, d.world.systems.board.announced.length)) =
        some (true, 2, 1) := by
    decide +kernel
  obtain ⟨d, run, hd⟩ := Option.map_eq_some_iff.1 hends
  simp only [Prod.mk.injEq, Option.isNone_iff_eq_none] at hd
  obtain ⟨hquiet, hrows, hannounced⟩ := hd
  exact ⟨d, run, hquiet, hrows, hannounced, (accounts run hquiet).1⟩

end Desk

end JobLog
