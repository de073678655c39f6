import JobLog.Broker.Queue
import JobLog.Proofs.Pool.Steps

/-!
# What a broker in memory can do in one step

`Queue.Moves` lists the steps of a broker with their guards and results, `moves_of_step` says that
there are no others. Steps of workers are steps of the pool together with what they do to the
buffer, the counters and the slots. `Reaches.invariant` turns what every step keeps into what every
run keeps.
-/

namespace JobLog.Broker.Queue

variable {τ ω : Type} {setup : Setup τ ω} {q r s : Queue τ ω}

/-- Whether a step is a call from outside and not one that a task of the broker takes by itself. -/
def Label.isCall : Label → Bool
  | .publish _ | .endStream | .subscribe _ | .close => true
  | _ => false

/-- `Moves setup q label r` says that the step `label` takes the broker `q` to `r`. -/
inductive Moves (setup : Setup τ ω) (q : Queue τ ω) : Label → Queue τ ω → Prop where
  -- Calls from outside.
  | published {body : List UInt8} (haccepting : q.accepting = true) (hpump : q.pump ≠ .finished) :
      Moves setup q (.publish body)
        { q with published := q.published + 1, waiting := q.waiting ++ [⟨q.published, body⟩] }
  | rejected {body : List UInt8} (hclosed : ¬(q.accepting = true ∧ q.pump ≠ .finished)) :
      Moves setup q (.publish body) q
  | streamEnded : Moves setup q .endStream q.endStream
  | subscribed {workers : Nat} (hconnected : q.lifecycle = .connected) :
      Moves setup q (.subscribe workers)
        { q with
          lifecycle := .subscribed
          subscription :=
            if workers = 0 then .leaving (.error .noWorkers) else .building workers 0 }
  | refused {workers : Nat} (hconnected : q.lifecycle ≠ .connected) :
      Moves setup q (.subscribe workers) q
  | closed (hopen : q.lifecycle ≠ .closed) :
      Moves setup q .close
        { q with
          lifecycle := .closed
          closings := q.closings ++ [.ending (q.lifecycle = .subscribed)] }
  | closedAgain (hclosed : q.lifecycle = .closed) :
      Moves setup q .close { q with closings := q.closings ++ [.returned] }
  -- The pump.
  | slotTaken (hpump : q.pump = .seeking) (hfree : 0 < q.free) :
      Moves setup q .takeSlot { q with pump := .holding, free := q.free - 1 }
  | messageTaken {m : Message} {waiting : List Message} (hpump : q.pump = .holding)
      (hwaiting : q.waiting = m :: waiting) :
      Moves setup q .takeMessage { q with pump := .taken m, waiting }
  | messageCounted {m : Message} (hpump : q.pump = .taken m) :
      Moves setup q .countMessage { q with pump := .counted m, stats := q.stats.recordDelivery }
  | messageBuffered {m : Message} (hpump : q.pump = .counted m) (hbuffering : q.buffering = true) :
      Moves setup q .bufferMessage { q with pump := .seeking, buffer := q.buffer ++ [m] }
  | messageLost {m : Message} (hpump : q.pump = .counted m) (hbuffering : q.buffering = false) :
      Moves setup q .bufferMessage q.stopPump
  | pumpEnded (hpump : q.pump = .holding) (hwaiting : q.waiting = [])
      (haccepting : q.accepting = false) : Moves setup q .endPump q.stopPump
  | pumpCancelled (haborted : q.aborted = true) (hpump : q.pump = .seeking ∨ q.pump = .holding) :
      Moves setup q .cancelPump q.stopPump
  -- The workers.
  | delivered {i : Nat} {m : Message} {buffer : List Message} {pool : Pool τ ω}
      (hstopped : q.stopped = false) (hbuffer : q.buffer = m :: buffer)
      (hpool : Pool.Moves setup.processor q.pool (.pull i (.delivery m)) pool) :
      Moves setup q (.pull i) { q with buffer, pool }
  | drained {i : Nat} {pool : Pool τ ω}
      (hend : q.stopped = true ∨ q.buffer = [] ∧ q.pump = .finished)
      (hpool : Pool.Moves setup.processor q.pool (.pull i .finished) pool) :
      Moves setup q (.pull i) { q with pool }
  | worked {i : Nat} {pool : Pool τ ω}
      (hpool : Pool.Moves setup.processor q.pool (.work i) pool) :
      Moves setup q (.work i) { q with pool }
  | finished {i : Nat} {pool : Pool τ ω}
      (hpool : Pool.Moves setup.processor q.pool (.finish i) pool) :
      Moves setup q (.finish i) { q with pool }
  | acknowledged {i : Nat} {pool : Pool τ ω}
      (hpool : Pool.Moves setup.processor q.pool (.acknowledge i (.ok ())) pool) :
      Moves setup q (.acknowledge i) { q with stats := q.stats.recordAck, pool }
  | released {i : Nat} {pool : Pool τ ω}
      (hpool : Pool.Moves setup.processor q.pool (.release i) pool) :
      Moves setup q (.release i) { q with free := q.free + 1, pool }
  -- The call of `subscribe`.
  | built {workers next : Nat} (hbuilding : q.subscription = .building workers next)
      (hnext : next < workers) (hfactory : setup.factory next = .ok ()) :
      Moves setup q .build
        { q with built := q.built + 1, subscription := .building workers (next + 1) }
  | buildFailed {workers next : Nat} {reason : String}
      (hbuilding : q.subscription = .building workers next) (hnext : next < workers)
      (hfactory : setup.factory next = .error reason) :
      Moves setup q .build
        { q with built := q.built + 1, subscription := .leaving (.error (.factory next reason)) }
  | launched {workers next : Nat} (hbuilding : q.subscription = .building workers next)
      (hnext : workers ≤ next) : Moves setup q .launch (q.launch setup workers)
  | joined (hrunning : q.subscription = .running) (hdone : q.pool.isDone = true) :
      Moves setup q .join { q with subscription := .dropping }
  | bufferClosed (hdropping : q.subscription = .dropping) (hbuffering : q.buffering = true) :
      Moves setup q .closeBuffer { q with buffering := false }
  | bufferedLost {m : Message} {buffer : List Message} (hdropping : q.subscription = .dropping)
      (hbuffering : q.buffering = false) (hbuffer : q.buffer = m :: buffer) :
      Moves setup q .dropBuffered { q with buffer, free := q.free + 1 }
  | aborted (hdropping : q.subscription = .dropping) (hbuffering : q.buffering = false)
      (hbuffer : q.buffer = []) :
      Moves setup q .abort { q with aborted := true, subscription := .leaving (.ok ()) }
  | left {result : Except BrokerError Unit} (hleaving : q.subscription = .leaving result) :
      Moves setup q .leave { q with drained := true, subscription := .returned result }
  -- The calls of `close`.
  | acceptingEnded {i : Nat} {waits : Bool} (hclosing : q.closings[i]? = some (.ending waits)) :
      Moves setup q (.proceed i) (q.endStream.setClosing i (.stopping waits))
  | stopped {i : Nat} {waits : Bool} (hclosing : q.closings[i]? = some (.stopping waits)) :
      Moves setup q (.proceed i)
        { q.setClosing i (if waits then .waiting else .returned) with stopped := true }
  | waited {i : Nat} (hclosing : q.closings[i]? = some .waiting) (hdrained : q.drained = true) :
      Moves setup q (.proceed i) (q.setClosing i .returned)

/-- A pool step in a broker is a step of its pool. -/
theorem inPool_eq_some_iff {label : Pool.Label} :
    q.inPool setup label = some r ↔
      ∃ pool, Pool.Moves setup.processor q.pool label pool ∧ { q with pool } = r := by
  simp only [inPool, Option.map_eq_some_iff, Pool.step_eq_some_iff]

theorem canBecome_subscribed_iff {lifecycle : Lifecycle} :
    lifecycle.canBecome .subscribed = true ↔ lifecycle = .connected := by
  cases lifecycle <;> simp [Lifecycle.canBecome]

/-- A call from outside is always possible. -/
theorem moves_of_call {label : Label} (hcall : label.isCall = true)
    (h : q.step setup label = some r) : Moves setup q label r := by
  cases label with
  | publish body =>
      simp only [step, publish, Option.some.injEq] at h
      split at h <;> subst h
      · rename_i hopen
        exact .published hopen.1 hopen.2
      · exact .rejected ‹_›
  | endStream =>
      cases h
      exact .streamEnded
  | subscribe workers =>
      simp only [step, subscribe, Option.some.injEq] at h
      split at h <;> subst h
      · exact .subscribed (canBecome_subscribed_iff.1 ‹_›)
      · exact .refused fun hconnected => ‹¬_› (canBecome_subscribed_iff.2 hconnected)
  | close =>
      simp only [step, close, Option.some.injEq] at h
      split at h <;> subst h
      · exact .closedAgain ‹_›
      · exact .closed ‹_›
  | _ => cases hcall

theorem moves_of_pumpStep {label : Label} (h : q.pumpStep label = some r) :
    Moves setup q label r := by
  unfold pumpStep at h
  split at h
  · split at h <;> cases h
    rename_i hslot
    exact .slotTaken hslot.1 hslot.2
  · split at h <;> cases h
    exact .messageTaken ‹_› ‹_›
  · split at h <;> cases h
    exact .messageCounted ‹_›
  · split at h
    · split at h <;> cases h
      · exact .messageBuffered ‹_› ‹_›
      · exact .messageLost ‹_› (Bool.eq_false_iff.2 ‹_›)
    · cases h
  · split at h <;> cases h
    rename_i hend
    exact .pumpEnded hend.1 hend.2.1 hend.2.2
  · split at h <;> cases h
    rename_i hcancel
    exact .pumpCancelled hcancel.1 hcancel.2
  · cases h

theorem next?_eq_delivery {m : Message} (h : q.next? = some (.delivery m)) :
    q.stopped = false ∧ ∃ buffer, q.buffer = m :: buffer := by
  unfold next? at h
  split at h
  · cases h
  · split at h
    · cases h
      exact ⟨Bool.eq_false_iff.2 ‹_›, _, ‹_›⟩
    · split at h <;> cases h

theorem next?_eq_other {item : Item} (h : q.next? = some item) (hitem : ∀ m, item ≠ .delivery m) :
    item = .finished ∧ (q.stopped = true ∨ q.buffer = [] ∧ q.pump = .finished) := by
  unfold next? at h
  split at h
  · cases h
    exact ⟨rfl, .inl ‹_›⟩
  · split at h
    · cases h
      exact absurd rfl (hitem _)
    · split at h <;> cases h
      exact ⟨rfl, .inr ⟨‹_›, ‹_›⟩⟩

theorem moves_of_workerStep {label : Label} (h : q.workerStep setup label = some r) :
    Moves setup q label r := by
  unfold workerStep at h
  split at h
  · split at h
    · obtain ⟨pool, hpool, rfl⟩ := inPool_eq_some_iff.1 h
      obtain ⟨hstopped, buffer, hbuffer⟩ := next?_eq_delivery ‹_›
      have hdrop : q.buffer.drop 1 = buffer := by rw [hbuffer]; rfl
      exact hdrop ▸ .delivered hstopped hbuffer hpool
    · rename_i hitem hnext
      obtain ⟨rfl, hend⟩ := next?_eq_other hnext fun m hm => hitem m hm
      obtain ⟨pool, hpool, rfl⟩ := inPool_eq_some_iff.1 h
      exact .drained hend hpool
    · cases h
  · obtain ⟨pool, hpool, rfl⟩ := inPool_eq_some_iff.1 h
    exact .worked hpool
  · obtain ⟨pool, hpool, rfl⟩ := inPool_eq_some_iff.1 h
    exact .finished hpool
  · obtain ⟨pool, hpool, rfl⟩ := inPool_eq_some_iff.1 h
    exact .acknowledged hpool
  · obtain ⟨pool, hpool, rfl⟩ := inPool_eq_some_iff.1 h
    exact .released hpool
  · cases h

theorem moves_of_subscriptionStep {label : Label} (h : q.subscriptionStep setup label = some r) :
    Moves setup q label r := by
  unfold subscriptionStep at h
  split at h
  · split at h
    · split at h
      · split at h <;> cases h
        · exact .built ‹_› ‹_› ‹_›
        · exact .buildFailed ‹_› ‹_› ‹_›
      · cases h
    · cases h
  · split at h
    · split at h <;> cases h
      exact .launched ‹_› (Nat.not_lt.1 ‹_›)
    · cases h
  · split at h
    · split at h <;> cases h
      exact .joined ‹_› ‹_›
    · cases h
  · split at h
    · split at h <;> cases h
      exact .bufferClosed ‹_› ‹_›
    · cases h
  · split at h
    · split at h <;> cases h
      exact .bufferedLost ‹_› (Bool.eq_false_iff.2 ‹_›) ‹_›
    · cases h
  · split at h
    · split at h <;> cases h
      rename_i hempty
      exact .aborted ‹_› hempty.1 hempty.2
    · cases h
  · split at h <;> cases h
    exact .left ‹_›
  · cases h

theorem moves_of_closingStep {i : Nat} (h : q.closingStep i = some r) :
    Moves setup q (.proceed i) r := by
  unfold closingStep at h
  split at h
  · cases h
    exact .acceptingEnded ‹_›
  · cases h
    exact .stopped ‹_›
  · split at h <;> cases h
    exact .waited ‹_› ‹_›
  · cases h

/-- Every step of a broker is one that `Moves` lists. -/
theorem moves_of_step {label : Label} (h : q.step setup label = some r) :
    Moves setup q label r := by
  cases label with
  | publish | endStream | subscribe | close => exact moves_of_call rfl h
  | takeSlot | takeMessage | countMessage | bufferMessage | endPump | cancelPump =>
      exact moves_of_pumpStep h
  | pull | work | finish | acknowledge | release => exact moves_of_workerStep h
  | build | launch | join | closeBuffer | dropBuffered | abort | leave =>
      exact moves_of_subscriptionStep h
  | proceed => exact moves_of_closingStep h

/-! ## Runs -/

/-- What holds at the start of a run and is kept by every step holds at its end. -/
theorem Reaches.invariant {labels : List Label} (run : Reaches setup q labels r)
    {P : Queue τ ω → Prop} (hstart : P q)
    (hstep : ∀ label ∈ labels, ∀ a b, Moves setup a label b → P a → P b) : P r := by
  induction run with
  | refl => exact hstart
  | @step b c labels label run move ih =>
      have hbefore : P b := ih fun other hother => hstep other (List.mem_append_left _ hother)
      exact hstep label (by simp) b c (moves_of_step move) hbefore

/-- Runs can be put together. -/
theorem Reaches.trans {labels others : List Label} (run : Reaches setup q labels r)
    (rest : Reaches setup r others s) : Reaches setup q (labels ++ others) s := by
  induction rest with
  | refl => simpa using run
  | step rest move ih =>
      rw [← List.append_assoc]
      exact ih.step move

theorem reaches_nil_iff : Reaches setup q [] r ↔ q = r := by
  refine ⟨fun run => ?_, fun h => h ▸ .refl q⟩
  generalize hall : [] = all at run
  cases run with
  | refl => rfl
  | step run move => simp at hall

/-- A run starts with its first step. -/
theorem reaches_cons_iff {label : Label} {labels : List Label} :
    Reaches setup q (label :: labels) s ↔
      ∃ r, q.step setup label = some r ∧ Reaches setup r labels s := by
  constructor
  · intro run
    generalize hall : label :: labels = all at run
    induction run generalizing labels with
    | refl => cases hall
    | @step b c others last run move ih =>
        cases others with
        | nil =>
            obtain ⟨rfl, rfl⟩ : label = last ∧ labels = [] := by simpa using hall
            obtain rfl := reaches_nil_iff.1 run
            exact ⟨c, move, .refl c⟩
        | cons first others =>
            obtain ⟨rfl, rfl⟩ : label = first ∧ labels = others ++ [last] := by simpa using hall
            obtain ⟨r, hfirst, hrest⟩ := ih rfl
            exact ⟨r, hfirst, hrest.step move⟩
  · rintro ⟨r, hfirst, hrest⟩
    exact ((Reaches.refl q).step hfirst).trans hrest

/-- A run can be computed. -/
theorem reaches_of_foldlM {labels : List Label}
    (h : labels.foldlM (fun a label => a.step setup label) q = some r) :
    Reaches setup q labels r := by
  induction labels generalizing q with
  | nil =>
      cases h
      exact .refl _
  | cons label labels ih =>
      obtain ⟨s, hfirst, hrest⟩ := Option.bind_eq_some_iff.1 h
      exact reaches_cons_iff.2 ⟨s, hfirst, ih hrest⟩

/-- A run computes the state that it leads to. -/
theorem Reaches.foldlM_eq {labels : List Label} (run : Reaches setup q labels r) :
    labels.foldlM (fun a label => a.step setup label) q = some r := by
  induction run with
  | refl => rfl
  | step run move ih =>
      rw [List.foldlM_append, ih]
      simpa using move

/-- A run of several parts passes through a state between them. -/
theorem Reaches.split {labels others : List Label} (run : Reaches setup q (labels ++ others) s) :
    ∃ r, Reaches setup q labels r ∧ Reaches setup r others s := by
  induction labels generalizing q with
  | nil => exact ⟨q, .refl q, run⟩
  | cons label labels ih =>
      obtain ⟨t, hfirst, hrest⟩ := reaches_cons_iff.1 run
      obtain ⟨r, hbefore, hafter⟩ := ih hrest
      exact ⟨r, reaches_cons_iff.2 ⟨t, hfirst, hbefore⟩, hafter⟩

end JobLog.Broker.Queue
