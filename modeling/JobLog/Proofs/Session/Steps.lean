import JobLog.Broker.Session
import JobLog.Proofs.Queue.Steps
import Mathlib.Data.List.Induction

/-!
# What a session can do in one step

`Session.Moves` lists the steps of a session with their guards and results, except for what is
reported, and `moves_of_step` says that there are no others. Steps of workers are steps of the pool
together with what they take from the stream and send to the server; the calls that start a consumer
and those that end a session take the three kinds of steps in `Calls.Moves`.
-/

namespace JobLog.Broker

/-! ## Calls of several methods -/

/-- With this exchange a call is over, given whether its method has been sent. -/
inductive Exchange.Ends : Exchange → Bool → Prop where
  | answer (result : Except SessionError Unit) : Ends (.answer result) true
  | refuse (cause : SessionError) : Ends (.refuse cause) false

namespace Calls

/-- `Moves c e p` says that the exchange `e` takes the calls `c` to what `p` tells. -/
inductive Moves : Calls → Exchange → Progress → Prop where
  | sent {m : Method} {rest : List Method} :
      Moves ⟨m :: rest, false⟩ .send ⟨⟨m :: rest, true⟩, some m, none⟩
  | answered {m : Method} {rest : List Method} {result : Except SessionError Unit} :
      Moves ⟨m :: rest, true⟩ (.answer result) ⟨.of rest, none, some (m, result)⟩
  | refused {m : Method} {rest : List Method} {cause : SessionError} :
      Moves ⟨m :: rest, false⟩ (.refuse cause) ⟨.of rest, none, some (m, .error cause)⟩

theorem moves_of_step {c : Calls} {e : Exchange} {p : Progress} (h : c.step e = some p) :
    Moves c e p := by
  obtain ⟨methods, sent⟩ := c
  unfold step at h
  split at h <;> cases h <;> simp only at *
  · rename_i hmethods hsent
    subst hmethods hsent
    exact .sent
  · rename_i hmethods hsent
    subst hmethods hsent
    exact .answered
  · rename_i hmethods hsent
    subst hmethods hsent
    exact .refused

/-- The methods of some calls that have not been sent. -/
def unsent (c : Calls) : List Method :=
  if c.sent then c.methods.tail else c.methods

@[simp] theorem unsent_of (methods : List Method) : (of methods).unsent = methods :=
  rfl

@[simp] theorem unsent_sent (m : Method) (rest : List Method) :
    (⟨m :: rest, true⟩ : Calls).unsent = rest :=
  rfl

@[simp] theorem unsent_waiting (methods : List Method) :
    (⟨methods, false⟩ : Calls).unsent = methods :=
  rfl

end Calls

namespace Session

variable {τ ω : Type} {setup : Setup τ ω} {s t u : Session τ ω} {labels others : List Label}

/-- `Moves setup s label t` says that the step `label` takes the session `s` to `t`. -/
inductive Moves (setup : Setup τ ω) (s : Session τ ω) : Label → Session τ ω → Prop where
  -- Calls from outside.
  | subscribed {workers : Nat} (hconnected : s.lifecycle = .connected) :
      Moves setup s (.subscribe workers)
        { s with
          lifecycle := .subscribed
          attachment := if workers = 0 then .leaving (.error .noWorkers) else .building workers 0 }
  | refused {workers : Nat} (hother : s.lifecycle ≠ .connected) :
      Moves setup s (.subscribe workers) s
  | closed (hopen : s.lifecycle ≠ .closed) :
      Moves setup s .close
        { s with
          lifecycle := .closed
          farewells := s.farewells ++ [.stopping (s.lifecycle = .subscribed)] }
  | closedAgain (hclosed : s.lifecycle = .closed) :
      Moves setup s .close { s with farewells := s.farewells ++ [.returned] }
  -- The server.
  | messageArrived {body : List UInt8} (hconsuming : s.isConsuming = true)
      (hopen : s.ended = false) :
      Moves setup s (.deliver body)
        { s with
          delivered := s.delivered + 1
          arrived := s.arrived ++ [.delivery ⟨s.delivered, body⟩] }
  | failureArrived {cause : SessionError} (hconsuming : s.isConsuming = true)
      (hopen : s.ended = false) :
      Moves setup s (.fail cause) { s with arrived := s.arrived ++ [.failure (.session cause)] }
  | streamEnded (hconsuming : s.isConsuming = true) :
      Moves setup s .endStream { s with ended := true }
  -- The workers.
  | delivered {i : Nat} {item : Item} {arrived : List Item} {pool : Pool τ ω}
      (hstopped : s.stopped = false) (harrived : s.arrived = item :: arrived)
      (hitem : item ≠ .finished)
      (hpool : Pool.Moves setup.processor s.pool (.pull i item) pool) :
      Moves setup s (.pull i) { s with arrived, pool }
  | drained {i : Nat} {pool : Pool τ ω} (hend : s.next? = some .finished)
      (hpool : Pool.Moves setup.processor s.pool (.pull i .finished) pool) :
      Moves setup s (.pull i) { s with pool }
  | worked {i : Nat} {pool : Pool τ ω}
      (hpool : Pool.Moves setup.processor s.pool (.work i) pool) :
      Moves setup s (.work i) { s with pool }
  | finished {i : Nat} {pool : Pool τ ω}
      (hpool : Pool.Moves setup.processor s.pool (.finish i) pool) :
      Moves setup s (.finish i) { s with pool }
  | acknowledged {i : Nat} {m : Message} {pool : Pool τ ω}
      (hworker : s.pool.workers[i]? = some (.acknowledging m))
      (hpool : Pool.Moves setup.processor s.pool (.acknowledge i (.ok ())) pool) :
      Moves setup s (.acknowledge i (.ok ()))
        { s with sent := s.sent ++ [.acknowledge (m.index + 1) false], pool }
  | unacknowledged {i : Nat} {m : Message} {cause : SessionError} {pool : Pool τ ω}
      (hworker : s.pool.workers[i]? = some (.acknowledging m))
      (hpool : Pool.Moves setup.processor s.pool (.acknowledge i (.error (.session cause))) pool) :
      Moves setup s (.acknowledge i (.error cause)) { s with pool }
  | released {i : Nat} {pool : Pool τ ω}
      (hpool : Pool.Moves setup.processor s.pool (.release i) pool) :
      Moves setup s (.release i) { s with pool }
  -- The call of `subscribe`.
  | built {workers next : Nat} (hbuilding : s.attachment = .building workers next)
      (hnext : next < workers) (hfactory : setup.factory next = .ok ()) :
      Moves setup s .build
        { s with built := s.built + 1, attachment := .building workers (next + 1) }
  | buildFailed {workers next : Nat} {reason : String}
      (hbuilding : s.attachment = .building workers next) (hnext : next < workers)
      (hfactory : setup.factory next = .error reason) :
      Moves setup s .build
        { s with built := s.built + 1, attachment := .leaving (.error (.factory next reason)) }
  | attached {workers next : Nat} (hbuilding : s.attachment = .building workers next)
      (hnext : workers ≤ next) :
      Moves setup s .attach
        { s with
          attachment := .calling workers
            (.of (consumerMethods s.queue (prefetch workers setup.multiplier))) }
  | called {workers : Nat} {m : Method} {rest : List Method}
      (hcalling : s.attachment = .calling workers ⟨m :: rest, false⟩) :
      Moves setup s (.call .send)
        { s with sent := s.sent ++ [m], attachment := .calling workers ⟨m :: rest, true⟩ }
  | agreed {workers : Nat} {m : Method} {rest : List Method}
      (hcalling : s.attachment = .calling workers ⟨m :: rest, true⟩) (hrest : rest ≠ []) :
      Moves setup s (.call (.answer (.ok ())))
        { s with confirmed := s.confirmed ++ [m], attachment := .calling workers (.of rest) }
  | launched {workers : Nat} {m : Method} {events : List Event}
      (hcalling : s.attachment = .calling workers ⟨[m], true⟩) :
      Moves setup s (.call (.answer (.ok ())))
        { s with
          confirmed := s.confirmed ++ [m], pool := .start workers s.pool.world
          attachment := .running, events }
  | callFailed {workers : Nat} {calls : Calls} {exchange : Exchange} {cause : SessionError}
      (hcalling : s.attachment = .calling workers calls)
      (hfailed : exchange = .answer (.error cause) ∨ exchange = .refuse cause) :
      Moves setup s (.call exchange) { s with attachment := .leaving (.error (.session cause)) }
  | joined {events : List Event} (hrunning : s.attachment = .running)
      (hdone : s.pool.isDone = true) :
      Moves setup s .join { s with attachment := .leaving (.ok ()), events }
  | left {result : Except BrokerError Unit} (hleaving : s.attachment = .leaving result) :
      Moves setup s .leave { s with drained := true, attachment := .returned result }
  -- The calls of `close`.
  | stopped {i : Nat} (hfarewell : s.farewells[i]? = some (.stopping true)) :
      Moves setup s (.proceed i) { s.setFarewell i .waiting with stopped := true }
  | stoppedAlone {i : Nat} (hfarewell : s.farewells[i]? = some (.stopping false)) :
      Moves setup s (.proceed i) { s.beginClosing i with stopped := true }
  | waited {i : Nat} (hfarewell : s.farewells[i]? = some .waiting) (hdrained : s.drained = true) :
      Moves setup s (.proceed i) (s.beginClosing i)
  | parting {i : Nat} {m : Method} {rest : List Method}
      (hfarewell : s.farewells[i]? = some (.calling ⟨m :: rest, false⟩)) :
      Moves setup s (.part i .send)
        { s.setFarewell i (.calling ⟨m :: rest, true⟩) with sent := s.sent ++ [m] }
  | parted {i : Nat} {m : Method} {rest : List Method} {sent : Bool} {exchange : Exchange}
      {next : Farewell} {confirmed : List Method} {events : List Event}
      (hfarewell : s.farewells[i]? = some (.calling ⟨m :: rest, sent⟩))
      (hexchange : exchange.Ends sent)
      (hnext : rest = [] ∧ next = .returned ∨ rest ≠ [] ∧ next = .calling (.of rest))
      (hconfirmed : confirmed = s.confirmed ∨ confirmed = s.confirmed ++ [m]) :
      Moves setup s (.part i exchange) { s.setFarewell i next with confirmed, events }

/-- A pool step in a session is a step of its pool. -/
theorem inPool_eq_some_iff {label : Pool.Label} :
    s.inPool setup label = some t ↔
      ∃ pool, Pool.Moves setup.processor s.pool label pool ∧ { s with pool } = t := by
  simp only [inPool, Option.map_eq_some_iff, Pool.step_eq_some_iff]

/-- A call from outside is always possible. -/
theorem moves_of_call {label : Label} (hcall : label = .close ∨ ∃ workers, label = .subscribe workers)
    (h : s.step setup label = some t) : Moves setup s label t := by
  rcases hcall with rfl | ⟨workers, rfl⟩
  · simp only [step, close, Option.some.injEq] at h
    split at h <;> subst h
    · exact .closedAgain ‹_›
    · exact .closed ‹_›
  · simp only [step, subscribe, Option.some.injEq] at h
    split at h <;> subst h
    · exact .subscribed (Queue.canBecome_subscribed_iff.1 ‹_›)
    · exact .refused fun hconnected => ‹¬_› (Queue.canBecome_subscribed_iff.2 hconnected)

theorem moves_of_serverStep {label : Label} (h : s.serverStep label = some t) :
    Moves setup s label t := by
  unfold serverStep at h
  split at h
  · split at h <;> cases h
    rename_i hopen
    exact .messageArrived hopen.1 hopen.2
  · split at h <;> cases h
    rename_i hopen
    exact .failureArrived hopen.1 hopen.2
  · split at h <;> cases h
    exact .streamEnded ‹_›
  · cases h

theorem next?_eq_item {item : Item} (h : s.next? = some item) (hitem : item ≠ .finished) :
    s.stopped = false ∧ ∃ arrived, s.arrived = item :: arrived := by
  unfold next? at h
  split at h
  · cases h
    exact absurd rfl hitem
  · split at h
    · cases h
      exact ⟨Bool.eq_false_iff.2 ‹_›, _, ‹_›⟩
    · split at h <;> cases h
      exact absurd rfl hitem

theorem moves_of_workerStep {label : Label} (h : s.workerStep setup label = some t) :
    Moves setup s label t := by
  unfold workerStep at h
  split at h
  · split at h
    · obtain ⟨pool, hpool, rfl⟩ := inPool_eq_some_iff.1 h
      exact .drained ‹_› hpool
    · rename_i item hitem hnext
      obtain ⟨pool, hpool, rfl⟩ := inPool_eq_some_iff.1 h
      obtain ⟨hstopped, arrived, harrived⟩ := next?_eq_item hnext hitem
      have hdrop : s.arrived.drop 1 = arrived := by rw [harrived]; rfl
      exact hdrop ▸ .delivered hstopped harrived hitem hpool
    · cases h
  · obtain ⟨pool, hpool, rfl⟩ := inPool_eq_some_iff.1 h
    exact .worked hpool
  · obtain ⟨pool, hpool, rfl⟩ := inPool_eq_some_iff.1 h
    exact .finished hpool
  · split at h
    · rename_i result _ m hworker
      obtain ⟨pool, hpool, rfl⟩ := inPool_eq_some_iff.1 h
      cases result with
      | ok => exact .acknowledged hworker hpool
      | error cause => exact .unacknowledged hworker hpool
    · cases h
  · obtain ⟨pool, hpool, rfl⟩ := inPool_eq_some_iff.1 h
    exact .released hpool
  · cases h

theorem moves_of_attachmentStep {label : Label} (h : s.attachmentStep setup label = some t) :
    Moves setup s label t := by
  unfold attachmentStep at h
  split at h
  · split at h
    · split at h <;> cases h
      rename_i next _ hnext
      cases hfactory : setup.factory next with
      | ok => exact .built ‹_› hnext hfactory
      | error reason => exact .buildFailed ‹_› hnext hfactory
    · cases h
  · split at h
    · split at h <;> cases h
      exact .attached ‹_› (Nat.not_lt.1 ‹_›)
    · cases h
  · split at h
    · rename_i workers calls hcalling
      obtain ⟨p, hstep, rfl⟩ := Option.map_eq_some_iff.1 h
      cases Calls.moves_of_step hstep with
      | sent =>
          simp only [note, Option.toList_some, reduceCtorEq, if_false]
          exact .called hcalling
      | @answered m rest result =>
          simp only [note, Option.toList_none, List.append_nil, Calls.of]
          cases result with
          | error cause => exact .callFailed hcalling (.inl rfl)
          | ok =>
              by_cases hrest : rest = []
              · subst hrest
                exact .launched hcalling
              · simp only [if_neg hrest]
                exact .agreed hcalling hrest
      | refused =>
          simp only [note, Option.toList_none, List.append_nil]
          exact .callFailed hcalling (.inr rfl)
    · cases h
  · split at h
    · split at h <;> cases h
      exact .joined ‹_› ‹_›
    · cases h
  · split at h <;> cases h
    exact .left ‹_›
  · cases h

theorem moves_of_farewellStep {label : Label} (h : s.farewellStep label = some t) :
    Moves setup s label t := by
  unfold farewellStep at h
  split at h
  · split at h
    · cases h
      exact .stopped ‹_›
    · cases h
      exact .stoppedAlone ‹_›
    · split at h <;> cases h
      exact .waited ‹_› ‹_›
    · cases h
  · split at h
    · rename_i i exchange calls hfarewell
      obtain ⟨p, hstep, rfl⟩ := Option.map_eq_some_iff.1 h
      cases Calls.moves_of_step hstep with
      | sent =>
          simp only [note, Option.toList_some, reduceCtorEq, if_false]
          exact .parting hfarewell
      | @answered m rest result =>
          simp only [note, Option.toList_none, List.append_nil, Calls.of]
          cases result with
          | error cause =>
              split
              · exact .parted hfarewell (.answer _) (.inl ⟨‹_›, rfl⟩) (.inl rfl)
              · exact .parted hfarewell (.answer _) (.inr ⟨‹_›, rfl⟩) (.inl rfl)
          | ok =>
              split
              · exact .parted hfarewell (.answer _) (.inl ⟨‹_›, rfl⟩) (.inr rfl)
              · exact .parted hfarewell (.answer _) (.inr ⟨‹_›, rfl⟩) (.inr rfl)
      | @refused m rest cause =>
          simp only [note, Option.toList_none, List.append_nil, Calls.of]
          split
          · exact .parted hfarewell (.refuse cause) (.inl ⟨‹_›, rfl⟩) (.inl rfl)
          · exact .parted hfarewell (.refuse cause) (.inr ⟨‹_›, rfl⟩) (.inl rfl)
    · cases h
  · cases h

/-- Every step of a session is one that `Moves` lists. -/
theorem moves_of_step {label : Label} (h : s.step setup label = some t) :
    Moves setup s label t := by
  cases label with
  | subscribe workers => exact moves_of_call (.inr ⟨workers, rfl⟩) h
  | close => exact moves_of_call (.inl rfl) h
  | build | attach | call | join | leave => exact moves_of_attachmentStep h
  | deliver | fail | endStream => exact moves_of_serverStep h
  | pull | work | finish | acknowledge | release => exact moves_of_workerStep h
  | proceed | part => exact moves_of_farewellStep h

/-! ## Runs -/

/-- What holds at the start of a run and is kept by every step holds at its end. -/
theorem Reaches.invariant (run : Reaches setup s labels t) {P : Session τ ω → Prop}
    (hstart : P s) (hstep : ∀ label ∈ labels, ∀ a b, Moves setup a label b → P a → P b) : P t := by
  induction run with
  | refl => exact hstart
  | @step b c labels label run move ih =>
      have hbefore : P b := ih fun other hother => hstep other (List.mem_append_left _ hother)
      exact hstep label (by simp) b c (moves_of_step move) hbefore

/-- A run is computed label by label. -/
theorem reaches_iff_foldlM :
    Reaches setup s labels t ↔ labels.foldlM (fun a label => a.step setup label) s = some t := by
  constructor
  · intro run
    induction run with
    | refl => rfl
    | step run move ih =>
        rw [List.foldlM_append, ih]
        simpa using move
  · intro h
    induction labels using List.reverseRecOn generalizing t with
    | nil =>
        cases h
        exact .refl _
    | append_singleton labels label ih =>
        rw [List.foldlM_append] at h
        obtain ⟨u, hinit, hlast⟩ := Option.bind_eq_some_iff.1 h
        exact (ih hinit).step (by simpa using hlast)

/-- A run of two parts passes through a state between them. -/
theorem reaches_append_iff :
    Reaches setup s (labels ++ others) u ↔
      ∃ t, Reaches setup s labels t ∧ Reaches setup t others u := by
  simp only [reaches_iff_foldlM, List.foldlM_append]
  exact Option.bind_eq_some_iff

end Session

end JobLog.Broker
