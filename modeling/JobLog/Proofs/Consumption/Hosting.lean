import JobLog.Broker.Consumption
import JobLog.Proofs.Queue.Lifetime
import JobLog.Proofs.Session.Phases

/-!
# What a consumption relies on in a broker

A consumption sees a broker through its interface: it makes the only call of `subscribe`, and calls
`close`. `Interface.Sound` collects what can be relied on then. Once the broker is closed it stays
closed; workers are started once, by the subscription; they have ended when it has returned, and
what it has returned is explained by the factory and the server. Brokers in memory and sessions are
both sound: `Queue.sound`, `Session.sound`.
-/

namespace JobLog.Broker

variable {τ ω β ι : Type}

namespace Pool

variable {processor : Processor τ ω} {p r : Pool τ ω}

/-- A pool goes on by a step of a worker, or by workers that start where there were none. -/
inductive Advances (processor : Processor τ ω) (p : Pool τ ω) : Pool τ ω → Prop where
  | still : Advances processor p p
  | started {workers : Nat} (hworkers : p.workers = []) (hpulled : p.pulled = []) :
      Advances processor p (start workers p.world)
  | moved {r : Pool τ ω} {label : Label} (hmove : Moves processor p label r) :
      Advances processor p r

/-- Workers that have ended leave the world alone. -/
theorem Advances.world_eq (h : Advances processor p r) (hdone : p.isDone = true) :
    r.world = p.world := by
  cases h with
  | still | started => rfl
  | moved hmove =>
      have hopen := hmove.not_isDone
      rw [hdone] at hopen
      cases hopen

/-- The same pool in another world. -/
def inWorld (p : Pool τ ω) (f : ω → ω) : Pool τ ω :=
  { p with world := f p.world }

end Pool

/-- What is seen of a broker besides its interface: whether a server takes part, its lifecycle, its
workers, and how somebody else changes the world that the workers share. -/
structure View (τ ω β : Type) where
  remote : Bool
  lifecycle : β → Lifecycle
  pool : β → Pool τ ω
  update : (ω → ω) → β → β

/-- A subscription with so many workers can have returned this. When all processors have been built,
only a server can make it fail. -/
def CanReturn (setup : Setup τ ω) (remote : Bool) (workers : Nat) : Except BrokerError Unit → Prop
  | .ok _ => 0 < workers ∧ ∀ i < workers, setup.factory i = .ok ()
  | .error e =>
    Fails setup workers e ∨
      ∃ cause, remote = true ∧ e = .session cause ∧ 0 < workers ∧
        ∀ i < workers, setup.factory i = .ok ()

/-- What can be relied on in a broker that is used through an interface. `kept none` holds of it
until a call of `subscribe` passes the check, and `kept (some workers)` after one for so many
workers has passed. -/
structure Interface.Sound (via : Interface β ι) (view : View τ ω β) (setup : Setup τ ω)
    (kept : Option Nat → β → Prop) : Prop where
  step : ∀ {workers b c label}, kept workers b → via.step b label = some c →
    kept workers c ∧ (view.pool b).Advances setup.processor (view.pool c) ∧
      (view.lifecycle b = .closed → view.lifecycle c = .closed) ∧
      ∀ result, via.returned? b = some result → via.returned? c = some result
  update : ∀ {workers b} f, kept workers b →
    kept workers (view.update f b) ∧ view.pool (view.update f b) = (view.pool b).inWorld f ∧
      view.lifecycle (view.update f b) = view.lifecycle b ∧
      via.returned? (view.update f b) = via.returned? b
  close : ∀ {workers b}, kept workers b →
    kept workers (via.close b).2 ∧ view.pool (via.close b).2 = view.pool b ∧
      view.lifecycle (via.close b).2 = .closed ∧
      via.returned? (via.close b).2 = via.returned? b
  subscribe : ∀ {workers b c}, kept none b → via.subscribe b workers = .ok c →
    kept (some workers) c ∧ view.pool c = view.pool b ∧ view.lifecycle b ≠ .closed
  refused : ∀ {workers b cause}, kept none b → via.subscribe b workers = .error cause →
    cause = .invalidState .closed .subscribed ∧ view.lifecycle b = .closed
  idle : ∀ {b}, kept none b → (view.pool b).isDone = true
  returned : ∀ {workers b result}, kept (some workers) b → via.returned? b = some result →
    (view.pool b).isDone = true ∧ CanReturn setup view.remote workers result

/-! ## Brokers in memory -/

namespace Queue

variable {setup : Setup τ ω} {q r : Queue τ ω}

def view : View τ ω (Queue τ ω) where
  remote := false
  lifecycle := lifecycle
  pool := pool
  update f q := { q with pool := q.pool.inWorld f }

/-- A broker that is as its subscription demands, which is absent or has so many workers. -/
def Kept (setup : Setup τ ω) (workers : Option Nat) (q : Queue τ ω) : Prop :=
  q.Phased setup ∧
    match workers with
    | none => q.subscription = .absent
    | some workers => q.Explained setup workers

/-- A pool moves only with its workers, or when they start. -/
theorem Moves.advances {label : Label} (hmove : Moves setup q label r) (hphase : q.InPhase setup) :
    q.pool.Advances setup.processor r.pool := by
  cases hmove with
  | delivered _ _ hpool | drained _ hpool | worked hpool | finished hpool | acknowledged hpool
  | released hpool => exact .moved hpool
  | launched hbuilding =>
      simp only [InPhase, hbuilding] at hphase
      obtain ⟨-, hclaimed, -, -, -, -, -, hworkers, hpulled, -⟩ := hphase.1
      rw [launch, hclaimed, if_neg (by decide)]
      exact .started hworkers hpulled
  | _ => exact .still

/-- Only a call of `subscribe` makes a subscription. -/
theorem Moves.absent {label : Label} (hmove : Moves setup q label r)
    (hother : ∀ workers, label ≠ .subscribe workers) (habsent : q.subscription = .absent) :
    r.subscription = .absent := by
  cases hmove with
  | subscribed => exact absurd rfl (hother _)
  | built hpresent | buildFailed hpresent | launched hpresent | joined hpresent | aborted hpresent
  | left hpresent =>
      rw [habsent] at hpresent
      cases hpresent
  | _ => exact habsent

/-- A subscription that has returned is over. -/
theorem Moves.returned {label : Label} (hmove : Moves setup q label r)
    (hother : ∀ workers, label ≠ .subscribe workers) {result : Except BrokerError Unit}
    (hreturned : q.subscription = .returned result) : r.subscription = .returned result := by
  cases hmove with
  | subscribed => exact absurd rfl (hother _)
  | built hpresent | buildFailed hpresent | launched hpresent | joined hpresent | aborted hpresent
  | left hpresent =>
      rw [hreturned] at hpresent
      cases hpresent
  | _ => exact hreturned

theorem Moves.closed_of_closed {label : Label} (hmove : Moves setup q label r)
    (hclosed : q.lifecycle = .closed) : r.lifecycle = .closed := by
  rcases hmove.lifecycle with hsame | hforward
  · exact hsame.trans hclosed
  · rw [hclosed] at hforward
    cases r.lifecycle <;> cases hforward

/-- A step of the interface is a step of the broker that is no call of `subscribe`. -/
theorem moves_of_interface {label : Label} (h : (interface setup).step q label = some r) :
    Moves setup q label r ∧ ∀ workers, label ≠ .subscribe workers := by
  cases label with
  | subscribe => cases h
  | _ => exact ⟨moves_of_step h, nofun⟩

theorem returned?_eq_some_iff {result : Except BrokerError Unit} :
    (interface setup).returned? q = some result ↔ q.subscription = .returned result := by
  simp only [interface]
  cases q.subscription <;> simp

theorem close_eq (q : Queue τ ω) : q.close.2.pool = q.pool ∧ q.close.2.lifecycle = .closed ∧
    q.close.2.subscription = q.subscription := by
  simp only [close]
  split
  · exact ⟨rfl, ‹_›, rfl⟩
  · exact ⟨rfl, rfl, rfl⟩

theorem Kept.of_moves {workers : Option Nat} {label : Label} (h : q.Kept setup workers)
    (hmove : Moves setup q label r) (hother : ∀ workers, label ≠ .subscribe workers) :
    r.Kept setup workers := by
  refine ⟨hmove.phased h.1, ?_⟩
  cases workers with
  | none => exact hmove.absent hother h.2
  | some workers => exact hmove.explained h.1 h.2

/-- A call of `subscribe` passes the check if the broker is connected, and brings its number of
workers. -/
theorem Kept.subscribe {workers : Nat} (h : q.Kept setup none)
    (hsubscribe : q.subscribe workers = .ok r) :
    r.Kept setup (some workers) ∧ r.pool = q.pool ∧ q.lifecycle ≠ .closed := by
  have hmove : Moves setup q (.subscribe workers) r :=
    moves_of_step (by rw [step, hsubscribe]; rfl)
  refine ⟨⟨hmove.phased h.1, explained_subscribe hsubscribe⟩, ?_⟩
  unfold Queue.subscribe at hsubscribe
  split at hsubscribe <;> cases hsubscribe
  rename_i hconnected
  refine ⟨rfl, fun hclosed => ?_⟩
  rw [hclosed] at hconnected
  cases hconnected

/-- The only call of `subscribe` is refused only because the broker has been closed. -/
theorem Kept.refused {workers : Nat} {cause : BrokerError} (h : q.Kept setup none)
    (hrefused : q.subscribe workers = .error cause) :
    cause = .invalidState .closed .subscribed ∧ q.lifecycle = .closed := by
  have hlives := h.1.lives
  unfold Queue.subscribe at hrefused
  split at hrefused <;> cases hrefused
  rename_i hconnected
  cases hlifecycle : q.lifecycle with
  | disconnected =>
      rw [Lives, hlifecycle] at hlives
      exact hlives.elim
  | connected =>
      rw [hlifecycle] at hconnected
      exact absurd rfl hconnected
  | subscribed =>
      rw [Lives, hlifecycle] at hlives
      exact absurd h.2 hlives
  | closed => exact ⟨rfl, rfl⟩

/-- A broker that nobody has subscribed to is kept as it was made, whatever else was done with it. -/
theorem Reaches.unsubscribed {world : ω} {labels : List Label}
    (run : Reaches setup (new world) labels q) (hother : ∀ workers, .subscribe workers ∉ labels) :
    q.Kept setup none ∧ q.pool = .start 0 world := by
  have habsent : q.subscription = .absent := by
    refine run.invariant (P := fun q => q.subscription = .absent) rfl ?_
    intro label hlabel a b hmove ha
    exact hmove.absent (fun workers hsubscribe => hother workers (hsubscribe ▸ hlabel)) ha
  have hphase := run.phased.phase
  simp only [InPhase, habsent] at hphase
  obtain ⟨workers, hruns⟩ := run.runs
  have hpool : q.pool = .start workers world := hruns.eq_of_nil hphase.1.workers_eq
  have hnone : List.replicate workers Worker.waiting = ([] : List (Worker τ)) := by
    rw [← hphase.1.workers_eq, hpool]
    rfl
  obtain rfl : workers = 0 := by simpa using hnone
  exact ⟨⟨run.phased, habsent⟩, hpool⟩

/-- A broker in memory can be relied on. -/
theorem sound (setup : Setup τ ω) : (interface setup).Sound view setup (Kept setup) where
  step := by
    intro workers q r label hkept hstep
    obtain ⟨hmove, hother⟩ := moves_of_interface hstep
    refine ⟨hkept.of_moves hmove hother, hmove.advances hkept.1.phase, hmove.closed_of_closed,
      fun result hreturned => ?_⟩
    rw [returned?_eq_some_iff] at hreturned ⊢
    exact hmove.returned hother hreturned
  update := by
    intro workers q f hkept
    exact ⟨⟨⟨hkept.1.phase, hkept.1.lives, hkept.1.tearing⟩, hkept.2⟩, rfl, rfl, rfl⟩
  close := by
    intro workers q hkept
    obtain ⟨hpool, hclosed, hsubscription⟩ := close_eq q
    have hmove : Moves setup q .close q.close.2 := moves_of_step rfl
    refine ⟨hkept.of_moves hmove nofun, hpool, hclosed, ?_⟩
    show (interface setup).returned? q.close.2 = (interface setup).returned? q
    simp only [interface, hsubscription]
  subscribe hkept hsubscribe := hkept.subscribe hsubscribe
  refused hkept hrefused := hkept.refused hrefused
  idle := by
    intro q hkept
    have hphase := hkept.1.phase
    have habsent : q.subscription = .absent := hkept.2
    simp only [InPhase, habsent] at hphase
    show q.pool.isDone = true
    rw [Pool.isDone, hphase.1.workers_eq]
    rfl
  returned := by
    intro workers q result hkept hreturned
    rw [returned?_eq_some_iff] at hreturned
    obtain ⟨hphased, hexplained⟩ := hkept
    refine ⟨hphased.phase.isDone_of_drained (hphased.phase.drained_iff.2 ⟨result, hreturned⟩), ?_⟩
    simp only [Explained, hreturned] at hexplained
    cases result with
    | ok => exact hexplained.2
    | error => exact .inl hexplained

end Queue

/-! ## Sessions -/

namespace Session

variable {setup : Setup τ ω} {s t : Session τ ω}

def view : View τ ω (Session τ ω) where
  remote := true
  lifecycle := lifecycle
  pool := pool
  update f s := { s with pool := s.pool.inWorld f }

/-- A session that is as its subscription demands, which is absent or has so many workers. -/
def Kept (setup : Setup τ ω) (workers : Option Nat) (s : Session τ ω) : Prop :=
  s.Phased ∧
    match workers with
    | none => s.attachment = .absent
    | some workers => s.Explained setup workers

/-- A pool moves only with its workers, or when they start. -/
theorem Moves.advances {label : Label} (hmove : Moves setup s label t) (hphase : s.InPhase) :
    s.pool.Advances setup.processor t.pool := by
  cases hmove with
  | delivered _ _ _ hpool | drained _ hpool | worked hpool | finished hpool
  | acknowledged _ hpool | unacknowledged _ hpool | released hpool => exact .moved hpool
  | launched hcalling =>
      simp only [InPhase, hcalling] at hphase
      exact .started hphase.1.1 hphase.1.2.1
  | _ => exact .still

/-- Only a call of `subscribe` makes a subscription. -/
theorem Moves.absent {label : Label} (hmove : Moves setup s label t)
    (hother : ∀ workers, label ≠ .subscribe workers) (habsent : s.attachment = .absent) :
    t.attachment = .absent := by
  cases hmove with
  | subscribed => exact absurd rfl (hother _)
  | built hpresent | buildFailed hpresent | attached hpresent | called hpresent | agreed hpresent
  | launched hpresent | callFailed hpresent | joined hpresent | left hpresent =>
      rw [habsent] at hpresent
      cases hpresent
  | _ => exact habsent

/-- A subscription that has returned is over. -/
theorem Moves.returned {label : Label} (hmove : Moves setup s label t)
    (hother : ∀ workers, label ≠ .subscribe workers) {result : Except BrokerError Unit}
    (hreturned : s.attachment = .returned result) : t.attachment = .returned result := by
  cases hmove with
  | subscribed => exact absurd rfl (hother _)
  | built hpresent | buildFailed hpresent | attached hpresent | called hpresent | agreed hpresent
  | launched hpresent | callFailed hpresent | joined hpresent | left hpresent =>
      rw [hreturned] at hpresent
      cases hpresent
  | _ => exact hreturned

theorem Moves.closed_of_closed {label : Label} (hmove : Moves setup s label t)
    (hclosed : s.lifecycle = .closed) : t.lifecycle = .closed := by
  cases hmove with
  | subscribed hconnected =>
      rw [hclosed] at hconnected
      cases hconnected
  | closed => rfl
  | _ => exact hclosed

/-- A step of the interface is a step of the session that is no call of `subscribe`. -/
theorem moves_of_interface {label : Label} (h : (interface setup).step s label = some t) :
    Moves setup s label t ∧ ∀ workers, label ≠ .subscribe workers := by
  cases label with
  | subscribe => cases h
  | _ => exact ⟨moves_of_step h, nofun⟩

theorem returned?_eq_some_iff {result : Except BrokerError Unit} :
    (interface setup).returned? s = some result ↔ s.attachment = .returned result := by
  simp only [interface]
  cases s.attachment <;> simp

theorem close_eq (s : Session τ ω) : s.close.2.pool = s.pool ∧ s.close.2.lifecycle = .closed ∧
    s.close.2.attachment = s.attachment := by
  simp only [close]
  split
  · exact ⟨rfl, ‹_›, rfl⟩
  · exact ⟨rfl, rfl, rfl⟩

theorem Kept.of_moves {workers : Option Nat} {label : Label} (h : s.Kept setup workers)
    (hmove : Moves setup s label t) (hother : ∀ workers, label ≠ .subscribe workers) :
    t.Kept setup workers := by
  refine ⟨hmove.phased h.1, ?_⟩
  cases workers with
  | none => exact hmove.absent hother h.2
  | some workers => exact hmove.explained h.1 h.2

/-- A call of `subscribe` passes the check if the session is connected, and brings its number of
workers. -/
theorem Kept.subscribe {workers : Nat} (h : s.Kept setup none)
    (hsubscribe : s.subscribe workers = .ok t) :
    t.Kept setup (some workers) ∧ t.pool = s.pool ∧ s.lifecycle ≠ .closed := by
  have hmove : Moves setup s (.subscribe workers) t :=
    moves_of_step (by rw [step, hsubscribe]; rfl)
  refine ⟨⟨hmove.phased h.1, explained_subscribe h.1 hsubscribe⟩, ?_⟩
  unfold Session.subscribe at hsubscribe
  split at hsubscribe <;> cases hsubscribe
  rename_i hconnected
  refine ⟨rfl, fun hclosed => ?_⟩
  rw [hclosed] at hconnected
  cases hconnected

/-- The only call of `subscribe` is refused only because the session has been closed. -/
theorem Kept.refused {workers : Nat} {cause : BrokerError} (h : s.Kept setup none)
    (hrefused : s.subscribe workers = .error cause) :
    cause = .invalidState .closed .subscribed ∧ s.lifecycle = .closed := by
  have hlives := h.1.lives
  unfold Session.subscribe at hrefused
  split at hrefused <;> cases hrefused
  rename_i hconnected
  cases hlifecycle : s.lifecycle with
  | disconnected =>
      rw [Lives, hlifecycle] at hlives
      exact hlives.elim
  | connected =>
      rw [hlifecycle] at hconnected
      exact absurd rfl hconnected
  | subscribed =>
      rw [Lives, hlifecycle] at hlives
      exact absurd h.2 hlives
  | closed => exact ⟨rfl, rfl⟩

/-- A session can be relied on. -/
theorem sound (setup : Setup τ ω) : (interface setup).Sound view setup (Kept setup) where
  step := by
    intro workers s t label hkept hstep
    obtain ⟨hmove, hother⟩ := moves_of_interface hstep
    refine ⟨hkept.of_moves hmove hother, hmove.advances hkept.1.phase, hmove.closed_of_closed,
      fun result hreturned => ?_⟩
    rw [returned?_eq_some_iff] at hreturned ⊢
    exact hmove.returned hother hreturned
  update := by
    intro workers s f hkept
    exact ⟨⟨⟨hkept.1.phase, hkept.1.lives, hkept.1.tearing⟩, hkept.2⟩, rfl, rfl, rfl⟩
  close := by
    intro workers s hkept
    obtain ⟨hpool, hclosed, hattachment⟩ := close_eq s
    have hmove : Moves setup s .close s.close.2 := moves_of_step rfl
    refine ⟨hkept.of_moves hmove nofun, hpool, hclosed, ?_⟩
    show (interface setup).returned? s.close.2 = (interface setup).returned? s
    simp only [interface, hattachment]
  subscribe hkept hsubscribe := hkept.subscribe hsubscribe
  refused hkept hrefused := hkept.refused hrefused
  idle := by
    intro s hkept
    have hphase := hkept.1.phase
    have habsent : s.attachment = .absent := hkept.2
    simp only [InPhase, habsent] at hphase
    exact hphase.1.isDone
  returned := by
    intro workers s result hkept hreturned
    rw [returned?_eq_some_iff] at hreturned
    obtain ⟨hphased, hexplained⟩ := hkept
    have hphase := hphased.phase
    simp only [InPhase, hreturned] at hphase
    simp only [Explained, hreturned] at hexplained
    cases result with
    | ok => exact ⟨hphase.1, hexplained.2.1, hexplained.2.2.2⟩
    | error =>
        refine ⟨hphase.1.isDone, hexplained.imp_right ?_⟩
        rintro ⟨cause, rfl, hpos, -, hbuilt⟩
        exact ⟨cause, rfl, rfl, hpos, hbuilt⟩

end Session

end JobLog.Broker
