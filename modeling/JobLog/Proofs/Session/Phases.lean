import JobLog.Proofs.Pool.Measures
import JobLog.Proofs.Queue.Outcomes
import JobLog.Proofs.Session.Steps

/-!
# Where a session can be

A session has workers only while its subscription runs, and they have ended before the subscription
returns well. Only the first call of `close` has anything to do, and on a subscribed session it goes
on to close channel and connection when the subscription has returned. `Session.Phased` states this,
`Reaches.phased` says that it holds in every state that a session can reach.
-/

namespace JobLog.Broker.Session

variable {τ ω : Type} {setup : Setup τ ω} {s t : Session τ ω} {labels : List Label}

/-- No worker has been started. -/
def Idle (s : Session τ ω) : Prop :=
  s.pool.workers = [] ∧ s.pool.pulled = [] ∧ s.pool.acknowledged = []

/-- What holds of a session at each point of its subscription. -/
def InPhase (s : Session τ ω) : Prop :=
  match s.attachment with
  | .absent => s.Idle ∧ s.drained = false ∧ s.built = 0
  | .building .. | .calling .. | .leaving (.error _) => s.Idle ∧ s.drained = false
  | .running => s.drained = false
  | .leaving (.ok _) => s.pool.isDone = true ∧ s.drained = false
  | .returned (.ok _) => s.pool.isDone = true ∧ s.drained = true
  | .returned (.error _) => s.Idle ∧ s.drained = true

/-- How the lifecycle and the subscription of a session fit together. -/
def Lives (s : Session τ ω) : Prop :=
  match s.lifecycle with
  | .disconnected => False
  | .connected => s.attachment = .absent
  | .subscribed => s.attachment ≠ .absent
  | .closed => True

/-- How far the first call of `close` has come; later calls have nothing to do. -/
def Tearing (s : Session τ ω) : Prop :=
  match s.farewells with
  | [] => s.lifecycle ≠ .closed ∧ s.stopped = false
  | first :: later =>
    s.lifecycle = .closed ∧ (∀ f ∈ later, f = .returned) ∧
      match first with
      | .stopping waits => s.stopped = false ∧ (waits = true ↔ s.attachment ≠ .absent)
      | .waiting => s.stopped = true ∧ s.attachment ≠ .absent
      | .calling _ | .returned =>
        s.stopped = true ∧ (s.attachment ≠ .absent → s.drained = true)

/-- A session is as its subscription and its calls of `close` demand. -/
structure Phased (s : Session τ ω) : Prop where
  phase : s.InPhase
  lives : s.Lives
  tearing : s.Tearing

theorem phased_made (queue : String) (d : Dialing) (world : ω) :
    (made queue d world : Session τ ω).Phased where
  phase := ⟨⟨rfl, rfl, rfl⟩, rfl, rfl⟩
  lives := rfl
  tearing := ⟨nofun, rfl⟩

theorem Idle.isDone (h : s.Idle) : s.pool.isDone = true := by
  rw [Pool.isDone, h.1]
  rfl

/-- Workers move only while the subscription runs. -/
theorem InPhase.running_of_moves (h : s.InPhase) {label : Pool.Label} {pool : Pool τ ω}
    (hpool : Pool.Moves setup.processor s.pool label pool) : s.attachment = .running := by
  have hopen := hpool.not_isDone
  have hnone (hdone : s.pool.isDone = true) : False := by
    rw [hdone] at hopen
    cases hopen
  unfold InPhase at h
  split at h
  · exact (hnone h.1.isDone).elim
  · exact (hnone h.1.isDone).elim
  · exact (hnone h.1.isDone).elim
  · exact (hnone h.1.isDone).elim
  · assumption
  · exact (hnone h.1).elim
  · exact (hnone h.1).elim
  · exact (hnone h.1.isDone).elim

/-- When the workers have drained, none of them does anything any more. -/
theorem InPhase.isDone_of_drained (h : s.InPhase) (hdrained : s.drained = true) :
    s.pool.isDone = true := by
  unfold InPhase at h
  split at h
  · exact h.1.isDone
  · exact h.1.isDone
  · exact h.1.isDone
  · exact h.1.isDone
  · rw [hdrained] at h
    cases h
  · exact h.1
  · exact h.1
  · exact h.1.isDone

/-- A step of a worker changes the phase of nothing. -/
theorem InPhase.of_pool_moves (h : s.InPhase) {label : Pool.Label} {pool : Pool τ ω}
    (hpool : Pool.Moves setup.processor s.pool label pool)
    (hattachment : t.attachment = s.attachment) (hdrained : t.drained = s.drained) :
    t.InPhase := by
  have hrunning := h.running_of_moves hpool
  simp only [InPhase, hrunning] at h
  simp only [InPhase, hattachment, hrunning]
  exact hdrained.trans h

/-- Every step keeps the subscription and what it uses in line. -/
theorem Moves.inPhase {label : Label} (hmove : Moves setup s label t) (h : s.Phased) :
    t.InPhase := by
  have hphase := h.phase
  cases hmove with
  | @subscribed workers hconnected =>
      have hlives := h.lives
      simp only [Lives, hconnected] at hlives
      simp only [InPhase, hlives] at hphase
      by_cases hzero : workers = 0
      · simp only [if_pos hzero]
        exact ⟨hphase.1, hphase.2.1⟩
      · simp only [if_neg hzero]
        exact ⟨hphase.1, hphase.2.1⟩
  | delivered _ _ _ hpool | drained _ hpool | worked hpool | finished hpool
  | acknowledged _ hpool | unacknowledged _ hpool | released hpool =>
      exact hphase.of_pool_moves hpool rfl rfl
  | built hbuilding | buildFailed hbuilding | attached hbuilding =>
      simp only [InPhase, hbuilding] at hphase
      exact hphase
  | called hcalling | agreed hcalling | callFailed hcalling =>
      simp only [InPhase, hcalling] at hphase
      exact hphase
  | launched hcalling =>
      simp only [InPhase, hcalling] at hphase
      exact hphase.2
  | joined hrunning hdone =>
      simp only [InPhase, hrunning] at hphase
      exact ⟨hdone, hphase⟩
  | @left result hleaving =>
      cases result with
      | ok | error =>
          simp only [InPhase, hleaving] at hphase
          exact ⟨hphase.1, rfl⟩
  | _ => exact hphase

/-! ## Lifecycle and teardown -/

theorem Lives.of_present (h : s.Lives) (hs : s.attachment ≠ .absent) (ht : t.attachment ≠ .absent)
    (hlifecycle : t.lifecycle = s.lifecycle) : t.Lives := by
  unfold Lives at h ⊢
  rw [hlifecycle]
  split at h
  · exact h
  · exact absurd h hs
  · exact ht
  · trivial

/-- A subscription is present from the check of the lifecycle on. -/
theorem Moves.lives {label : Label} (hmove : Moves setup s label t) (h : s.Lives) : t.Lives := by
  cases hmove with
  | @subscribed workers hconnected =>
      show (if workers = 0 then _ else _) ≠ Attachment.absent
      split <;> nofun
  | closed => trivial
  | built hpresent | buildFailed hpresent | attached hpresent | called hpresent | agreed hpresent
  | launched hpresent | callFailed hpresent | joined hpresent | left hpresent =>
      exact h.of_present (by simp [hpresent]) nofun rfl
  | _ => exact h

/-- What the calls of `close` have done is not undone by steps of others. -/
theorem Tearing.frame (h : s.Tearing) (hfarewells : t.farewells = s.farewells)
    (hlifecycle : t.lifecycle = s.lifecycle) (hstopped : t.stopped = s.stopped)
    (hpresent : t.attachment ≠ .absent ↔ s.attachment ≠ .absent)
    (hdrained : s.drained = true → t.drained = true) : t.Tearing := by
  unfold Tearing at h ⊢
  rw [hfarewells, hlifecycle, hstopped]
  split at h
  · exact h
  · obtain ⟨hclosed, hlater, hfirst⟩ := h
    refine ⟨hclosed, hlater, ?_⟩
    split at hfirst
    · exact ⟨hfirst.1, hfirst.2.trans hpresent.symm⟩
    · exact ⟨hfirst.1, hpresent.2 hfirst.2⟩
    · exact ⟨hfirst.1, fun ht => hdrained (hfirst.2 (hpresent.1 ht))⟩
    · exact ⟨hfirst.1, fun ht => hdrained (hfirst.2 (hpresent.1 ht))⟩

/-- A session that is not closed has no calls of `close`. -/
theorem Tearing.farewells_eq_nil (h : s.Tearing) (hopen : s.lifecycle ≠ .closed) :
    s.farewells = [] := by
  unfold Tearing at h
  split at h
  · assumption
  · exact absurd h.1 hopen

/-- The first call of `close` goes on, and it is the only one that can. -/
theorem Tearing.advance (h : s.Tearing) {i : Nat} {f : Farewell} (hf : s.farewells[i]? = some f)
    (hbusy : f ≠ .returned) :
    i = 0 ∧ ∃ later, s.farewells = f :: later ∧ (∀ f ∈ later, f = .returned) ∧
      s.lifecycle = .closed := by
  unfold Tearing at h
  split at h
  · rename_i hnil
    simp [hnil] at hf
  · rename_i first later hcons
    rw [hcons] at hf ⊢
    cases i with
    | zero =>
        obtain rfl : first = f := by simpa using hf
        exact ⟨rfl, later, rfl, h.2.1, h.1⟩
    | succ i =>
        rw [List.getElem?_cons_succ] at hf
        exact absurd (h.2.1 f (List.mem_of_getElem? hf)) hbusy

theorem Moves.tearing {label : Label} (hmove : Moves setup s label t) (h : s.Phased) :
    t.Tearing := by
  have htearing := h.tearing
  have hlives := h.lives
  cases hmove with
  | @subscribed workers hconnected =>
      have hnil := htearing.farewells_eq_nil (by simp [hconnected])
      simp only [Tearing, hnil] at htearing
      simp only [Tearing, hnil]
      exact ⟨nofun, htearing.2⟩
  | closed hopen =>
      have hnil := htearing.farewells_eq_nil hopen
      simp only [Tearing, hnil] at htearing
      simp only [Tearing, hnil, List.nil_append]
      refine ⟨trivial, nofun, htearing.2, ?_⟩
      unfold Lives at hlives
      split at hlives <;> simp_all
  | closedAgain hclosed =>
      unfold Tearing at htearing
      split at htearing
      · exact absurd hclosed htearing.1
      · rename_i first later hcons
        simp only [Tearing, hcons, List.cons_append]
        refine ⟨hclosed, fun f hf => ?_, htearing.2.2⟩
        rcases List.mem_append.1 hf with hf | hf
        · exact htearing.2.1 f hf
        · exact List.mem_singleton.1 hf
  | built hpresent | buildFailed hpresent | attached hpresent | called hpresent | agreed hpresent
  | launched hpresent | callFailed hpresent | joined hpresent =>
      exact htearing.frame rfl rfl rfl (by simp [hpresent]) id
  | left hpresent => exact htearing.frame rfl rfl rfl (by simp [hpresent]) fun _ => rfl
  | stopped hfarewell =>
      obtain ⟨rfl, later, hcons, hlater, hclosed⟩ := htearing.advance hfarewell nofun
      simp only [Tearing, hcons] at htearing
      simp only [Tearing, setFarewell, hcons, List.set_cons_zero]
      exact ⟨hclosed, hlater, trivial, htearing.2.2.2.1 trivial⟩
  | stoppedAlone hfarewell =>
      obtain ⟨rfl, later, hcons, hlater, hclosed⟩ := htearing.advance hfarewell nofun
      simp only [Tearing, hcons] at htearing
      simp only [Tearing, beginClosing, setFarewell, hcons, List.set_cons_zero]
      exact ⟨hclosed, hlater, trivial,
        fun hpresent => absurd (htearing.2.2.2.2 hpresent) nofun⟩
  | waited hfarewell hdrained =>
      obtain ⟨rfl, later, hcons, hlater, hclosed⟩ := htearing.advance hfarewell nofun
      simp only [Tearing, hcons] at htearing
      simp only [Tearing, beginClosing, setFarewell, hcons, List.set_cons_zero]
      exact ⟨hclosed, hlater, htearing.2.2.1, fun _ => hdrained⟩
  | parting hfarewell =>
      obtain ⟨rfl, later, hcons, hlater, hclosed⟩ := htearing.advance hfarewell nofun
      simp only [Tearing, hcons] at htearing
      simp only [Tearing, setFarewell, hcons, List.set_cons_zero]
      exact ⟨hclosed, hlater, htearing.2.2⟩
  | parted hfarewell _ hnext =>
      obtain ⟨rfl, later, hcons, hlater, hclosed⟩ := htearing.advance hfarewell nofun
      simp only [Tearing, hcons] at htearing
      rcases hnext with ⟨-, rfl⟩ | ⟨-, rfl⟩ <;>
        simp only [Tearing, setFarewell, hcons, List.set_cons_zero] <;>
        exact ⟨hclosed, hlater, htearing.2.2⟩
  | _ => exact htearing.frame rfl rfl rfl Iff.rfl id

theorem Moves.phased {label : Label} (hmove : Moves setup s label t) (h : s.Phased) : t.Phased :=
  ⟨hmove.inPhase h, hmove.lives h.lives, hmove.tearing h⟩

/-- Every state that a session can reach is as its subscription and its calls of `close` demand. -/
theorem Reaches.phased {queue : String} {d : Dialing} {world : ω}
    (run : Reaches setup (made queue d world) labels s) : s.Phased :=
  run.invariant (phased_made queue d world) fun _ _ _ _ hmove h => hmove.phased h

/-- The workers of a session start in the world in which it was made. -/
theorem Reaches.runs {queue : String} {d : Dialing} {world : ω}
    (run : Reaches setup (made queue d world) labels s) :
    ∃ workers, Pool.Runs setup.processor (.start workers world) s.pool := by
  induction run with
  | refl => exact ⟨0, .refl⟩
  | @step a b labels label run move ih =>
      obtain ⟨workers, hruns⟩ := ih
      cases moves_of_step move with
      | delivered _ _ _ hpool | drained _ hpool | worked hpool | finished hpool
      | acknowledged _ hpool | unacknowledged _ hpool | released hpool =>
          exact ⟨workers, hruns.step hpool⟩
      | @launched count m events hcalling =>
          have hphase := run.phased.phase
          simp only [InPhase, hcalling] at hphase
          have hpool : a.pool = .start workers world := hruns.eq_of_nil hphase.1.1
          rw [hpool]
          exact ⟨count, .refl⟩
      | _ => exact ⟨workers, hruns⟩

/-! ## How a subscription can end -/

/-- A subscription with so many workers has come to the point where it is. It can fail before it
calls the server, or by a call that fails. -/
def Explained (setup : Setup τ ω) (workers : Nat) (s : Session τ ω) : Prop :=
  match s.attachment with
  | .absent => False
  | .building count next =>
    count = workers ∧ 0 < workers ∧ next ≤ workers ∧ s.built = next ∧
      ∀ i < next, setup.factory i = .ok ()
  | .calling count _ =>
    count = workers ∧ 0 < workers ∧ s.built = workers ∧ ∀ i < workers, setup.factory i = .ok ()
  | .running | .leaving (.ok _) | .returned (.ok _) =>
    s.pool.workers.length = workers ∧ 0 < workers ∧ s.built = workers ∧
      ∀ i < workers, setup.factory i = .ok ()
  | .leaving (.error e) | .returned (.error e) =>
    Fails setup workers e ∨
      ∃ cause, e = .session cause ∧ 0 < workers ∧ s.built = workers ∧
        ∀ i < workers, setup.factory i = .ok ()

/-- A step that leaves the subscription and the number of workers alone. -/
theorem Explained.of_eq {workers : Nat} (h : s.Explained setup workers)
    (hattachment : t.attachment = s.attachment) (hbuilt : t.built = s.built)
    (hworkers : t.pool.workers.length = s.pool.workers.length) : t.Explained setup workers := by
  simpa only [Explained, hattachment, hbuilt, hworkers] using h

/-- The check of the lifecycle is where a subscription begins. -/
theorem explained_subscribe {workers : Nat} (hphased : s.Phased)
    (hsubscribe : s.subscribe workers = .ok t) : t.Explained setup workers := by
  unfold subscribe at hsubscribe
  split at hsubscribe
  · rename_i hconnected
    cases hsubscribe
    have hlives := hphased.lives
    have hphase := hphased.phase
    simp only [Lives, Queue.canBecome_subscribed_iff.1 hconnected] at hlives
    simp only [InPhase, hlives] at hphase
    by_cases hnone : workers = 0
    · simp only [Explained, if_pos hnone]
      exact .inl (.noWorkers hnone)
    · simp only [Explained, if_neg hnone]
      exact ⟨trivial, Nat.pos_of_ne_zero hnone, Nat.zero_le _, hphase.2.2, nofun⟩
  · cases hsubscribe

/-- Every step of a session keeps what is known of its subscription. -/
theorem Moves.explained {workers : Nat} {label : Label} (hmove : Moves setup s label t)
    (hphased : s.Phased) (h : s.Explained setup workers) : t.Explained setup workers := by
  cases hmove with
  | subscribed hconnected =>
      have hlives := hphased.lives
      simp only [Lives, hconnected] at hlives
      simp only [Explained, hlives] at h
  | @built count next hbuilding hnext hfactory =>
      simp only [Explained, hbuilding] at h
      obtain ⟨rfl, hpos, -, hbuilt, hbefore⟩ := h
      refine ⟨rfl, hpos, hnext, congrArg (· + 1) hbuilt, fun i hi => ?_⟩
      rcases Nat.lt_succ_iff_lt_or_eq.1 hi with hlt | rfl
      · exact hbefore i hlt
      · exact hfactory
  | @buildFailed count next reason hbuilding hnext hfactory =>
      simp only [Explained, hbuilding] at h
      obtain ⟨rfl, -, -, -, hbefore⟩ := h
      exact .inl (.factory hnext hfactory hbefore)
  | @attached count next hbuilding hnext =>
      simp only [Explained, hbuilding] at h
      obtain ⟨rfl, hpos, hle, hbuilt, hbefore⟩ := h
      obtain rfl : next = count := Nat.le_antisymm hle hnext
      exact ⟨rfl, hpos, hbuilt, hbefore⟩
  | called hcalling | agreed hcalling =>
      simp only [Explained, hcalling] at h
      exact h
  | @launched count m events hcalling =>
      simp only [Explained, hcalling] at h
      obtain ⟨rfl, hrest⟩ := h
      refine ⟨?_, hrest⟩
      simp only [Pool.start, List.length_replicate]
  | @callFailed count calls exchange cause hcalling =>
      simp only [Explained, hcalling] at h
      exact .inr ⟨cause, rfl, h.2⟩
  | joined hrunning =>
      simp only [Explained, hrunning] at h
      exact h
  | @left result hleaving =>
      cases result <;> simp only [Explained, hleaving] at h <;> exact h
  | delivered _ _ _ hpool | drained _ hpool | worked hpool | finished hpool
  | acknowledged _ hpool | unacknowledged _ hpool | released hpool =>
      exact h.of_eq rfl rfl hpool.length_eq
  | _ => exact h.of_eq rfl rfl rfl

end JobLog.Broker.Session
