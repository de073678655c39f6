import JobLog.Proofs.Pool.Measures
import JobLog.Proofs.Queue.Steps

/-!
# Where a broker can be

Which parts of a broker may be in use follows from where its subscription is: before the workers
start nothing has left the queue, while they run the buffer is open, and when they have ended no
worker does anything any more. `Queue.Phased` states this together with what the calls of `close`
have done so far: only the first of them tears the broker down. `Reaches.phased` says that it holds
in every state that a new broker can reach.
-/

namespace JobLog.Broker.Queue

variable {τ ω : Type} {setup : Setup τ ω} {q r : Queue τ ω}

/-- Nothing has left the queue, and no worker has been started. -/
def Untouched (q : Queue τ ω) : Prop :=
  q.pump = .absent ∧ q.claimed = false ∧ q.buffering = false ∧ q.aborted = false ∧
    q.buffer = [] ∧ q.free = 0 ∧ q.stats = .zero ∧
    q.pool.workers = [] ∧ q.pool.pulled = [] ∧ q.pool.acknowledged = []

/-- Pump and workers have been started. -/
def Launched (setup : Setup τ ω) (q : Queue τ ω) : Prop :=
  q.pump ≠ .absent ∧ q.pool.workers ≠ [] ∧
    q.stats.prefetch = prefetch q.pool.workers.length setup.multiplier

/-- The workers have ended, and what they left in the buffer is dropped. -/
def Emptied (q : Queue τ ω) : Prop :=
  q.pool.isDone = true ∧ q.buffering = false ∧ q.buffer = [] ∧ q.aborted = true

/-- What holds of a broker at each point of its subscription. -/
def InPhase (setup : Setup τ ω) (q : Queue τ ω) : Prop :=
  match q.subscription with
  | .absent => q.Untouched ∧ q.drained = false
  | .building workers next => q.Untouched ∧ q.drained = false ∧ 0 < workers ∧ next ≤ workers
  | .running => q.Launched setup ∧ q.drained = false ∧ q.buffering = true ∧ q.aborted = false
  | .dropping =>
    q.Launched setup ∧ q.drained = false ∧ q.pool.isDone = true ∧ q.aborted = false
  | .leaving (.ok _) => q.Launched setup ∧ q.drained = false ∧ q.Emptied
  | .leaving (.error _) => q.Untouched ∧ q.drained = false
  | .returned (.ok _) => q.Launched setup ∧ q.drained = true ∧ q.Emptied
  | .returned (.error _) => q.Untouched ∧ q.drained = true

/-- How the lifecycle and the subscription of a broker fit together. -/
def Lives (q : Queue τ ω) : Prop :=
  match q.lifecycle with
  | .disconnected => False
  | .connected => q.subscription = .absent
  | .subscribed => q.subscription ≠ .absent
  | .closed => True

/-- How far the first call of `close` has torn the broker down; later calls have nothing to do. -/
def Tearing (q : Queue τ ω) : Prop :=
  match q.closings with
  | [] => q.lifecycle ≠ .closed ∧ q.stopped = false
  | first :: later =>
    q.lifecycle = .closed ∧ (∀ c ∈ later, c = .returned) ∧
      match first with
      | .ending waits => q.stopped = false ∧ (waits = true ↔ q.subscription ≠ .absent)
      | .stopping waits =>
        q.accepting = false ∧ q.stopped = false ∧ (waits = true ↔ q.subscription ≠ .absent)
      | .waiting => q.accepting = false ∧ q.stopped = true ∧ q.subscription ≠ .absent
      | .returned =>
        q.accepting = false ∧ q.stopped = true ∧ (q.subscription ≠ .absent → q.drained = true)

/-- A broker is as its subscription and its calls of `close` demand. -/
structure Phased (setup : Setup τ ω) (q : Queue τ ω) : Prop where
  phase : q.InPhase setup
  lives : q.Lives
  tearing : q.Tearing

theorem phased_new (world : ω) : (new world : Queue τ ω).Phased setup where
  phase := ⟨⟨rfl, rfl, rfl, rfl, rfl, rfl, rfl, rfl, rfl, rfl⟩, rfl⟩
  lives := rfl
  tearing := ⟨nofun, rfl⟩

theorem Untouched.pump_eq (h : q.Untouched) : q.pump = .absent :=
  h.1

theorem Untouched.workers_eq (h : q.Untouched) : q.pool.workers = [] :=
  h.2.2.2.2.2.2.2.1

/-- Workers move only while the subscription runs. -/
theorem InPhase.running_of_moves (h : q.InPhase setup) {label : Pool.Label} {pool : Pool τ ω}
    (hpool : Pool.Moves setup.processor q.pool label pool) : q.subscription = .running := by
  have hworkers := hpool.workers_ne_nil
  have hopen := hpool.not_isDone
  unfold InPhase at h
  split at h
  · exact absurd h.1.workers_eq hworkers
  · exact absurd h.1.workers_eq hworkers
  · assumption
  · simp [h.2.2.1] at hopen
  · simp [h.2.2.1] at hopen
  · exact absurd h.1.workers_eq hworkers
  · simp [h.2.2.1] at hopen
  · exact absurd h.1.workers_eq hworkers

/-- The workers count as drained if and only if the subscription has returned. -/
theorem InPhase.drained_iff (h : q.InPhase setup) :
    q.drained = true ↔ ∃ result, q.subscription = .returned result := by
  unfold InPhase at h
  split at h <;> simp [*]

/-- When the workers have drained, none of them does anything any more. -/
theorem InPhase.isDone_of_drained (h : q.InPhase setup) (hdrained : q.drained = true) :
    q.pool.isDone = true := by
  obtain ⟨result, hreturned⟩ := h.drained_iff.1 hdrained
  simp only [InPhase, hreturned] at h
  cases result with
  | ok => exact h.2.2.1
  | error =>
      rw [Pool.isDone, h.1.workers_eq]
      rfl

/-- A step of a worker changes the phase of nothing. -/
theorem InPhase.of_pool_moves (h : q.InPhase setup) {label : Pool.Label}
    (hpool : Pool.Moves setup.processor q.pool label r.pool)
    (hsubscription : r.subscription = q.subscription) (hpump : r.pump = q.pump)
    (hprefetch : r.stats.prefetch = q.stats.prefetch) (hdrained : r.drained = q.drained)
    (hbuffering : r.buffering = q.buffering) (haborted : r.aborted = q.aborted) :
    r.InPhase setup := by
  have hrunning := h.running_of_moves hpool
  simp only [InPhase, hrunning] at h
  simp only [InPhase, hsubscription, hrunning]
  obtain ⟨⟨hpresent, hworkers, hbound⟩, hrest⟩ := h
  have hlength := hpool.length_eq
  refine ⟨⟨hpump ▸ hpresent, ?_, ?_⟩, ?_⟩
  · exact List.ne_nil_of_length_pos (hlength ▸ List.length_pos_of_ne_nil hworkers)
  · rw [hprefetch, hlength, hbound]
  · rw [hdrained, hbuffering, haborted]
    exact hrest

/-- A step of the pump changes the phase of nothing; when the buffer is closed, nothing is added
to it. -/
theorem InPhase.of_pump_moves (h : q.InPhase setup) (hpresent : q.pump ≠ .absent)
    (hpump : r.pump ≠ .absent) (hsubscription : r.subscription = q.subscription)
    (hpool : r.pool = q.pool) (hprefetch : r.stats.prefetch = q.stats.prefetch)
    (hdrained : r.drained = q.drained) (hbuffering : r.buffering = q.buffering)
    (haborted : r.aborted = q.aborted) (hbuffer : q.buffering = false → r.buffer = q.buffer) :
    r.InPhase setup := by
  have hlaunched (hl : q.Launched setup) : r.Launched setup := by
    refine ⟨hpump, ?_, ?_⟩
    · rw [hpool]
      exact hl.2.1
    · rw [hprefetch, hpool]
      exact hl.2.2
  have hemptied (he : q.Emptied) : r.Emptied := by
    obtain ⟨hdone, hclosed, hempty, hab⟩ := he
    refine ⟨hpool ▸ hdone, hbuffering ▸ hclosed, ?_, haborted ▸ hab⟩
    rw [hbuffer hclosed, hempty]
  simp only [InPhase, hsubscription]
  unfold InPhase at h
  split at h
  · exact absurd h.1.pump_eq hpresent
  · exact absurd h.1.pump_eq hpresent
  · rw [hdrained, hbuffering, haborted]
    exact ⟨hlaunched h.1, h.2⟩
  · rw [hdrained, hpool, haborted]
    exact ⟨hlaunched h.1, h.2⟩
  · rw [hdrained]
    exact ⟨hlaunched h.1, h.2.1, hemptied h.2.2⟩
  · exact absurd h.1.pump_eq hpresent
  · rw [hdrained]
    exact ⟨hlaunched h.1, h.2.1, hemptied h.2.2⟩
  · exact absurd h.1.pump_eq hpresent

/-- Starting pump and workers. -/
theorem InPhase.launch {workers next : Nat} (h : q.InPhase setup)
    (hbuilding : q.subscription = .building workers next) :
    (q.launch setup workers).InPhase setup := by
  simp only [InPhase, hbuilding] at h
  obtain ⟨⟨-, hclaimed, -, haborted, -⟩, hdrained, hpos, -⟩ := h
  rw [Queue.launch, hclaimed, if_neg (by decide)]
  refine ⟨⟨nofun, ?_, ?_⟩, hdrained, rfl, haborted⟩
  · simp only [Pool.start]
    exact fun hnil => absurd (List.replicate_eq_nil_iff _ |>.1 hnil) (Nat.pos_iff_ne_zero.1 hpos)
  · simp only [Pool.start, List.length_replicate]

/-- Every step keeps the subscription and what it uses in line. -/
theorem Moves.inPhase {label : Label} (hmove : Moves setup q label r) (h : q.Phased setup) :
    r.InPhase setup := by
  have hphase := h.phase
  cases hmove with
  | published | rejected | streamEnded | refused | closed | closedAgain | acceptingEnded | stopped
  | waited => exact hphase
  | subscribed hconnected =>
      rename_i workers
      have hlives := h.lives
      simp only [Lives, hconnected] at hlives
      simp only [InPhase, hlives] at hphase
      by_cases hzero : workers = 0
      · subst hzero
        exact hphase
      · simp only [if_neg hzero]
        exact ⟨hphase.1, hphase.2, Nat.pos_of_ne_zero hzero, Nat.zero_le _⟩
  | slotTaken hpump _ | messageTaken hpump _ | messageCounted hpump =>
      exact hphase.of_pump_moves (by simp [hpump]) nofun rfl rfl rfl rfl rfl rfl fun _ => rfl
  | messageBuffered hpump hbuffering =>
      exact hphase.of_pump_moves (by simp [hpump]) nofun rfl rfl rfl rfl rfl rfl
        fun hclosed => absurd hbuffering (by simp [hclosed])
  | messageLost hpump _ | pumpEnded hpump _ _ =>
      exact hphase.of_pump_moves (by simp [hpump]) nofun rfl rfl rfl rfl rfl rfl fun _ => rfl
  | pumpCancelled _ hpump =>
      exact hphase.of_pump_moves (by rcases hpump with hpump | hpump <;> simp [hpump]) nofun
        rfl rfl rfl rfl rfl rfl fun _ => rfl
  | delivered _ _ hpool | drained _ hpool | worked hpool | finished hpool | acknowledged hpool
  | released hpool => exact hphase.of_pool_moves hpool rfl rfl rfl rfl rfl rfl
  | built hbuilding hnext _ =>
      simp only [InPhase, hbuilding] at hphase
      exact ⟨hphase.1, hphase.2.1, hphase.2.2.1, hnext⟩
  | buildFailed hbuilding _ _ =>
      simp only [InPhase, hbuilding] at hphase
      exact ⟨hphase.1, hphase.2.1⟩
  | launched hbuilding _ => exact hphase.launch hbuilding
  | joined hrunning hdone =>
      simp only [InPhase, hrunning] at hphase
      exact ⟨hphase.1, hphase.2.1, hdone, hphase.2.2.2⟩
  | bufferClosed hdropping _ | bufferedLost hdropping _ _ =>
      simp only [InPhase, hdropping] at hphase
      simp only [InPhase, hdropping]
      exact hphase
  | aborted hdropping hbuffering hbuffer =>
      simp only [InPhase, hdropping] at hphase
      exact ⟨hphase.1, hphase.2.1, hphase.2.2.1, hbuffering, hbuffer, rfl⟩
  | @left result hleaving =>
      cases result with
      | ok =>
          simp only [InPhase, hleaving] at hphase
          exact ⟨hphase.1, rfl, hphase.2.2⟩
      | error =>
          simp only [InPhase, hleaving] at hphase
          exact ⟨hphase.1, rfl⟩

/-! ## Lifecycle and teardown -/

theorem Lives.of_present (h : q.Lives) (hq : q.subscription ≠ .absent)
    (hr : r.subscription ≠ .absent) (hlifecycle : r.lifecycle = q.lifecycle) : r.Lives := by
  unfold Lives at h ⊢
  rw [hlifecycle]
  split at h
  · exact h
  · exact absurd h hq
  · exact hr
  · trivial

theorem launch_subscription_ne (workers : Nat) :
    (q.launch setup workers).subscription ≠ .absent := by
  unfold launch
  split <;> nofun

theorem launch_lifecycle (workers : Nat) : (q.launch setup workers).lifecycle = q.lifecycle := by
  unfold launch
  split <;> rfl

/-- A subscription is present from the check of the lifecycle on. -/
theorem Moves.lives {label : Label} (hmove : Moves setup q label r) (h : q.Lives) : r.Lives := by
  cases hmove with
  | @subscribed workers hconnected =>
      show (if workers = 0 then _ else _) ≠ Subscription.absent
      split <;> nofun
  | closed => trivial
  | built hpresent | buildFailed hpresent | joined hpresent | aborted hpresent | left hpresent =>
      exact h.of_present (by simp [hpresent]) nofun rfl
  | launched hbuilding =>
      exact h.of_present (by simp [hbuilding]) (launch_subscription_ne _) (launch_lifecycle _)
  | _ => exact h

/-- What the calls of `close` have done is not undone by steps of others. -/
theorem Tearing.frame (h : q.Tearing) (hclosings : r.closings = q.closings)
    (hlifecycle : r.lifecycle = q.lifecycle) (hstopped : r.stopped = q.stopped)
    (haccepting : q.accepting = false → r.accepting = false)
    (hpresent : r.subscription ≠ .absent ↔ q.subscription ≠ .absent)
    (hdrained : q.drained = true → r.drained = true) : r.Tearing := by
  unfold Tearing at h ⊢
  rw [hclosings, hlifecycle, hstopped]
  split at h
  · exact h
  · obtain ⟨hclosed, hlater, hfirst⟩ := h
    refine ⟨hclosed, hlater, ?_⟩
    split at hfirst
    · exact ⟨hfirst.1, hfirst.2.trans hpresent.symm⟩
    · exact ⟨haccepting hfirst.1, hfirst.2.1, hfirst.2.2.trans hpresent.symm⟩
    · exact ⟨haccepting hfirst.1, hfirst.2.1, hpresent.2 hfirst.2.2⟩
    · exact ⟨haccepting hfirst.1, hfirst.2.1, fun hr => hdrained (hfirst.2.2 (hpresent.1 hr))⟩

/-- A broker that is not closed has no calls of `close`. -/
theorem Tearing.closings_eq_nil (h : q.Tearing) (hopen : q.lifecycle ≠ .closed) :
    q.closings = [] := by
  unfold Tearing at h
  split at h
  · assumption
  · exact absurd h.1 hopen

/-- Only the first call of `close` has anything to do. -/
theorem Tearing.eq_zero (h : q.Tearing) {i : Nat} {c : Closing} (hc : q.closings[i]? = some c)
    (hbusy : c ≠ .returned) : i = 0 := by
  unfold Tearing at h
  split at h
  · rename_i hnil
    simp [hnil] at hc
  · rename_i first later hcons
    cases i with
    | zero => rfl
    | succ i =>
        rw [hcons, List.getElem?_cons_succ] at hc
        exact absurd (h.2.1 c (List.mem_of_getElem? hc)) hbusy

/-- The first call of `close` goes on. -/
theorem Tearing.advance (h : q.Tearing) {i : Nat} {c d : Closing} (hc : q.closings[i]? = some c)
    (hbusy : c ≠ .returned) : ∃ later, q.closings = c :: later ∧ (∀ c ∈ later, c = .returned) ∧
      q.closings.set i d = d :: later ∧ q.lifecycle = .closed := by
  obtain rfl := h.eq_zero hc hbusy
  unfold Tearing at h
  split at h
  · rename_i hnil
    simp [hnil] at hc
  · rename_i first later hcons
    rw [hcons] at hc ⊢
    obtain rfl : first = c := by simpa using hc
    exact ⟨later, rfl, h.2.1, rfl, h.1⟩

/-- Nobody stops the stream before no more messages are accepted. -/
theorem Tearing.not_accepting (h : q.Tearing) (hstopped : q.stopped = true) :
    q.accepting = false := by
  unfold Tearing at h
  split at h
  · exact absurd (hstopped.symm.trans h.2) nofun
  · rename_i first later hcons
    cases first with
    | ending | stopping => simp [hstopped] at h
    | waiting | returned => exact h.2.2.1

theorem Moves.tearing {label : Label} (hmove : Moves setup q label r) (h : q.Phased setup) :
    r.Tearing := by
  have htearing := h.tearing
  have hlives := h.lives
  cases hmove with
  | @subscribed workers hconnected =>
      have hnil := htearing.closings_eq_nil (by simp [hconnected])
      simp only [Tearing, hnil] at htearing
      simp only [Tearing, hnil]
      exact ⟨nofun, htearing.2⟩
  | streamEnded => exact htearing.frame rfl rfl rfl (fun _ => rfl) Iff.rfl id
  | closed hopen =>
      have hnil := htearing.closings_eq_nil hopen
      simp only [Tearing, hnil] at htearing
      simp only [Tearing, hnil, List.nil_append]
      refine ⟨trivial, nofun, htearing.2, ?_⟩
      unfold Lives at hlives
      split at hlives <;> simp_all
  | closedAgain hclosed =>
      unfold Tearing at htearing
      split at htearing
      · exact absurd hclosed htearing.1
      · rename_i first later hcons
        simp only [Tearing, hcons, List.cons_append]
        refine ⟨hclosed, fun c hc => ?_, htearing.2.2⟩
        rcases List.mem_append.1 hc with hc | hc
        · exact htearing.2.1 c hc
        · exact List.mem_singleton.1 hc
  | built hpresent | buildFailed hpresent | joined hpresent | aborted hpresent =>
      exact htearing.frame rfl rfl rfl id (by simp [hpresent]) id
  | left hpresent => exact htearing.frame rfl rfl rfl id (by simp [hpresent]) fun _ => rfl
  | launched hbuilding =>
      have hpresent : q.subscription ≠ .absent := by simp [hbuilding]
      unfold launch
      split <;> exact htearing.frame rfl rfl rfl id (by simp [hpresent]) id
  | @acceptingEnded i waits hclosing =>
      obtain ⟨later, hcons, hlater, hset, hclosed⟩ :=
        htearing.advance (d := .stopping waits) hclosing nofun
      simp only [Tearing, hcons] at htearing
      simp only [Tearing, setClosing, endStream, hset]
      exact ⟨hclosed, hlater, trivial, htearing.2.2⟩
  | @stopped i waits hclosing =>
      obtain ⟨later, hcons, hlater, hset, hclosed⟩ :=
        htearing.advance (d := if waits then .waiting else .returned) hclosing nofun
      simp only [Tearing, hcons] at htearing
      simp only [Tearing, setClosing, hset]
      obtain ⟨-, -, haccepting, -, hwaits⟩ := htearing
      cases waits with
      | true => exact ⟨hclosed, hlater, haccepting, trivial, hwaits.1 rfl⟩
      | false =>
          exact ⟨hclosed, hlater, haccepting, trivial,
            fun hpresent => absurd (hwaits.2 hpresent) nofun⟩
  | @waited i hclosing hdrained =>
      obtain ⟨later, hcons, hlater, hset, hclosed⟩ :=
        htearing.advance (d := .returned) hclosing nofun
      simp only [Tearing, hcons] at htearing
      simp only [Tearing, setClosing, hset]
      exact ⟨hclosed, hlater, htearing.2.2.1, htearing.2.2.2.1, fun _ => hdrained⟩
  | _ => exact htearing.frame rfl rfl rfl id Iff.rfl id

theorem Moves.phased {label : Label} (hmove : Moves setup q label r) (h : q.Phased setup) :
    r.Phased setup :=
  ⟨hmove.inPhase h, hmove.lives h.lives, hmove.tearing h⟩

/-- Every state that a new broker can reach is as its subscription and its calls of `close`
demand. -/
theorem Reaches.phased {world : ω} {labels : List Label}
    (run : Reaches setup (new world) labels q) : q.Phased setup :=
  run.invariant (phased_new world) fun _ _ _ _ hmove h => hmove.phased h

/-- The workers of a broker start in the world in which the broker was made. -/
theorem Reaches.runs {world : ω} {labels : List Label}
    (run : Reaches setup (new world) labels q) :
    ∃ workers, Pool.Runs setup.processor (.start workers world) q.pool := by
  induction run with
  | refl => exact ⟨0, .refl⟩
  | @step a b labels label run move ih =>
      obtain ⟨workers, hruns⟩ := ih
      cases moves_of_step move with
      | delivered _ _ hpool | drained _ hpool | worked hpool | finished hpool | acknowledged hpool
      | released hpool => exact ⟨workers, hruns.step hpool⟩
      | @launched count next hbuilding =>
          have hphase := run.phased.phase
          simp only [InPhase, hbuilding] at hphase
          have hpool : a.pool = .start workers world := hruns.eq_of_nil hphase.1.workers_eq
          rw [launch, hphase.1.2.1, if_neg (by decide), hpool]
          exact ⟨count, .refl⟩
      | _ => exact ⟨workers, hruns⟩

end JobLog.Broker.Queue
