import JobLog.Proofs.Queue.Progress
import JobLog.Proofs.Queue.Service

/-!
# Graceful shutdown

A subscribed broker may be closed at any moment, between any two steps of its tasks. From then on no
worker takes another message, those that were taken are finished and acknowledged, and what was
taken is a prefix of what was published. Subscription and `close` return, the latter only after the
workers have ended: `graceful_shutdown`.
-/

namespace JobLog.Broker.Queue

variable {τ ω : Type} {setup : Setup τ ω} {q r : Queue τ ω} {world : ω} {labels : List Label}

/-- A subscription does not disappear. -/
theorem Moves.subscription_ne_absent {label : Label} (hmove : Moves setup q label r)
    (hpresent : q.subscription ≠ .absent) : r.subscription ≠ .absent := by
  cases hmove with
  | @subscribed workers _ =>
      show (if workers = 0 then _ else _) ≠ Subscription.absent
      split <;> nofun
  | built | buildFailed | joined | aborted | left => nofun
  | launched => exact launch_subscription_ne _
  | _ => exact hpresent

/-- After the stream has been stopped no worker takes another message. -/
theorem Moves.pulled_of_stopped {label : Label} (hmove : Moves setup q label r)
    (hphase : q.InPhase setup) (hstopped : q.stopped = true) :
    r.stopped = true ∧ r.pool.pulled = q.pool.pulled := by
  cases hmove with
  | delivered hgoing => simp [hstopped] at hgoing
  | drained _ hpool | worked hpool | finished hpool | acknowledged hpool | released hpool =>
      exact ⟨hstopped, hpool.pulled_of_none rfl⟩
  | launched hbuilding =>
      simp only [InPhase, hbuilding] at hphase
      obtain ⟨⟨-, hclaimed, -, -, -, -, -, -, hpulled, -⟩, -⟩ := hphase
      rw [launch, hclaimed, if_neg (by decide)]
      exact ⟨hstopped, hpulled.symm⟩
  | stopped => exact ⟨rfl, rfl⟩
  | _ => exact ⟨hstopped, rfl⟩

/-- The subscription has not got beyond waiting for its workers, which may not have been started
yet. -/
def Undrained (q : Queue τ ω) : Prop :=
  match q.subscription with
  | .absent | .building .. | .running => True
  | .dropping | .leaving _ | .returned _ => False

/-- Before the workers have drained no message is lost. -/
theorem Undrained.intact (h : q.Undrained) (hphase : q.InPhase setup) : q.Intact := by
  unfold InPhase at hphase
  unfold Undrained at h
  split at hphase <;> simp only [‹q.subscription = _›] at h
  · exact .inr (.inl hphase.1.pump_eq)
  · exact .inr (.inl hphase.1.pump_eq)
  · exact .inl hphase.2.2.1

/-- The subscription has returned well, and what its workers have taken is acknowledged by those
that took it. -/
structure Finished (q : Queue τ ω) : Prop where
  result : q.subscription = .returned (.ok ())
  ended : q.pool.isDone = true
  acknowledged : q.pool.acknowledged.Perm q.pool.pulled
  acked : q.stats.acked = q.pool.pulled.length

/-- Where the factory succeeds and no call crashes, a subscription that returns has finished all
that its workers have taken. -/
theorem Reaches.finished {workers : Nat} (run : Reaches setup (new world) labels q)
    (hsteady : setup.processor.Steady) (hserves : q.Serves workers)
    {result : Except BrokerError Unit} (hreturned : q.subscription = .returned result) :
    q.Finished := by
  simp only [Serves, hreturned] at hserves
  obtain ⟨rfl, -⟩ := hserves
  have hphase := run.phased.phase
  simp only [InPhase, hreturned] at hphase
  have hperm := run.ledger.perm (run.counting hsteady).whole hphase.2.2.1
  exact ⟨hreturned, hphase.2.2.1, hperm, by rw [run.balanced.acked, hperm.length_eq]⟩

/-- A call of `close` on a subscribed broker returns after the subscription. -/
theorem Tearing.subscription_returned (h : q.Tearing) (hphase : q.InPhase setup)
    (hpresent : q.subscription ≠ .absent) (hclosings : q.closings = [.returned]) :
    ∃ result, q.subscription = .returned result := by
  simp only [Tearing, hclosings] at h
  have hdrained := h.2.2.2.2 hpresent
  unfold InPhase at hphase
  split at hphase <;> first | exact ⟨_, ‹_›⟩ | simp [hdrained] at hphase

/-- Graceful shutdown: when a broker to which `subscribe` has been applied is closed, whatever its
tasks are doing at that moment, then the messages that were taken are finished in good order and are
the first ones that were published. None is taken after the stream has been stopped. The prefetch
bound is respected until the workers have drained. Both calls return, `close` after the
subscription: as long as they have not, some task can go on, and not forever. -/
theorem graceful_shutdown {workers : Nat} {before after : List Label} {p : Queue τ ω}
    (hworkers : 0 < workers) (hfactory : ∀ i < workers, setup.factory i = .ok ())
    (hsteady : setup.processor.Steady) (hsubscribed : .subscribe workers ∈ before)
    (honly : ∀ count, .subscribe count ∈ before ++ after → count = workers)
    (honce : .close ∉ before ++ after) (opening : Reaches setup (new world) before p)
    (closing : Reaches setup p (.close :: after) q) :
    q.Orderly ∧ q.pool.pulled.map Prod.snd <+: (new world).sent setup (before ++ .close :: after) ∧
      (q.stopped = true → ∀ labels r, Reaches setup q labels r → r.pool.pulled = q.pool.pulled) ∧
      (q.Undrained → q.Limited (prefetch workers setup.multiplier)) ∧
      q.stats.delivered = q.stats.acked + q.stats.inFlight ∧
      (∀ result, q.subscription = .returned result → q.Finished) ∧
      (.returned ∈ q.closings → q.Finished) ∧
      (q.Finished ∧ q.closings = [.returned] ∨ q.CanGoOn setup) ∧ q.Terminates setup := by
  have run := opening.trans closing
  have hserves : q.Serves workers := run.serves hworkers hfactory fun count hcount =>
    honly count (by simpa using hcount)
  have hfinished (result : Except BrokerError Unit) (h : q.subscription = .returned result) :
      q.Finished := run.finished hsteady hserves h
  have hpresent : q.subscription ≠ .absent :=
    closing.invariant (P := fun q => q.subscription ≠ .absent)
      (opening.subscription_ne_absent (fun hmem => honce (List.mem_append_left _ hmem)) hsubscribed)
      fun _ _ _ _ hmove h => hmove.subscription_ne_absent h
  -- There is one call of `close`, and it waits for the subscription.
  obtain ⟨c, hclosings⟩ : ∃ c, q.closings = [c] := by
    refine List.length_eq_one_iff.1 (run.closings_length.trans ?_)
    have hnone := List.count_eq_zero.2 honce
    rw [List.count_append] at hnone ⊢
    rw [List.count_cons_self]
    omega
  have hreturned (h : .returned ∈ q.closings) : q.Finished := by
    rw [hclosings, List.mem_singleton] at h
    obtain ⟨result, hresult⟩ :=
      run.phased.tearing.subscription_returned run.phased.phase hpresent (h ▸ hclosings)
    exact hfinished result hresult
  refine ⟨run.orderly, run.flowing.taken, fun hstopped labels r later => ?_,
    fun hundrained => run.limited hsteady hserves (hundrained.intact run.phased.phase),
    run.balanced.delivered, hfinished, hreturned, ?_, terminates setup q⟩
  -- A stopped stream stays stopped, and no step takes a message from it.
  · have hkept : r.Phased setup ∧ r.stopped = true ∧ r.pool.pulled = q.pool.pulled :=
      later.invariant
        (P := fun r => r.Phased setup ∧ r.stopped = true ∧ r.pool.pulled = q.pool.pulled)
        ⟨run.phased, hstopped, rfl⟩ fun _ _ _ _ hmove h =>
          have hnone := hmove.pulled_of_stopped h.1.phase h.2.1
          ⟨hmove.phased h.1, hnone.1, hnone.2.trans h.2.2⟩
    exact hkept.2.2
  · obtain ⟨hsubscription, hall⟩ | hgoing := run.progress (.inr (by simp [hclosings]))
    · obtain ⟨result, hresult⟩ := hsubscription.resolve_left hpresent
      have hc : c = .returned := hall c (by simp [hclosings])
      exact .inl ⟨hfinished result hresult, hc ▸ hclosings⟩
    · exact .inr hgoing

/-- Closed while its only worker has the first message and the second is buffered, a broker finishes
the first and drops the second, which stays in flight. -/
theorem graceful_shutdown_one :
    ∃ q : Queue Bool Nat, q.Finished ∧ q.pool.pulled = [(0, ⟨0, [1]⟩)] ∧
      q.closings = [.returned] ∧ q.stats.delivered = q.stats.acked + q.stats.inFlight ∧
      q.stats.inFlight = 1 := by
  let setup : Setup Bool Nat := ⟨2, .failing, fun _ => .ok ()⟩
  let before : List Label := [.publish [1], .publish [2], .subscribe 1, .build, .launch, .takeSlot,
    .takeMessage, .countMessage, .bufferMessage, .pull 0, .takeSlot, .takeMessage, .countMessage,
    .bufferMessage]
  let after : List Label := [.proceed 0, .work 0, .proceed 0, .finish 0, .acknowledge 0,
    .release 0, .pull 0, .join, .closeBuffer, .dropBuffered, .abort, .leave, .cancelPump,
    .proceed 0]
  obtain ⟨q, run, hpulled, hclosings, hinFlight⟩ :
      ∃ q, Reaches setup (new 0) (before ++ .close :: after) q ∧
        q.pool.pulled = [(0, ⟨0, [1]⟩)] ∧ q.closings = [.returned] ∧ q.stats.inFlight = 1 :=
    ⟨_, reaches_of_foldlM rfl, rfl, rfl, rfl⟩
  obtain ⟨p, opening, closing⟩ := run.split
  have hone : 0 < 1 := Nat.one_pos
  have hsubscribed : .subscribe 1 ∈ before := by decide
  obtain ⟨-, -, -, -, hdelivered, -, hreturned, -⟩ :=
    graceful_shutdown hone (fun _ _ => rfl) Processor.failing_steady hsubscribed
      (by simp [before, after]) (by decide) opening closing
  exact ⟨q, hreturned (by simp [hclosings]), hpulled, hclosings, hdelivered, hinFlight⟩

end JobLog.Broker.Queue
