import JobLog.Broker.Simulation
import JobLog.Proofs.Queue.Shutdown

/-!
# Messages that are lost

A slot is given back with its message, and a message can go without being acknowledged: the call of
a worker crashes over it, or it is still buffered when the workers have ended. Such a message stays
in flight for good while its slot serves the next one, so the prefetch bound can be exceeded.
`overrun_le` says by how much: by one message for each worker that has crashed, and by one more that
the pump counts after the buffer has been closed.
-/

namespace JobLog.Broker

/-- Whether the pump has stopped, or is about to after one more message. -/
def Pump.isSpent : Pump → Bool
  | .counted _ | .finished => true
  | .absent | .seeking | .holding | .taken _ => false

namespace Queue

variable {τ ω : Type} {setup : Setup τ ω} {q r : Queue τ ω} {world : ω} {labels : List Label}

/-- How many messages may have been counted since the buffer was closed. -/
def late (q : Queue τ ω) : Nat :=
  (!q.buffering && q.pump.isSpent).toNat

/-- By how much the counters exceed the slots. While the buffer is open, everything in flight is
outstanding or lost with a worker. -/
structure Overrunning (q : Queue τ ω) : Prop where
  exact : q.buffering = true → q.stats.inFlight = q.outstanding + q.pool.lost
  inFlight_le : q.stats.inFlight ≤ q.stats.prefetch + q.pool.lost + q.late
  maxInFlight_le : q.stats.maxInFlight ≤ q.stats.prefetch + q.pool.lost + q.late

theorem overrunning_new (world : ω) : (new world : Queue τ ω).Overrunning :=
  ⟨nofun, Nat.zero_le _, Nat.zero_le _⟩

/-- While the buffer is open, the slots bound what is in flight but not lost. -/
theorem Balanced.inFlight_le_lost (h : q.Balanced)
    (hexact : q.stats.inFlight = q.outstanding + q.pool.lost) :
    q.stats.inFlight ≤ q.stats.prefetch + q.pool.lost := by
  have hslots := h.slots
  have hheld := outstanding_le_held q
  omega

/-- A step of a worker happens while the buffer is open. -/
theorem Overrunning.of_pool_moves (h : q.Overrunning) (hbalanced : r.Balanced)
    (hphase : q.InPhase setup) {label : Pool.Label}
    (hpool : Pool.Moves setup.processor q.pool label r.pool) (hpump : r.pump = q.pump)
    (hbuffer : r.buffer.length + label.takes = q.buffer.length)
    (hinFlight : r.stats.inFlight = q.stats.inFlight - label.settles)
    (hmax : r.stats.maxInFlight = q.stats.maxInFlight)
    (hprefetch : r.stats.prefetch = q.stats.prefetch) : r.Overrunning := by
  have hrunning := hphase.running_of_moves hpool
  simp only [InPhase, hrunning] at hphase
  have hopen : q.buffering = true := hphase.2.2.1
  have hexact : r.stats.inFlight = r.outstanding + r.pool.lost := by
    have hbefore := h.exact hopen
    have hsum := hpool.owing_add_lost
    simp only [outstanding, hpump] at hbefore ⊢
    omega
  refine ⟨fun _ => hexact, ?_, ?_⟩
  · have hle := hbalanced.inFlight_le_lost hexact
    omega
  · have hle := h.maxInFlight_le
    have hlost := hpool.lost_le_lost
    simp only [late, hopen, Bool.not_true, Bool.false_and, Bool.toNat_false] at hle
    omega

/-- A step of the pump that counts nothing leaves the counters as they are. -/
theorem Overrunning.of_pump_moves (h : q.Overrunning) (hstats : r.stats = q.stats)
    (hpool : r.pool = q.pool) (hbuffering : r.buffering = q.buffering)
    (houtstanding : q.buffering = true → r.outstanding = q.outstanding)
    (hspent : q.pump.isSpent = true → r.pump.isSpent = true) : r.Overrunning := by
  have hlate : q.late ≤ r.late := by
    simp only [late, hbuffering]
    cases q.buffering with
    | true => simp
    | false =>
        cases hpump : q.pump.isSpent with
        | true => simp [hspent hpump]
        | false => simp
  refine ⟨fun hopen => ?_, ?_, ?_⟩
  · have hbefore := hbuffering ▸ hopen
    rw [hstats, hpool, houtstanding hbefore]
    exact h.exact hbefore
  · rw [hstats, hpool]
    exact h.inFlight_le.trans (Nat.add_le_add_left hlate _)
  · rw [hstats, hpool]
    exact h.maxInFlight_le.trans (Nat.add_le_add_left hlate _)

/-- A message that is counted has a slot of its own, or it is the last one of the pump. -/
theorem Overrunning.count {m : Message} (h : q.Overrunning) (hpump : q.pump = .taken m)
    (hbalanced : { q with pump := .counted m, stats := q.stats.recordDelivery }.Balanced) :
    Overrunning { q with pump := .counted m, stats := q.stats.recordDelivery } := by
  obtain ⟨hexact, hinFlight, hmax⟩ := h
  simp only [late, hpump, Pump.isSpent, Bool.and_false, Bool.toNat_false] at hinFlight hmax
  cases hbuffering : q.buffering with
  | true =>
      have hcounted : q.stats.inFlight + 1 =
          outstanding { q with pump := .counted m, stats := q.stats.recordDelivery } +
            q.pool.lost := by
        have hbefore := hexact hbuffering
        simp only [outstanding, hpump, Pump.hasCounted, Bool.toNat_true, Bool.toNat_false]
          at hbefore ⊢
        omega
      have hle : q.stats.inFlight + 1 ≤ q.stats.prefetch + q.pool.lost :=
        hbalanced.inFlight_le_lost hcounted
      exact ⟨fun _ => hcounted, hle.trans (Nat.le_add_right ..),
        (Nat.max_le.2 ⟨hmax, hle⟩).trans (Nat.le_add_right ..)⟩
  | false =>
      refine ⟨fun hopen => absurd hopen Bool.false_ne_true, ?_, ?_⟩ <;>
        simp only [late, Stats.recordDelivery, Pump.isSpent, Bool.not_false, Bool.and_self,
          Bool.toNat_true] <;>
        omega

/-- Every step keeps the excess of the counters within bounds. -/
theorem Moves.overrunning {label : Label} (hmove : Moves setup q label r)
    (hphase : q.InPhase setup) (hq : q.Balanced) (hr : r.Balanced) (h : q.Overrunning) :
    r.Overrunning := by
  cases hmove with
  | published | rejected | streamEnded | subscribed | refused | closed | closedAgain | built
  | buildFailed | joined | aborted | left | acceptingEnded | stopped | waited =>
      exact ⟨h.exact, h.inFlight_le, h.maxInFlight_le⟩
  | slotTaken hpump | messageTaken hpump =>
      refine h.of_pump_moves rfl rfl rfl (fun _ => ?_) (by simp [hpump, Pump.isSpent])
      simp only [outstanding, hpump, Pump.hasCounted]
  | messageCounted hpump => exact h.count hpump hr
  | messageBuffered hpump hbuffering =>
      refine ⟨fun _ => ?_, ?_, ?_⟩
      · have hbefore := h.exact hbuffering
        simp only [outstanding, hpump, Pump.hasCounted, Bool.toNat_true, Bool.toNat_false,
          List.length_append, List.length_singleton] at hbefore ⊢
        omega
      · simpa [late, hbuffering] using h.inFlight_le
      · simpa [late, hbuffering] using h.maxInFlight_le
  | messageLost hpump hbuffering =>
      exact h.of_pump_moves rfl rfl rfl
        (fun hopen => absurd (hbuffering.symm.trans hopen) Bool.false_ne_true) fun _ => rfl
  | pumpEnded hpump =>
      refine h.of_pump_moves rfl rfl rfl (fun _ => ?_) fun _ => rfl
      simp only [outstanding, stopPump, hpump, Pump.hasCounted]
  | pumpCancelled _ hpump =>
      refine h.of_pump_moves rfl rfl rfl (fun _ => ?_) fun _ => rfl
      rcases hpump with hpump | hpump <;> simp only [outstanding, stopPump, hpump, Pump.hasCounted]
  | delivered _ hbuffer hpool =>
      exact h.of_pool_moves hr hphase hpool rfl (by simp [hbuffer, Pool.Label.takes]) rfl rfl rfl
  | drained _ hpool | worked hpool | finished hpool | acknowledged hpool | released hpool =>
      exact h.of_pool_moves hr hphase hpool rfl rfl rfl rfl rfl
  | @launched workers next hbuilding =>
      -- Before the launch nothing has been counted, and no new worker has crashed.
      simp only [InPhase, hbuilding] at hphase
      obtain ⟨⟨-, hclaimed, -, -, hbuffer, -, hstats, -⟩, -⟩ := hphase
      rw [launch, hclaimed, if_neg (by decide)]
      have hidle : (Pool.start workers q.pool.world : Pool τ ω).owing = 0 ∧
          (Pool.start workers q.pool.world : Pool τ ω).lost = 0 := by
        simp [Pool.owing, Pool.lost, Pool.total, Pool.start, Worker.owes, Worker.isLost]
      refine ⟨fun _ => ?_, ?_, ?_⟩
      · simp [outstanding, Pump.hasCounted, hbuffer, hidle, hstats, Stats.zero]
      · simp [hstats, Stats.zero]
      · simp [hstats, Stats.zero]
  | bufferClosed hdropping hbuffering =>
      have hinFlight := hq.inFlight_le_lost (h.exact hbuffering)
      have hmax := h.maxInFlight_le
      simp only [late, hbuffering, Bool.not_true, Bool.false_and, Bool.toNat_false] at hmax
      exact ⟨fun hopen => absurd hopen Bool.false_ne_true,
        hinFlight.trans (Nat.le_add_right ..), hmax.trans (Nat.le_add_right ..)⟩
  | bufferedLost hdropping hbuffering hbuffer =>
      exact ⟨fun hopen => absurd (hbuffering.symm.trans hopen) Bool.false_ne_true, h.inFlight_le,
        h.maxInFlight_le⟩

/-- The excess of the counters is within bounds in every state that a new broker can reach. -/
theorem Reaches.overrunning (run : Reaches setup (new world) labels q) : q.Overrunning := by
  induction run with
  | refl => exact overrunning_new world
  | step run move ih =>
      exact (moves_of_step move).overrunning run.phased.phase run.balanced
        (run.step move).balanced ih

/-- Until the workers have drained, the pump has counted no message too late. -/
theorem Undrained.late_or_zero (h : q.Undrained) (hphase : q.InPhase setup) :
    q.late = 0 ∨ q.stats = .zero := by
  unfold InPhase at hphase
  unfold Undrained at h
  split at hphase <;> simp only [‹q.subscription = _›] at h
  · exact .inr hphase.1.2.2.2.2.2.2.1
  · exact .inr hphase.1.2.2.2.2.2.2.1
  · exact .inl (by simp [late, hphase.2.2.1])

/-- The counters and the slots, also when calls crash and when the broker is closed: each slot is
either free or occupied, but the messages in flight can outnumber the slots, by one for each worker
that has crashed and by one more once the workers have drained. When the subscription has returned,
this bounds what was delivered and not acknowledged. -/
theorem overrun_le (run : Reaches setup (new world) labels q) :
    q.free + q.held = q.stats.prefetch ∧
      q.stats.inFlight ≤ q.stats.prefetch + q.pool.lost + 1 ∧
      q.stats.maxInFlight ≤ q.stats.prefetch + q.pool.lost + 1 ∧
      (q.Undrained → q.stats.inFlight ≤ q.stats.prefetch + q.pool.lost ∧
        q.stats.maxInFlight ≤ q.stats.prefetch + q.pool.lost) ∧
      q.pool.lost ≤ q.pool.workers.length ∧
      ∀ result, q.subscription = .returned result →
        q.stats.delivered ≤ q.stats.acked + q.stats.prefetch + q.pool.lost + 1 := by
  obtain ⟨-, hinFlight, hmax⟩ := run.overrunning
  have hlate : q.late ≤ 1 := Bool.toNat_le _
  refine ⟨run.balanced.slots, by omega, by omega, fun hundrained => ?_, q.pool.lost_le,
    fun _ _ => ?_⟩
  · rcases hundrained.late_or_zero run.phased.phase with hnone | hzero
    · omega
    · simp [hzero, Stats.zero]
  · have hdelivered := run.balanced.delivered
    omega

/-- One worker and a bound of one: the worker crashes over the first message, its slot lets the
second into the buffer, and the slot of that one lets the pump count a third before it is told to
stop. All bounds are attained. -/
theorem overrun_le_attained :
    ∃ q : Queue (Scripted Bool) Nat, q.subscription = .returned (.ok ()) ∧
      q.stats = ⟨3, 0, 3, 3, 1⟩ ∧ q.pool.lost = 1 ∧
      q.stats.delivered ≤ q.stats.acked + q.stats.prefetch + q.pool.lost + 1 := by
  let setup : Setup (Scripted Bool) Nat :=
    ⟨1, .scripted (fun m => ⟨0, true, m.index = 0⟩) .failing, fun _ => .ok ()⟩
  let labels : List Label := [.publish [1], .publish [2], .publish [3], .subscribe 1, .build,
    .launch, .takeSlot, .takeMessage, .countMessage, .bufferMessage, .pull 0, .finish 0, .release 0,
    .takeSlot, .takeMessage, .countMessage, .bufferMessage, .join, .closeBuffer, .dropBuffered,
    .takeSlot, .takeMessage, .countMessage, .abort, .leave, .bufferMessage]
  obtain ⟨q, run, hreturned, hstats, hlost⟩ : ∃ q, Reaches setup (new 0) labels q ∧
      q.subscription = .returned (.ok ()) ∧ q.stats = ⟨3, 0, 3, 3, 1⟩ ∧ q.pool.lost = 1 :=
    ⟨_, reaches_of_foldlM rfl, rfl, rfl, rfl⟩
  obtain ⟨-, -, -, -, -, hdelivered⟩ := overrun_le run
  exact ⟨q, hreturned, hstats, hlost, hdelivered _ hreturned⟩

/-- Two workers and a bound of two: one of them crashes over the first message while the other has
the second, and the third is counted on top of these. -/
theorem prefetch_exceeded :
    ∃ (setup : Setup (Scripted Bool) Nat) (labels : List Label) (q : Queue (Scripted Bool) Nat),
      Reaches setup (new 0) labels q ∧ q.subscription = .running ∧
      q.stats.prefetch < q.stats.inFlight ∧ q.stats.prefetch < q.stats.maxInFlight := by
  let setup : Setup (Scripted Bool) Nat :=
    ⟨1, .scripted (fun m => ⟨0, true, m.index = 0⟩) .failing, fun _ => .ok ()⟩
  let labels : List Label := [.publish [1], .publish [2], .publish [3], .endStream, .subscribe 2,
    .build, .build, .launch, .takeSlot, .takeMessage, .countMessage, .bufferMessage, .takeSlot,
    .takeMessage, .countMessage, .bufferMessage, .pull 0, .pull 1, .finish 0, .release 0, .takeSlot,
    .takeMessage, .countMessage]
  obtain ⟨q, run, hrunning, hstats⟩ : ∃ q, Reaches setup (new 0) labels q ∧
      q.subscription = .running ∧ q.stats = ⟨3, 0, 3, 3, 2⟩ :=
    ⟨_, reaches_of_foldlM rfl, rfl, rfl⟩
  exact ⟨setup, labels, q, run, hrunning, hstats ▸ by decide, hstats ▸ by decide⟩

end Queue

end JobLog.Broker
