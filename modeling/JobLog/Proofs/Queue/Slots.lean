import JobLog.Proofs.Queue.Phases

/-!
# Slots and counters

A slot is either free or occupied, by the pump, by a buffered message or by a worker, and there are
as many as the prefetch bound says: `Balanced.slots`. The counters follow the messages: every
delivery that was counted is acknowledged or in flight, and whatever can still be acknowledged is in
flight. `Reaches.balanced` says that this holds in every state that a new broker can reach, also
when workers crash and when the broker is closed.
-/

namespace JobLog.Broker

/-- Whether the pump has a message that is counted. -/
def Pump.hasCounted : Pump → Bool
  | .counted _ => true
  | _ => false

namespace Queue

variable {τ ω : Type} {setup : Setup τ ω} {q r : Queue τ ω}

/-- How many slots are occupied. -/
def held (q : Queue τ ω) : Nat :=
  q.pump.holds.toNat + q.buffer.length + q.pool.holding

/-- How many counted messages may still be acknowledged. -/
def outstanding (q : Queue τ ω) : Nat :=
  q.pump.hasCounted.toNat + q.buffer.length + q.pool.owing

/-- Slots and counters agree with where the messages are. -/
structure Balanced (q : Queue τ ω) : Prop where
  slots : q.free + q.held = q.stats.prefetch
  delivered : q.stats.delivered = q.stats.acked + q.stats.inFlight
  outstanding_le : q.outstanding ≤ q.stats.inFlight
  acked : q.stats.acked = q.pool.acknowledged.length

theorem balanced_new (world : ω) : (new world : Queue τ ω).Balanced :=
  ⟨rfl, rfl, Nat.le_refl _, rfl⟩

/-- What a worker's step does to the pool leaves slots and counters in line, if it changes the
buffer, the counters and the free slots accordingly. -/
theorem Balanced.of_pool_moves (h : q.Balanced) {label : Pool.Label}
    (hpool : Pool.Moves setup.processor q.pool label r.pool) (hpump : r.pump = q.pump)
    (hbuffer : r.buffer.length + label.takes = q.buffer.length)
    (hfree : r.free = q.free + label.frees)
    (hacked : r.stats.acked = q.stats.acked + label.settles)
    (hinFlight : r.stats.inFlight = q.stats.inFlight - label.settles)
    (hdelivered : r.stats.delivered = q.stats.delivered)
    (hprefetch : r.stats.prefetch = q.stats.prefetch) : r.Balanced := by
  obtain ⟨hslots, hcounted, houtstanding, hlength⟩ := h
  have hholding := hpool.holding_eq
  have howing := hpool.owing_le
  simp only [held, outstanding] at hslots houtstanding
  -- An acknowledged message was in flight: the worker that acknowledges it owes the acknowledgment.
  constructor
  · simp only [held, hpump, hprefetch]
    omega
  · omega
  · simp only [outstanding, hpump]
    omega
  · rw [hacked, hlength, hpool.acknowledged_length]

/-- The pump gives back its slot when it stops. -/
theorem stopPump_slots (q : Queue τ ω) :
    q.stopPump.free + q.stopPump.held = q.free + q.held := by
  cases hpump : q.pump <;>
    simp only [stopPump, held, hpump, Pump.holds, Bool.toNat_true, Bool.toNat_false, if_true,
      Bool.false_eq_true, if_false] <;> omega

theorem Moves.balanced {label : Label} (hmove : Moves setup q label r) (hphase : q.InPhase setup)
    (h : q.Balanced) : r.Balanced := by
  obtain ⟨hslots, hcounted, houtstanding, hlength⟩ := h
  cases hmove with
  | slotTaken hpump hfree =>
      refine ⟨?_, hcounted, ?_, hlength⟩
      · simp only [held, hpump, Pump.holds, Bool.toNat_true, Bool.toNat_false] at hslots ⊢
        omega
      · simpa only [outstanding, hpump, Pump.hasCounted] using houtstanding
  | messageTaken hpump hwaiting =>
      refine ⟨?_, hcounted, ?_, hlength⟩
      · simpa only [held, hpump, Pump.holds] using hslots
      · simpa only [outstanding, hpump, Pump.hasCounted] using houtstanding
  | messageCounted hpump =>
      refine ⟨?_, ?_, ?_, hlength⟩
      · simpa only [held, hpump, Pump.holds, Stats.recordDelivery] using hslots
      · simp only [Stats.recordDelivery]
        omega
      · simp only [outstanding, hpump, Pump.hasCounted, Bool.toNat_true, Bool.toNat_false,
          Stats.recordDelivery] at houtstanding ⊢
        omega
  | messageBuffered hpump hbuffering =>
      refine ⟨?_, hcounted, ?_, hlength⟩
      · simp only [held, hpump, Pump.holds, Bool.toNat_true, Bool.toNat_false, List.length_append,
          List.length_singleton] at hslots ⊢
        omega
      · simp only [outstanding, hpump, Pump.hasCounted, Bool.toNat_true, Bool.toNat_false,
          List.length_append, List.length_singleton] at houtstanding ⊢
        omega
  | messageLost | pumpEnded | pumpCancelled =>
      -- The slot of a message that is lost is free again, but the message stays in flight.
      refine ⟨(stopPump_slots q).trans hslots, hcounted, ?_, hlength⟩
      simp only [outstanding, stopPump, Pump.hasCounted, Bool.toNat_false] at houtstanding ⊢
      omega
  | delivered hstopped hbuffer hpool =>
      exact Balanced.of_pool_moves ⟨hslots, hcounted, houtstanding, hlength⟩ hpool rfl
        (by simp [hbuffer, Pool.Label.takes]) rfl rfl rfl rfl rfl
  | drained _ hpool | worked hpool | finished hpool | acknowledged hpool | released hpool =>
      exact Balanced.of_pool_moves ⟨hslots, hcounted, houtstanding, hlength⟩ hpool rfl rfl rfl rfl
        rfl rfl rfl
  | launched hbuilding =>
      -- Before the launch nothing has been counted, and the new workers hold nothing.
      simp only [InPhase, hbuilding] at hphase
      obtain ⟨⟨-, hclaimed, -, -, hbuffer, -, hstats, -⟩, -⟩ := hphase
      rw [launch, hclaimed, if_neg (by decide)]
      have hidle (f : Worker τ → Nat) (hf : f .waiting = 0) (workers : Nat) :
          (Pool.start workers q.pool.world : Pool τ ω).total f = 0 := by
        simp [Pool.total, Pool.start, hf]
      constructor
      · simp only [held, Pump.holds, hbuffer, Pool.holding]
        rw [hidle _ rfl]
        rfl
      · simp only [hstats, Stats.zero]
      · simp only [outstanding, Pump.hasCounted, hbuffer, Pool.owing]
        rw [hidle _ rfl]
        exact Nat.zero_le _
      · simp only [hstats, Stats.zero, Pool.start, List.length_nil]
  | bufferedLost _ _ hbuffer =>
      refine ⟨?_, hcounted, ?_, hlength⟩
      · simp only [held, hbuffer, List.length_cons] at hslots ⊢
        omega
      · simp only [outstanding, hbuffer, List.length_cons] at houtstanding ⊢
        omega
  | _ => exact ⟨hslots, hcounted, houtstanding, hlength⟩

/-- Slots and counters agree with where the messages are, in every state that a new broker can
reach. -/
theorem Reaches.balanced {world : ω} {labels : List Label}
    (run : Reaches setup (new world) labels q) : q.Balanced := by
  have hboth : q.Phased setup ∧ q.Balanced :=
    run.invariant (P := fun q => q.Phased setup ∧ q.Balanced)
      ⟨phased_new world, balanced_new world⟩
      fun _ _ _ _ hmove h => ⟨hmove.phased h.1, hmove.balanced h.1.phase h.2⟩
  exact hboth.2

end Queue

end JobLog.Broker
