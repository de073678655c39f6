import JobLog.Proofs.Queue.Flow

/-!
# Messages in flight

Where processing does not crash, and as long as no message has been lost on the way, the messages in
flight are exactly those that the pump, the buffer and the workers have and that are not
acknowledged yet. Each of them occupies a slot, so there were never more of them than slots:
`Counting`.
-/

namespace JobLog.Broker.Queue

variable {τ ω : Type} {setup : Setup τ ω} {q r : Queue τ ω}

/-- No message has been lost between the queue and the workers: the buffer is open, or nothing has
left the queue yet, or the workers end because the stream has come to its end. -/
def Intact (q : Queue τ ω) : Prop :=
  q.buffering = true ∨ q.pump = .absent ∨ q.stopped = false ∧ .ended false ∈ q.pool.workers

/-- The counters are exact as long as no message has been lost. -/
structure Counting (q : Queue τ ω) : Prop where
  whole : q.pool.Whole
  inFlight : q.Intact → q.stats.inFlight = q.outstanding
  bounded : q.Intact → q.stats.maxInFlight ≤ q.stats.prefetch

theorem counting_new (world : ω) : (new world : Queue τ ω).Counting :=
  ⟨Pool.whole_start 0 world, fun _ => rfl, fun _ => Nat.le_refl _⟩

/-- Every counted message that is not acknowledged occupies a slot. -/
theorem outstanding_le_held (q : Queue τ ω) : q.outstanding ≤ q.held := by
  have hpool := Pool.owing_le_holding q.pool
  have hpump : q.pump.hasCounted.toNat ≤ q.pump.holds.toNat := by
    cases q.pump <;> simp [Pump.hasCounted, Pump.holds]
  simp only [outstanding, held]
  omega

/-- A step of a worker leaves the counters exact. -/
theorem Counting.of_pool_moves (h : q.Counting) (hphase : q.InPhase setup)
    (hsteady : setup.processor.Steady) {label : Pool.Label}
    (hpool : Pool.Moves setup.processor q.pool label r.pool) (hpump : r.pump = q.pump)
    (hbuffer : r.buffer.length + label.takes = q.buffer.length)
    (hinFlight : r.stats.inFlight = q.stats.inFlight - label.settles)
    (hmax : r.stats.maxInFlight = q.stats.maxInFlight)
    (hprefetch : r.stats.prefetch = q.stats.prefetch) : r.Counting := by
  have hrunning := hphase.running_of_moves hpool
  simp only [InPhase, hrunning] at hphase
  have hintact : q.Intact := .inl hphase.2.2.1
  refine ⟨hpool.whole hsteady h.whole, fun _ => ?_, fun _ => ?_⟩
  · have hexact := h.inFlight hintact
    have howing := hpool.owing_eq hsteady
    simp only [outstanding, hpump] at hexact ⊢
    omega
  · rw [hmax, hprefetch]
    exact h.bounded hintact

/-- Another step leaves the counters exact if it loses no message and counts what it does. -/
theorem Counting.of_eq_pool (h : q.Counting) (hpool : r.pool = q.pool)
    (hintact : r.Intact → q.Intact ∧ (q.stats.inFlight = q.outstanding →
      q.stats.maxInFlight ≤ q.stats.prefetch →
        r.stats.inFlight = r.outstanding ∧ r.stats.maxInFlight ≤ r.stats.prefetch)) :
    r.Counting := by
  have hboth (hr : r.Intact) :
      r.stats.inFlight = r.outstanding ∧ r.stats.maxInFlight ≤ r.stats.prefetch := by
    obtain ⟨hq, hcount⟩ := hintact hr
    exact hcount (h.inFlight hq) (h.bounded hq)
  exact ⟨hpool ▸ h.whole, fun hr => (hboth hr).1, fun hr => (hboth hr).2⟩

/-- While the pump is busy, only an open buffer keeps all messages. -/
theorem Intact.of_busy_pump {all : List Message} (h : r.Intact) (hflowing : q.Flowing all)
    (hbusy : q.pump ≠ .finished) (hpresent : r.pump ≠ .absent) (hpool : r.pool = q.pool)
    (hbuffering : r.buffering = q.buffering) (hstopped : r.stopped = q.stopped) :
    q.buffering = true := by
  rcases h with hopen | habsent | ⟨hgoing, hended⟩
  · exact hbuffering ▸ hopen
  · exact absurd habsent hpresent
  · exact absurd (hflowing.ended (hstopped ▸ hgoing) (hpool ▸ hended)).1 hbusy

/-- Where processing does not crash, every step leaves the counters exact. -/
theorem Moves.counting {label : Label} {all : List Message} (hmove : Moves setup q label r)
    (hsteady : setup.processor.Steady) (hphase : q.InPhase setup) (hbalanced : q.Balanced)
    (hflowing : q.Flowing all) (h : q.Counting) : r.Counting := by
  cases hmove with
  | published | rejected | streamEnded | subscribed | refused | closed | closedAgain | built
  | buildFailed | joined | aborted | left | acceptingEnded | waited =>
      exact ⟨h.whole, h.inFlight, h.bounded⟩
  | stopped =>
      refine h.of_eq_pool rfl fun hr => ⟨?_, And.intro⟩
      rcases hr with hopen | habsent | ⟨hgoing, -⟩
      · exact .inl hopen
      · exact .inr (.inl habsent)
      · cases hgoing
  | slotTaken hpump | messageTaken hpump =>
      refine h.of_eq_pool rfl fun hr => ⟨.inl ?_, fun hcount hbound => ⟨?_, hbound⟩⟩
      · exact hr.of_busy_pump hflowing (by simp [hpump]) (by simp) rfl rfl rfl
      · simpa only [outstanding, hpump, Pump.hasCounted] using hcount
  | messageCounted hpump =>
      refine h.of_eq_pool rfl fun hr => ⟨.inl ?_, fun hcount hbound => ?_⟩
      · exact hr.of_busy_pump hflowing (by simp [hpump]) (by simp) rfl rfl rfl
      · have hslots := hbalanced.slots
        have hpool := Pool.owing_le_holding q.pool
        -- The message that is being counted has a slot of its own.
        simp only [outstanding, held, hpump, Pump.hasCounted, Pump.holds, Bool.toNat_true,
          Bool.toNat_false, Stats.recordDelivery] at hcount hslots ⊢
        omega
  | messageBuffered hpump hbuffering =>
      refine h.of_eq_pool rfl fun _ => ⟨.inl hbuffering, fun hcount hbound => ⟨?_, hbound⟩⟩
      simp only [outstanding, hpump, Pump.hasCounted, Bool.toNat_true, Bool.toNat_false,
        List.length_append, List.length_singleton] at hcount ⊢
      omega
  | messageLost hpump hbuffering =>
      refine h.of_eq_pool rfl fun hr => ?_
      have hopen := hr.of_busy_pump hflowing (by simp [hpump]) (by simp [stopPump]) rfl rfl rfl
      exact absurd hopen (by simp [hbuffering])
  | pumpEnded hpump =>
      refine h.of_eq_pool rfl fun hr => ⟨.inl ?_, fun hcount hbound => ⟨?_, hbound⟩⟩
      · exact hr.of_busy_pump hflowing (by simp [hpump]) (by simp [stopPump]) rfl rfl rfl
      · simpa only [outstanding, stopPump, hpump, Pump.hasCounted] using hcount
  | pumpCancelled haborted hpump =>
      refine h.of_eq_pool rfl fun hr => ?_
      have hopen := hr.of_busy_pump hflowing (by rcases hpump with hpump | hpump <;> simp [hpump])
        (by simp [stopPump]) rfl rfl rfl
      exact absurd hopen (by simp [hphase.buffering_of_aborted haborted])
  | delivered _ hbuffer hpool =>
      exact h.of_pool_moves hphase hsteady hpool rfl (by simp [hbuffer, Pool.Label.takes]) rfl rfl
        rfl
  | drained _ hpool | worked hpool | finished hpool | acknowledged hpool | released hpool =>
      exact h.of_pool_moves hphase hsteady hpool rfl rfl rfl rfl rfl
  | @launched workers next hbuilding =>
      simp only [InPhase, hbuilding] at hphase
      obtain ⟨⟨-, hclaimed, -, -, hbuffer, -, hstats, -⟩, -⟩ := hphase
      have hidle : (Pool.start workers q.pool.world : Pool τ ω).owing = 0 := by
        simp [Pool.owing, Pool.total, Pool.start, Worker.owes]
      rw [launch, hclaimed, if_neg (by decide)]
      refine ⟨Pool.whole_start _ _, fun _ => ?_, fun _ => ?_⟩
      · simp [outstanding, Pump.hasCounted, hbuffer, hidle, hstats, Stats.zero]
      · simp [hstats, Stats.zero]
  | bufferClosed hdropping hbuffering =>
      exact h.of_eq_pool rfl fun _ => ⟨.inl hbuffering, And.intro⟩
  | bufferedLost hdropping hbuffering hbuffer =>
      simp only [InPhase, hdropping] at hphase
      refine h.of_eq_pool rfl fun hr => ?_
      rcases hr with hopen | habsent | ⟨hgoing, hended⟩
      · exact absurd hopen (by simp [hbuffering])
      · exact absurd habsent hphase.1.1
      · exact absurd (hflowing.ended hgoing hended).2.1 (by simp [hbuffer])

/-- Where processing does not crash, the counters are exact in every state that a new broker can
reach without losing a message. -/
theorem Reaches.counting {world : ω} {labels : List Label} (hsteady : setup.processor.Steady)
    (run : Reaches setup (new world) labels q) : q.Counting := by
  induction run with
  | refl => exact counting_new world
  | step run move ih =>
      exact (moves_of_step move).counting hsteady run.phased.phase run.balanced run.flowing ih

end JobLog.Broker.Queue
