import JobLog.Proofs.Queue.Slots
import Mathlib.Algebra.GroupWithZero.Nat
import Mathlib.Order.WellFounded

/-!
# A broker left alone comes to rest

Calls from outside apart, a broker can take only finitely many steps: `terminates`. Every step
brings some activity closer to its end, which `Queue.ahead` counts, except for a step of a worker
inside a call. Those are bounded by what the processor has left, so the two numbers together
decrease lexicographically.
-/

namespace JobLog.Broker

/-- A bound on the steps of the pump until it stops or waits for a message, each message that it has
counted until it is acknowledged included. -/
def Pump.ahead : Pump → Nat
  | .taken _ => 8
  | .counted _ => 7
  | .seeking => 2
  | .holding => 1
  | .absent | .finished => 0

/-- A bound on the steps of a subscription, the start of its pump and workers included. -/
def Subscription.ahead : Subscription → Nat
  | .building workers next => (workers - next) + workers + 7
  | .running => 3
  | .dropping => 2
  | .leaving _ => 1
  | .absent | .returned _ => 0

/-- The steps of a call of `close`. -/
def Closing.ahead : Closing → Nat
  | .ending _ => 3
  | .stopping _ => 2
  | .waiting => 1
  | .returned => 0

namespace Queue

variable {τ ω : Type} {setup : Setup τ ω} {q r : Queue τ ω}

/-- A bound on the steps of a broker outside the calls of its processor. -/
def ahead (q : Queue τ ω) : Nat :=
  8 * q.waiting.length + q.pump.ahead + 4 * q.buffer.length + q.pool.ahead + q.buffering.toNat +
    q.subscription.ahead + (q.closings.map Closing.ahead).sum

/-- A step brings a broker closer to rest, outside the calls of its processor or inside. -/
def Closer (setup : Setup τ ω) (r q : Queue τ ω) : Prop :=
  r.ahead < q.ahead ∨ r.ahead = q.ahead ∧ r.pool.left setup.processor < q.pool.left setup.processor

theorem closer_of_pool_moves {label : Pool.Label}
    (hpool : Pool.Moves setup.processor q.pool label r.pool)
    (hbuffer : r.buffer.length + label.takes = q.buffer.length) (hwaiting : r.waiting = q.waiting)
    (hpump : r.pump = q.pump) (hbuffering : r.buffering = q.buffering)
    (hsubscription : r.subscription = q.subscription) (hclosings : r.closings = q.closings) :
    Closer setup r q := by
  simp only [Closer, ahead, hwaiting, hpump, hbuffering, hsubscription, hclosings]
  rcases hpool.ahead_lt with hlt | ⟨heq, htakes, hlt⟩
  · left
    omega
  · right
    exact ⟨by omega, hlt⟩

/-- Putting a call of `close` further lowers what is ahead of all of them. -/
theorem closings_ahead_lt {i : Nat} {c d : Closing} (hc : q.closings[i]? = some c)
    (hlt : d.ahead < c.ahead) :
    ((q.setClosing i d).closings.map Closing.ahead).sum < (q.closings.map Closing.ahead).sum := by
  have hsum := Pool.sum_map_set Closing.ahead d hc
  simp only [setClosing]
  omega

/-- Every step that is no call from outside brings the broker closer to rest. -/
theorem Moves.closer {label : Label} (hmove : Moves setup q label r)
    (hlabel : label.isCall = false) : Closer setup r q := by
  cases hmove with
  | published | rejected | streamEnded | subscribed | refused | closed | closedAgain =>
      cases hlabel
  | slotTaken hpump | messageTaken hpump hwaiting | messageCounted hpump =>
      left
      simp only [ahead, *, Pump.ahead, List.length_cons]
      omega
  | messageBuffered hpump =>
      left
      simp only [ahead, hpump, Pump.ahead, List.length_append, List.length_singleton]
      omega
  | messageLost hpump | pumpEnded hpump =>
      left
      simp only [ahead, stopPump, hpump, Pump.ahead]
      omega
  | pumpCancelled _ hpump =>
      left
      rcases hpump with hpump | hpump <;> simp only [ahead, stopPump, hpump, Pump.ahead] <;> omega
  | delivered _ hbuffer hpool =>
      exact closer_of_pool_moves hpool (by simp [hbuffer, Pool.Label.takes]) rfl rfl rfl rfl rfl
  | drained _ hpool | worked hpool | finished hpool | acknowledged hpool | released hpool =>
      exact closer_of_pool_moves hpool rfl rfl rfl rfl rfl rfl
  | built hbuilding | buildFailed hbuilding | joined hbuilding | aborted hbuilding
  | left hbuilding =>
      left
      simp only [ahead, hbuilding, Subscription.ahead]
      omega
  | @launched workers next hbuilding =>
      -- The subscription has paid in advance for the steps of its workers and of the pump.
      have hpool : (Pool.start workers q.pool.world : Pool τ ω).ahead = workers := by
        simp [Pool.ahead, Pool.total, Pool.start, Worker.ahead]
      left
      unfold launch
      split
      · simp only [ahead, hbuilding, Subscription.ahead]
        omega
      · simp only [ahead, hbuilding, Subscription.ahead, Pump.ahead, hpool, Bool.toNat_true]
        omega
  | bufferClosed _ hbuffering =>
      left
      simp only [ahead, hbuffering, Bool.toNat_true, Bool.toNat_false]
      omega
  | bufferedLost _ _ hbuffer =>
      left
      simp only [ahead, hbuffer, List.length_cons]
      omega
  | @acceptingEnded i waits hclosing =>
      have hlt := closings_ahead_lt (d := .stopping waits) hclosing (by simp [Closing.ahead])
      left
      exact Nat.add_lt_add_left hlt _
  | @stopped i waits hclosing =>
      have hlt := closings_ahead_lt (d := if waits then .waiting else .returned) hclosing
        (by cases waits <;> simp [Closing.ahead])
      left
      exact Nat.add_lt_add_left hlt _
  | @waited i hclosing =>
      have hlt := closings_ahead_lt (d := .returned) hclosing (by simp [Closing.ahead])
      left
      exact Nat.add_lt_add_left hlt _

/-- A broker cannot come closer to rest forever. -/
theorem closer_wellFounded (setup : Setup τ ω) : WellFounded (Closer setup) := by
  let rank (q : Queue τ ω) : Nat × Nat := (q.ahead, q.pool.left setup.processor)
  have hlex : WellFounded (Prod.Lex (· < ·) (· < ·) : Nat × Nat → Nat × Nat → Prop) :=
    WellFounded.prod_lex Nat.lt_wfRel.wf Nat.lt_wfRel.wf
  refine Subrelation.wf ?_ (InvImage.wf rank hlex)
  intro r q h
  rcases h with hlt | ⟨heq, hlt⟩
  · exact .left _ _ hlt
  · simp only [InvImage, rank, heq]
    exact .right _ hlt

/-- No schedule of a broker's tasks goes on forever. -/
def Terminates (setup : Setup τ ω) (q : Queue τ ω) : Prop :=
  ¬∃ (states : Nat → Queue τ ω) (labels : Nat → Label), states 0 = q ∧ ∀ k,
    (labels k).isCall = false ∧ (states k).step setup (labels k) = some (states (k + 1))

/-- Without calls from outside a broker comes to rest. -/
theorem terminates (setup : Setup τ ω) (q : Queue τ ω) : q.Terminates setup := by
  rintro ⟨states, labels, -, hsteps⟩
  -- One of the states would be the closest to rest, but the next one is closer.
  obtain ⟨_, ⟨k, rfl⟩, hmin⟩ :=
    (closer_wellFounded setup).has_min (Set.range states) ⟨_, 0, rfl⟩
  exact hmin (states (k + 1)) ⟨k + 1, rfl⟩
    ((moves_of_step (hsteps k).2).closer (hsteps k).1)

end Queue

end JobLog.Broker
