import JobLog.Proofs.Pool.Ledger
import JobLog.Proofs.Queue.Slots
import Mathlib.Algebra.Order.BigOperators.Group.List
import Mathlib.Algebra.Order.Group.Nat

/-!
# The way of the messages

Messages pass from the queue through the pump and the buffer to the workers without overtaking each
other, so what the workers have taken is a prefix of what was published: `Flowing`. Nothing is lost
on the way before the workers' end of the buffer is closed, and nothing at all if the workers end
because the stream does. Where processing does not crash, as long as nothing is lost exactly the
counted messages that are not acknowledged yet are in flight, and they never exceed the prefetch
bound: `Counting`.
-/

namespace JobLog.Broker

namespace Pool

variable {τ ω : Type} {processor : Processor τ ω} {p r : Pool τ ω}

/-- A worker ends without a crash only when the stream has no message for it. -/
theorem Moves.ended_mem {label : Label} (hmove : Moves processor p label r)
    (hended : .ended false ∈ r.workers) :
    .ended false ∈ p.workers ∨ ∃ i item, label = .pull i item ∧ ∀ m, item ≠ .delivery m := by
  have hold {i : Nat} {v : Worker τ} (hput : .ended false ∈ p.workers.set i v)
      (hv : v ≠ .ended false) : .ended false ∈ p.workers :=
    (List.mem_or_eq_of_mem_set hput).resolve_right hv.symm
  cases hmove with
  | refused _ hitem => exact .inr ⟨_, _, rfl, hitem⟩
  | taken | worked | returned | crashed | acknowledged => exact .inl (hold hended nofun)
  | @released i m lost _ =>
      cases lost with
      | true | false => exact .inl (hold hended (by simp))

/-- Whoever owes an acknowledgment occupies a slot. -/
theorem owing_le_holding (p : Pool τ ω) : p.owing ≤ p.holding :=
  List.sum_le_sum fun w _ => by cases w <;> simp [Worker.owes, Worker.holds]

/-- Where processing does not crash, every message that was taken is owed until it is
acknowledged. -/
theorem Moves.owing_eq {label : Label} (hmove : Moves processor p label r)
    (hsteady : processor.Steady) : r.owing + label.settles = p.owing + label.takes := by
  cases hmove with
  | taken h => exact total_put _ _ h
  | @refused i item h hitem =>
      cases item with
      | delivery m => exact absurd rfl (hitem m)
      | failure | finished => exact total_put _ _ h
  | worked h | returned h => exact Nat.add_right_cancel (m := 1) (total_put _ _ h)
  | crashed _ hcrash => exact absurd hcrash (hsteady _)
  | acknowledged h => exact total_put _ _ h
  | @released i m lost h => cases lost <;> exact total_put _ _ h

end Pool

namespace Queue

variable {τ ω : Type} {setup : Setup τ ω} {q r : Queue τ ω}

/-! ## Published messages -/

/-- The message that a step adds to the queue. -/
def sends (q : Queue τ ω) : Label → List Message
  | .publish body =>
    if q.accepting = true ∧ q.pump ≠ .finished then [⟨q.published, body⟩] else []
  | _ => []

/-- The messages that a sequence of steps adds to the queue, in their order. -/
def sent (setup : Setup τ ω) (q : Queue τ ω) : List Label → List Message
  | [] => []
  | label :: labels =>
    q.sends label ++
      match q.step setup label with
      | some r => r.sent setup labels
      | none => []

/-- What a run adds is what its parts add. -/
theorem Reaches.sent_append {labels : List Label} (run : Reaches setup q labels r)
    (others : List Label) :
    q.sent setup (labels ++ others) = q.sent setup labels ++ r.sent setup others := by
  induction labels generalizing q with
  | nil => rw [reaches_nil_iff.1 run, List.nil_append, sent, List.nil_append]
  | cons label labels ih =>
      obtain ⟨s, hfirst, hrest⟩ := reaches_cons_iff.1 run
      simp only [List.cons_append, sent, hfirst, ih hrest, List.append_assoc]

/-- A step adds its message after those of the run before it. -/
theorem Reaches.sent_concat {labels : List Label} (run : Reaches setup q labels r)
    (label : Label) : q.sent setup (labels ++ [label]) = q.sent setup labels ++ r.sends label := by
  rw [run.sent_append]
  simp only [sent]
  split <;> rw [List.append_nil]

/-- The messages that a run adds are numbered one after another. -/
theorem Reaches.sent_index {world : ω} {labels : List Label}
    (run : Reaches setup (new world) labels q) :
    ((new world).sent setup labels).map Message.index = List.range q.published := by
  induction run with
  | refl => rfl
  | @step b c labels label run move ih =>
      rw [run.sent_concat, List.map_append, ih]
      cases moves_of_step move with
      | published haccepting hpump =>
          simp [sends, haccepting, hpump, List.range_succ]
      | rejected hclosed => simp [sends, hclosed]
      | launched =>
          unfold launch
          split <;> simp [sends]
      | _ => simp [sends, endStream, stopPump, setClosing]

/-! ## Order -/

/-- What a broker's parts hold of the published messages `all`. -/
structure Flowing (all : List Message) (q : Queue τ ω) : Prop where
  taken : q.pool.pulled.map Prod.snd <+: all
  whole : q.buffering = true ∨ q.pump = .absent →
    q.pool.pulled.map Prod.snd ++ q.buffer ++ q.pump.message?.toList ++ q.waiting = all
  exhausted : q.pump = .finished → q.buffering = true → q.accepting = false ∧ q.waiting = []
  ended : q.stopped = false → .ended false ∈ q.pool.workers →
    q.pump = .finished ∧ q.buffer = [] ∧ q.pool.pulled.map Prod.snd = all

theorem flowing_new (world : ω) : (new world : Queue τ ω).Flowing [] :=
  ⟨List.prefix_rfl, fun _ => rfl, nofun, nofun⟩

/-- Publishing adds a message at the end of the queue. -/
theorem Flowing.publish {all : List Message} {body : List UInt8} (h : q.Flowing all)
    (hmove : Moves setup q (.publish body) r) : r.Flowing (all ++ q.sends (.publish body)) := by
  cases hmove with
  | published haccepting hpump =>
      simp only [sends, haccepting, hpump, ne_eq, not_false_eq_true, and_self, if_true]
      refine ⟨h.taken.trans (List.prefix_append _ _), fun hopen => ?_, fun hfinished => ?_,
        fun hstopped hended => ?_⟩
      · rw [← h.whole hopen, List.append_assoc _ q.waiting]
      · exact absurd hfinished hpump
      · exact absurd (h.ended hstopped hended).1 hpump
  | rejected hclosed =>
      rw [sends, if_neg hclosed, List.append_nil]
      exact h

/-- A step of a worker takes the first message of the buffer or none; a worker ends without a crash
only when the stream is stopped or has come to its end. -/
theorem Flowing.of_pool_moves {all : List Message} (h : q.Flowing all) (hphase : q.InPhase setup)
    {label : Pool.Label} (hpool : Pool.Moves setup.processor q.pool label r.pool)
    (hbuffer : q.buffer = label.message?.toList ++ r.buffer) (hwaiting : r.waiting = q.waiting)
    (hpump : r.pump = q.pump) (hbuffering : r.buffering = q.buffering)
    (haccepting : r.accepting = q.accepting) (hstopped : r.stopped = q.stopped)
    (hend : ∀ {i : Nat} {item : Item}, label = .pull i item → (∀ m, item ≠ .delivery m) →
      q.stopped = true ∨ q.buffer = [] ∧ q.pump = .finished) : r.Flowing all := by
  have hrunning := hphase.running_of_moves hpool
  simp only [InPhase, hrunning] at hphase
  have hopen : q.buffering = true := hphase.2.2.1
  have hwhole : r.pool.pulled.map Prod.snd ++ r.buffer ++ r.pump.message?.toList ++ r.waiting =
      all := by
    rw [← h.whole (.inl hopen), hpool.pulled_eq, hbuffer, hpump, hwaiting]
    simp only [List.append_assoc]
  refine ⟨?_, fun _ => hwhole, ?_, fun hgoing hended => ?_⟩
  · rw [← hwhole]
    simp only [List.append_assoc, List.prefix_append]
  · rw [hpump, hbuffering, haccepting, hwaiting]
    exact h.exhausted
  · rw [hstopped] at hgoing
    have hdone : q.buffer = [] ∧ q.pump = .finished := by
      rcases hpool.ended_mem hended with hended | ⟨i, item, rfl, hitem⟩
      · obtain ⟨hfinished, hempty, -⟩ := h.ended hgoing hended
        exact ⟨hempty, hfinished⟩
      · exact (hend rfl hitem).resolve_left (by simp [hgoing])
    have hempty : r.buffer = [] := (List.append_eq_nil_iff.1 (hbuffer ▸ hdone.1)).2
    refine ⟨hpump.trans hdone.2, hempty, ?_⟩
    rw [← hwhole, hempty, hpump, hdone.2, hwaiting, (h.exhausted hdone.2 hopen).2]
    simp [Pump.message?]

/-- A step of the pump while its way to the buffer is open passes a message on. -/
theorem Flowing.of_pump_moves {all : List Message} (h : q.Flowing all)
    (hbusy : q.pump ≠ .finished) (hpool : r.pool = q.pool) (hstopped : r.stopped = q.stopped)
    (hexhausted : r.pump = .finished → r.buffering = true → r.accepting = false ∧ r.waiting = [])
    (hwhole : r.buffering = true ∨ r.pump = .absent → (q.buffering = true ∨ q.pump = .absent) ∧
      r.buffer ++ r.pump.message?.toList ++ r.waiting =
        q.buffer ++ q.pump.message?.toList ++ q.waiting) : r.Flowing all := by
  refine ⟨hpool ▸ h.taken, fun hopen => ?_, hexhausted, fun hgoing hended => ?_⟩
  · obtain ⟨hbefore, hsame⟩ := hwhole hopen
    simp only [← h.whole hbefore, hpool, List.append_assoc] at hsame ⊢
    rw [hsame]
  · rw [hpool] at hended
    exact absurd (h.ended (hstopped ▸ hgoing) hended).1 hbusy

/-- The pump is not told to stop before the buffer is closed. -/
theorem InPhase.buffering_of_aborted (h : q.InPhase setup) (haborted : q.aborted = true) :
    q.buffering = false := by
  unfold InPhase at h
  split at h
  · exact h.1.2.2.1
  · exact h.1.2.2.1
  · exact absurd h.2.2.2 (by simp [haborted])
  · exact absurd h.2.2.2 (by simp [haborted])
  · exact h.2.2.2.1
  · exact h.1.2.2.1
  · exact h.2.2.2.1
  · exact h.1.2.2.1

/-- Steps that publish nothing keep the order of the messages. -/
theorem Flowing.move {label : Label} {all : List Message} (h : q.Flowing all)
    (hphase : q.InPhase setup) (hmove : Moves setup q label r)
    (hlabel : ∀ body, label ≠ .publish body) : r.Flowing all := by
  cases hmove with
  | published | rejected => exact absurd rfl (hlabel _)
  | streamEnded | acceptingEnded =>
      exact ⟨h.taken, h.whole, fun hf hb => ⟨rfl, (h.exhausted hf hb).2⟩, h.ended⟩
  | subscribed | refused | closed | closedAgain | built | buildFailed | joined | aborted | left
  | waited => exact ⟨h.taken, h.whole, h.exhausted, h.ended⟩
  | stopped => exact ⟨h.taken, h.whole, h.exhausted, by simp⟩
  | slotTaken hpump | messageCounted hpump =>
      refine h.of_pump_moves (by simp [hpump]) rfl rfl (by simp) fun hopen =>
        ⟨hopen.imp_right (by simp), ?_⟩
      simp [hpump, Pump.message?]
  | messageTaken hpump hwaiting =>
      refine h.of_pump_moves (by simp [hpump]) rfl rfl (by simp) fun hopen =>
        ⟨hopen.imp_right (by simp), ?_⟩
      simp [hpump, hwaiting, Pump.message?]
  | messageBuffered hpump =>
      refine h.of_pump_moves (by simp [hpump]) rfl rfl (by simp) fun hopen =>
        ⟨hopen.imp_right (by simp), ?_⟩
      simp [hpump, Pump.message?]
  | messageLost hpump hbuffering =>
      -- Once the buffer is closed, only what the workers have taken is spoken of.
      have hclosed : q.buffering ≠ true := by simp [hbuffering]
      exact h.of_pump_moves (by simp [hpump]) rfl rfl (fun _ hopen => absurd hopen hclosed)
        fun hopen => absurd (hopen.resolve_right (by simp [stopPump])) hclosed
  | pumpEnded hpump hwaiting haccepting =>
      refine h.of_pump_moves (by simp [hpump]) rfl rfl (fun _ _ => ⟨haccepting, hwaiting⟩)
        fun hopen => ⟨hopen.imp_right (by simp [stopPump]), ?_⟩
      simp [stopPump, hpump, Pump.message?]
  | pumpCancelled haborted hpump =>
      have hclosed : q.buffering ≠ true := by simp [hphase.buffering_of_aborted haborted]
      exact h.of_pump_moves (by rcases hpump with hpump | hpump <;> simp [hpump]) rfl rfl
        (fun _ hopen => absurd hopen hclosed)
        fun hopen => absurd (hopen.resolve_right (by simp [stopPump])) hclosed
  | delivered hstopped hbuffer hpool =>
      refine h.of_pool_moves hphase hpool hbuffer rfl rfl rfl rfl rfl ?_
      rintro i item hitem hnone
      cases hitem
      exact absurd rfl (hnone _)
  | drained hend hpool =>
      exact h.of_pool_moves hphase hpool rfl rfl rfl rfl rfl rfl fun _ _ => hend
  | worked hpool | finished hpool | acknowledged hpool | released hpool =>
      exact h.of_pool_moves hphase hpool rfl rfl rfl rfl rfl rfl (by simp)
  | @launched workers next hbuilding =>
      simp only [InPhase, hbuilding] at hphase
      obtain ⟨⟨habsent, hclaimed, -, -, hbuffer, -, -, -, hpulled, -⟩, -⟩ := hphase
      have hwhole := h.whole (.inr habsent)
      simp only [hpulled, hbuffer, habsent, Pump.message?, List.map_nil, Option.toList_none,
        List.nil_append] at hwhole
      rw [launch, hclaimed, if_neg (by decide)]
      refine ⟨List.nil_prefix, fun _ => ?_, by simp, fun _ hended => ?_⟩
      · simp [Pool.start, Pump.message?, hbuffer, hwhole]
      · exact absurd (List.mem_replicate.1 hended).2 (by simp)
  | bufferClosed hdropping =>
      simp only [InPhase, hdropping] at hphase
      exact ⟨h.taken, fun hopen => absurd (hopen.resolve_left (by simp)) hphase.1.1, by simp,
        h.ended⟩
  | bufferedLost hdropping hbuffering hbuffer =>
      simp only [InPhase, hdropping] at hphase
      have hclosed : q.buffering ≠ true := by simp [hbuffering]
      refine ⟨h.taken, fun hopen => absurd (hopen.resolve_left hclosed) hphase.1.1,
        fun _ hopen => absurd hopen hclosed, fun hgoing hended => ?_⟩
      exact absurd (h.ended hgoing hended).2.1 (by simp [hbuffer])

/-- Every step of a broker keeps the order of the messages. -/
theorem Moves.flowing {label : Label} {all : List Message} (hmove : Moves setup q label r)
    (hphase : q.InPhase setup) (h : q.Flowing all) : r.Flowing (all ++ q.sends label) := by
  cases label with
  | publish body => exact h.publish hmove
  | _ =>
      rw [sends, List.append_nil]
      · exact h.move hphase hmove nofun
      · nofun

/-- In every state that a new broker can reach, the workers have taken the first of the published
messages, in their order. -/
theorem Reaches.flowing {world : ω} {labels : List Label}
    (run : Reaches setup (new world) labels q) :
    q.Flowing ((new world).sent setup labels) := by
  induction run with
  | refl => exact flowing_new world
  | step run move ih =>
      rw [run.sent_concat]
      exact (moves_of_step move).flowing run.phased.phase ih

end Queue

end JobLog.Broker
