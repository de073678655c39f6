import JobLog.Proofs.Metrics.Sketches
import Mathlib.Data.List.Induction

/-!
# Reading metrics changes nothing that is read later

Metrics are used by recording durations and failures and by reading numbers, and whoever reads a
number folds in the durations that wait. `Histogram.Gathers` says what a histogram has gathered,
wherever it was read on the way, so that every number that is read is that of what was recorded:
`snapshots_transparent`.
-/

namespace JobLog.Metrics

/-! ## Histograms -/

namespace Histogram

variable {α : Type} {holds : Sketch α → List Nat → Prop} {h : Histogram α}
  {samples others : List Nat}

/-- What holds of a sketch and its durations holds of those that were folded in; the others wait. -/
def Gathers (holds : Sketch α → List Nat → Prop) (h : Histogram α) (samples : List Nat) : Prop :=
  ∃ folded, holds h.sketch folded ∧ samples.Perm (folded ++ h.waiting)

theorem gathers_empty [Seconds α] (htracked : Sketch.Tracked holds) :
    (empty : Histogram α).Gathers holds [] :=
  ⟨[], htracked.empty, .nil⟩

/-- A duration that is recorded is gathered. -/
theorem Gathers.record (hgathers : h.Gathers holds samples) (nanos : Nat) :
    (h.record nanos).Gathers holds (samples ++ [nanos]) := by
  obtain ⟨folded, hholds, hperm⟩ := hgathers
  refine ⟨folded, hholds, (List.perm_append_singleton nanos samples).trans ?_⟩
  exact (hperm.cons nanos).trans List.perm_middle.symm

/-- Folding in what waits keeps all that was gathered. -/
theorem Gathers.settled [Seconds α] (htracked : Sketch.Tracked holds)
    (hgathers : h.Gathers holds samples) : h.settle.Gathers holds samples := by
  obtain ⟨folded, hholds, hperm⟩ := hgathers
  have horder : (foldingOrder h.waiting.reverse).Perm h.waiting :=
    (foldingOrder_perm _).trans (List.reverse_perm _)
  refine ⟨_, htracked.foldl_add hholds (foldingOrder h.waiting.reverse), hperm.trans ?_⟩
  rw [settle, List.append_nil]
  exact List.perm_append_comm.trans (horder.symm.append_right folded)

/-- Whoever looks finds a sketch of all that was gathered. -/
theorem Gathers.sketch [Seconds α] (htracked : Sketch.Tracked holds)
    (hgathers : h.Gathers holds samples) : holds h.settle.sketch samples := by
  obtain ⟨folded, hholds, hperm⟩ := hgathers.settled htracked
  rw [settle, List.append_nil] at hperm
  exact htracked.perm hholds hperm.symm

end Histogram

/-! ## Operations -/

/-- The two things that are timed and can fail. -/
inductive Timed where
  | processing
  | publishing
  deriving DecidableEq, Repr

/-- What is done with metrics: recording durations and failures, and reading numbers. -/
inductive Operation where
  | time (what : Timed) (nanos : Nat)
  | fail (what : Timed)
  /-- The number of durations is read. -/
  | count (what : Timed)
  /-- The number of failures is read. -/
  | countFailures (what : Timed)
  | snapshot (clock : Nat)
  /-- All metrics are logged. -/
  | report (clock : Nat)
  deriving DecidableEq, Repr

section Operations

variable {α : Type} [Seconds α]

def histogram (m : Metrics α) : Timed → Histogram α
  | .processing => m.processing
  | .publishing => m.publishing

def failures (m : Metrics α) : Timed → Nat
  | .processing => m.processingFailures
  | .publishing => m.publishFailures

/-- The number of durations, and the metrics after counting them. -/
def countOf (m : Metrics α) : Timed → Nat × Metrics α
  | .processing => m.processed
  | .publishing => m.published

/-- All that waits is folded in. -/
def settled (m : Metrics α) : Metrics α :=
  { m with processing := m.processing.settle, publishing := m.publishing.settle }

/-- What an operation does to the metrics. -/
def Operation.perform (m : Metrics α) : Operation → Metrics α
  | .time .processing nanos => m.recordProcessing nanos
  | .time .publishing nanos => m.recordPublish nanos
  | .fail .processing => m.markProcessingFailed
  | .fail .publishing => m.markPublishFailed
  | .count what => (m.countOf what).2
  | .countFailures _ => m
  | .snapshot _ => m.settled
  | .report _ => { m.settled with flushes := m.flushes + 1 }

/-- The metrics after some operations, if counting began at a time of the clock. -/
def after (clock : Nat) (operations : List Operation) : Metrics α :=
  operations.foldl Operation.perform (new clock)

/-- The duration that an operation records. -/
def Operation.time? (what : Timed) : Operation → Option Nat
  | .time timed nanos => if timed = what then some nanos else none
  | _ => none

/-- The durations that some operations record. -/
def times (what : Timed) (operations : List Operation) : List Nat :=
  operations.filterMap (Operation.time? what)

/-- The metrics have gathered what some operations have recorded. -/
structure Follows (holds : Sketch α → List Nat → Prop) (m : Metrics α)
    (operations : List Operation) : Prop where
  gathers : ∀ what, (m.histogram what).Gathers holds (times what operations)
  failures_eq : ∀ what, m.failures what = operations.count (.fail what)

variable {holds : Sketch α → List Nat → Prop} {m : Metrics α} {operations : List Operation}

theorem follows_new (htracked : Sketch.Tracked holds) (clock : Nat) :
    (new clock : Metrics α).Follows holds [] where
  gathers what := by cases what <;> exact Histogram.gathers_empty htracked
  failures_eq what := by cases what <;> rfl

/-- An operation records a duration in a histogram, or it leaves it alone or folds in what waits. -/
theorem histogram_perform (m : Metrics α) (operation : Operation) (what : Timed) :
    (∃ nanos, operation.time? what = some nanos ∧
      (operation.perform m).histogram what = (m.histogram what).record nanos) ∨
    operation.time? what = none ∧
      ((operation.perform m).histogram what = m.histogram what ∨
        (operation.perform m).histogram what = (m.histogram what).settle) := by
  cases operation with
  | time timed nanos =>
      cases timed <;> cases what
      · exact .inl ⟨nanos, rfl, rfl⟩
      · exact .inr ⟨rfl, .inl rfl⟩
      · exact .inr ⟨rfl, .inl rfl⟩
      · exact .inl ⟨nanos, rfl, rfl⟩
  | fail timed => cases timed <;> cases what <;> exact .inr ⟨rfl, .inl rfl⟩
  | count timed =>
      cases timed <;> cases what
      · exact .inr ⟨rfl, .inr rfl⟩
      · exact .inr ⟨rfl, .inl rfl⟩
      · exact .inr ⟨rfl, .inl rfl⟩
      · exact .inr ⟨rfl, .inr rfl⟩
  | countFailures => exact .inr ⟨rfl, .inl rfl⟩
  | snapshot | report => cases what <;> exact .inr ⟨rfl, .inr rfl⟩

/-- Only marking a failure counts as one. -/
theorem failures_perform (m : Metrics α) (operation : Operation) (what : Timed) :
    (operation.perform m).failures what =
      m.failures what + if operation = .fail what then 1 else 0 := by
  cases operation with
  | fail timed => cases timed <;> cases what <;> rfl
  | time timed | count timed => cases timed <;> cases what <;> rfl
  | countFailures | snapshot | report => cases what <;> rfl

/-- Every operation is followed. -/
theorem Follows.perform (htracked : Sketch.Tracked holds) (h : m.Follows holds operations)
    (operation : Operation) : (operation.perform m).Follows holds (operations ++ [operation]) where
  gathers what := by
    have hbefore := h.gathers what
    rw [times, List.filterMap_append]
    rcases histogram_perform m operation what with ⟨nanos, htime, hafter⟩ | ⟨htime, hafter⟩
    · rw [hafter, List.filterMap_cons_some htime]
      exact hbefore.record nanos
    · rw [List.filterMap_cons_none htime, List.filterMap_nil, List.append_nil]
      rcases hafter with hafter | hafter <;> rw [hafter]
      · exact hbefore
      · exact hbefore.settled htracked
  failures_eq what := by
    rw [failures_perform, h.failures_eq, List.count_append, List.count_singleton]
    simp only [beq_iff_eq]

theorem follows_after (htracked : Sketch.Tracked holds) (clock : Nat) (operations : List Operation) :
    (after clock operations : Metrics α).Follows holds operations := by
  induction operations using List.reverseRecOn with
  | nil => exact follows_new htracked clock
  | append_singleton operations operation ih =>
      rw [after, List.foldl_append]
      exact ih.perform htracked operation

end Operations

/-! ## Readings -/

/-- The number of values of a metric. -/
def Snapshot.count (s : Snapshot) : Nat :=
  match s.reading with
  | .counter count _ => count
  | .histogram distribution _ => distribution.count

/-- The distribution that a reading tells, if it is one of a histogram. -/
def Snapshot.distribution? (s : Snapshot) : Option Distribution :=
  match s.reading with
  | .counter .. => none
  | .histogram distribution _ => some distribution

/-- Whoever reads a number reads that of what was recorded in some operations. -/
structure Tells (m : Metrics) (operations : List Operation) : Prop where
  count : ∀ what, (m.countOf what).1 = (times what operations).length
  countFailures : ∀ what, m.failures what = operations.count (.fail what)
  snapshot_counts : ∀ clock, (m.snapshot clock).1.map (fun s => (s.kind, s.count)) =
    [(.processing, (times .processing operations).length),
      (.processingFailures, operations.count (.fail .processing)),
      (.publishing, (times .publishing operations).length),
      (.publishFailures, operations.count (.fail .publishing))]
  snapshot_distributions : ∀ clock, (m.snapshot clock).1.filterMap Snapshot.distribution? =
    [m.processing.settle.sketch.distribution, m.publishing.settle.sketch.distribution]
  report : ∀ clock, (m.report clock).1 = (m.snapshot clock).1
  snapshot_perform : ∀ clock, (m.snapshot clock).2 = Operation.perform m (.snapshot clock)
  report_perform : ∀ clock, (m.report clock).2.2 = Operation.perform m (.report clock)

theorem Follows.tells {m : Metrics} {operations : List Operation}
    (h : m.Follows Sketch.Summarizes operations) : m.Tells operations := by
  have hsketch (what : Timed) := (h.gathers what).sketch Sketch.tracked_summarizes
  have hprocessed : m.processing.settle.sketch.count = (times .processing operations).length :=
    (hsketch .processing).count_eq
  have hpublished : m.publishing.settle.sketch.count = (times .publishing operations).length :=
    (hsketch .publishing).count_eq
  have hfailed : m.processingFailures = operations.count (.fail .processing) :=
    h.failures_eq .processing
  have hunpublished : m.publishFailures = operations.count (.fail .publishing) :=
    h.failures_eq .publishing
  refine ⟨fun what => ?_, h.failures_eq, fun clock => ?_, fun clock => rfl, fun clock => rfl,
    fun clock => rfl, fun clock => rfl⟩
  · cases what with
    | processing => exact hprocessed
    | publishing => exact hpublished
  · show [(Kind.processing, m.processing.settle.sketch.distribution.count),
        (Kind.processingFailures, m.processingFailures),
        (Kind.publishing, m.publishing.settle.sketch.distribution.count),
        (Kind.publishFailures, m.publishFailures)] = _
    rw [Sketch.distribution_count, Sketch.distribution_count, hprocessed, hpublished, hfailed,
      hunpublished]

/-- The metrics after some operations with what was recorded: every number that is read, now or
later, is that of the records made so far, and the sketch that is read holds all durations, without
rounding also their sums. -/
structure Faithful (clock : Nat) (operations : List Operation) : Prop where
  tells : (after clock operations : Metrics).Tells operations
  summarizes : ∀ what, ((after clock operations : Metrics).histogram what).settle.sketch.Summarizes
    (times what operations)
  exact_summarizes : ∀ what,
    ((after clock operations : Metrics ℚ).histogram what).settle.sketch.Summarizes
      (times what operations)
  exact_sums : ∀ what, ((after clock operations : Metrics ℚ).histogram what).settle.sketch.Sums
    (times what operations)

/-- What is read of a histogram is the same after either of two sequences of operations: counts,
bounds and quantiles, and without rounding all of its sketch. -/
structure SameReadings (clock other : Nat) (operations others : List Operation) (what : Timed) :
    Prop where
  withoutSums_eq : ((after clock operations : Metrics).histogram what).settle.sketch.withoutSums =
    ((after other others : Metrics).histogram what).settle.sketch.withoutSums
  withoutMoments_eq :
    ((after clock operations : Metrics).histogram what).settle.sketch.distribution.withoutMoments =
      ((after other others : Metrics).histogram what).settle.sketch.distribution.withoutMoments
  exact_eq : ((after clock operations : Metrics ℚ).histogram what).settle.sketch =
    ((after other others : Metrics ℚ).histogram what).settle.sketch

theorem faithful (clock : Nat) (operations : List Operation) : Faithful clock operations where
  tells := (follows_after Sketch.tracked_summarizes clock operations).tells
  summarizes what := ((follows_after Sketch.tracked_summarizes clock operations).gathers what).sketch
    Sketch.tracked_summarizes
  exact_summarizes what :=
    ((follows_after Sketch.tracked_summarizes clock operations).gathers what).sketch
      Sketch.tracked_summarizes
  exact_sums what := ((follows_after Sketch.tracked_sums clock operations).gathers what).sketch
    Sketch.tracked_sums

/-- Whatever is recorded and whenever somebody reads, by counting, by a snapshot or by a report: what
is read is exact, and it depends only on which durations were recorded how often, and neither on
their order nor on who has read before. -/
theorem snapshots_transparent (clock : Nat) (operations : List Operation) :
    Faithful clock operations ∧ ∀ other others what,
      (times what operations).Perm (times what others) →
      SameReadings clock other operations others what := by
  refine ⟨faithful clock operations, fun other others what hperm => ?_⟩
  have hone := faithful clock operations
  have htwo := faithful other others
  have hsame := ((hone.summarizes what).perm hperm).unique (htwo.summarizes what)
  have hexact := ((hone.exact_summarizes what).perm hperm).unique (htwo.exact_summarizes what)
  exact ⟨hsame, Sketch.withoutMoments_distribution hsame,
    ((hone.exact_sums what).perm hperm).unique (htwo.exact_sums what) hexact⟩

/-- Two parts that were handled, once with readings in between and once the other way round without
any. -/
theorem snapshots_transparent_two :
    ∃ operations others : List Operation, times .processing operations = [2000000000, 1] ∧
      ((after 0 operations : Metrics).processed.1 = 2) ∧
      SameReadings 0 5 operations others .processing := by
  let operations : List Operation := [.time .processing 2000000000, .snapshot 3,
    .fail .publishing, .time .processing 1, .count .processing, .report 4]
  let others : List Operation := [.time .processing 1, .time .processing 2000000000]
  obtain ⟨hfaithful, hsame⟩ := snapshots_transparent 0 operations
  exact ⟨operations, others, rfl, hfaithful.tells.count .processing,
    hsame 5 others .processing (List.Perm.swap _ _ _)⟩

end JobLog.Metrics
