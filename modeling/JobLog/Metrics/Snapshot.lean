import JobLog.Metrics.Histogram
import JobLog.Event

/-!
# Metrics

Two operations are measured: the handling of a log part and the announcement inside it. Each has a
histogram of the time it takes and a counter of its failures. Reading a number folds in the
durations that wait, which changes no number. `Metrics.report` logs all four and counts as a flush.
-/

namespace JobLog

/-- The numbers that all workers share; `started` is the clock when counting began. -/
structure Metrics (α : Type := Float) where
  processing : Metrics.Histogram α
  processingFailures : Nat
  publishing : Metrics.Histogram α
  publishFailures : Nat
  started : Nat
  flushes : Nat

namespace Metrics

variable {α : Type} [Seconds α]

/-- Nothing has been measured; `clock` is the time in nanoseconds. -/
def new (clock : Nat) : Metrics α :=
  ⟨.empty, 0, .empty, 0, clock, 0⟩

def recordProcessing (m : Metrics α) (nanos : Nat) : Metrics α :=
  { m with processing := m.processing.record nanos }

def recordPublish (m : Metrics α) (nanos : Nat) : Metrics α :=
  { m with publishing := m.publishing.record nanos }

def markProcessingFailed (m : Metrics α) : Metrics α :=
  { m with processingFailures := m.processingFailures + 1 }

def markPublishFailed (m : Metrics α) : Metrics α :=
  { m with publishFailures := m.publishFailures + 1 }

/-- The number of parts handled, and the metrics after counting them. -/
def processed (m : Metrics α) : Nat × Metrics α :=
  let settled := m.processing.settle
  (settled.sketch.count, { m with processing := settled })

/-- The number of announcements tried, and the metrics after counting them. -/
def published (m : Metrics α) : Nat × Metrics α :=
  let settled := m.publishing.settle
  (settled.sketch.count, { m with publishing := settled })

/-- What is measured, in the order of reports. -/
inductive Kind where
  | processing
  | processingFailures
  | publishing
  | publishFailures
  deriving DecidableEq, Repr

/-- All metrics in the order of reports. -/
def Kind.all : List Kind :=
  [.processing, .processingFailures, .publishing, .publishFailures]

def Kind.name : Kind → String
  | .processing => "logs.process_log_part"
  | .processingFailures => "logs.process_log_part.failed"
  | .publishing => "logs.process_log_part.pusher"
  | .publishFailures => "logs.process_log_part.pusher.failed"

def Kind.description : Kind → String
  | .processing => "Time to parse, store and publish one log part"
  | .processingFailures => "Log parts that failed at any stage"
  | .publishing => "Time to publish one log part to Pusher"
  | .publishFailures => "Pusher publishes that failed"

/-- What one metric reads; `rate` is per second since counting began. -/
inductive Reading where
  | counter (count : Nat) (rate : Float)
  | histogram (distribution : Distribution) (rate : Float)

/-- A metric and its reading. -/
structure Snapshot where
  kind : Kind
  reading : Reading

/-- A count per second, zero while no time has passed. -/
def rate (count : Nat) (elapsed : Float) : Float :=
  if elapsed > 0.0 then count.toFloat / elapsed else 0.0

/-- Read one metric; `elapsed` is the time since counting began. -/
def read (m : Metrics) (elapsed : Float) : Kind → Snapshot × Metrics
  | .processing =>
    let settled := m.processing.settle
    let d := settled.sketch.distribution
    (⟨.processing, .histogram d (rate d.count elapsed)⟩, { m with processing := settled })
  | .processingFailures =>
    (⟨.processingFailures,
      .counter m.processingFailures (rate m.processingFailures elapsed)⟩, m)
  | .publishing =>
    let settled := m.publishing.settle
    let d := settled.sketch.distribution
    (⟨.publishing, .histogram d (rate d.count elapsed)⟩, { m with publishing := settled })
  | .publishFailures =>
    (⟨.publishFailures, .counter m.publishFailures (rate m.publishFailures elapsed)⟩, m)

/-- Read metrics one after another. -/
def readAll (m : Metrics) (elapsed : Float) : List Kind → List Snapshot × Metrics
  | [] => ([], m)
  | kind :: kinds =>
    let (snapshot, m) := m.read elapsed kind
    let (snapshots, m) := m.readAll elapsed kinds
    (snapshot :: snapshots, m)

/-- Read every metric at a time of the clock. -/
def snapshot (m : Metrics) (clock : Nat) : List Snapshot × Metrics :=
  m.readAll (Seconds.ofNanos (clock - m.started)) Kind.all

/-- The part of the program that reports metrics. -/
def target : String := "logrelay_worker::metrics"

/-- The event that reports one metric. -/
def Snapshot.event (s : Snapshot) : Event :=
  .plain .info target "metrics" <|
    match s.reading with
    | .counter count rate =>
      [("name", .text s.kind.name), ("kind", .text "counter"), ("count", .integer count),
        ("mean_rate", .real rate)]
    | .histogram d rate =>
      [("name", .text s.kind.name), ("kind", .text "histogram"), ("count", .integer d.count),
        ("mean_rate", .real rate), ("min_secs", .real d.min), ("max_secs", .real d.max),
        ("mean_secs", .real d.mean), ("stddev_secs", .real d.stddev),
        ("median_secs", .real d.p50), ("p75_secs", .real d.p75), ("p95_secs", .real d.p95),
        ("p99_secs", .real d.p99), ("p999_secs", .real d.p999)]

/-- Log every metric: the readings, their events, and the metrics with one more flush. -/
def report (m : Metrics) (clock : Nat) : List Snapshot × List Event × Metrics :=
  let (snapshots, m) := m.snapshot clock
  (snapshots, snapshots.map Snapshot.event, { m with flushes := m.flushes + 1 })

end Metrics

end JobLog
