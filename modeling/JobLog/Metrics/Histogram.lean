import JobLog.Metrics.Sketch

/-!
# Histograms of durations

A histogram sketches durations. New ones wait in blocks of 64 until somebody looks; then they are
folded into the sketch, the newest block first and each block in the order it was filled.
-/

namespace JobLog.Metrics

/-- How many durations a block holds. -/
def blockSize : Nat := 64

/-- Durations in blocks, in the order they came. -/
def inBlocks (durations : List Nat) : List (List Nat) :=
  match durations with
  | [] => []
  | d :: rest =>
    (d :: rest.take (blockSize - 1)) :: inBlocks (rest.drop (blockSize - 1))
termination_by durations.length
decreasing_by simp only [List.length_drop, List.length_cons]; omega

/-- The order in which waiting durations are folded in. -/
def foldingOrder (durations : List Nat) : List Nat :=
  (inBlocks durations).reverse.flatten

/-- A sketch and the durations that wait for it, last first. -/
structure Histogram (α : Type) where
  waiting : List Nat
  sketch : Sketch α

namespace Histogram

variable {α : Type} [Seconds α]

def empty : Histogram α := ⟨[], Sketch.empty⟩

/-- Record one duration. -/
def record (h : Histogram α) (nanos : Nat) : Histogram α :=
  { h with waiting := nanos :: h.waiting }

/-- Fold in what waits. -/
def settle (h : Histogram α) : Histogram α :=
  ⟨[], (foldingOrder h.waiting.reverse).foldl Sketch.add h.sketch⟩

end Histogram

/-- What a histogram tells, in seconds. -/
structure Distribution where
  count : Nat
  min : Float
  max : Float
  mean : Float
  stddev : Float
  p50 : Float
  p75 : Float
  p95 : Float
  p99 : Float
  p999 : Float

/-- The distribution of no durations. -/
def Distribution.empty : Distribution := ⟨0, 0.0, 0.0, 0.0, 0.0, 0.0, 0.0, 0.0, 0.0, 0.0⟩

/-- The larger of a number and zero. -/
def atLeastZero (x : Float) : Float :=
  if x > 0.0 then x else 0.0

/-- The distribution that a sketch stands for. -/
def Sketch.distribution (s : Sketch Float) : Distribution :=
  if s.count = 0 then .empty
  else
    let n := s.count.toFloat
    let mean := s.sum / n
    { count := s.count
      min := Seconds.ofNanos s.least
      max := Seconds.ofNanos s.greatest
      mean := mean
      stddev := (atLeastZero (s.squares / n - mean * mean)).sqrt
      p50 := s.quantile 0.5
      p75 := s.quantile 0.75
      p95 := s.quantile 0.95
      p99 := s.quantile 0.99
      p999 := s.quantile 0.999 }

end JobLog.Metrics
