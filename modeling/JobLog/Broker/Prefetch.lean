/-!
# The prefetch bound

A subscription of `workers` workers may hold `workers * multiplier` unacknowledged deliveries. The
protocol counts them in sixteen bits and takes zero for "no bound". The product is taken in words of
64 bits, so it may be cut twice, and one delivery is always allowed. `prefetch_eq` is what comes of
it: the product, kept between one and 65535.
-/

namespace JobLog.Broker

/-- The largest bound that the protocol can express. -/
def maxPrefetch : Nat := 65535

/-- A product of two words, or the largest word where none holds it. -/
def saturatingMul (a b : Nat) : Nat :=
  if a * b < UInt64.size then a * b else UInt64.size - 1

/-- A number that the protocol can express, or the largest such number. -/
def narrowed (n : Nat) : Nat :=
  if n ≤ maxPrefetch then n else maxPrefetch

/-- Unacknowledged deliveries that a pool of workers may hold. -/
def prefetch (workers multiplier : Nat) : Nat :=
  max (narrowed (saturatingMul workers multiplier)) 1

theorem narrowed_eq (n : Nat) : narrowed n = min n maxPrefetch :=
  rfl

/-- A product that no word holds is cut to a word that the protocol cannot express either. -/
theorem narrowed_saturatingMul (a b : Nat) :
    narrowed (saturatingMul a b) = min (a * b) maxPrefetch := by
  have hword : maxPrefetch ≤ UInt64.size - 1 := by decide
  rw [narrowed_eq, saturatingMul]
  split
  · rfl
  · rw [Nat.min_eq_right hword, Nat.min_eq_right (by omega)]

/-- The bound is the product, kept between one and 65535. -/
theorem prefetch_eq (workers multiplier : Nat) :
    prefetch workers multiplier = max (min (workers * multiplier) maxPrefetch) 1 := by
  rw [prefetch, narrowed_saturatingMul]

theorem prefetch_pos (workers multiplier : Nat) : 0 < prefetch workers multiplier :=
  Nat.lt_of_lt_of_le Nat.one_pos (Nat.le_max_right ..)

theorem prefetch_le (workers multiplier : Nat) : prefetch workers multiplier ≤ maxPrefetch := by
  rw [prefetch_eq]
  exact Nat.max_le.2 ⟨Nat.min_le_right .., by decide⟩

end JobLog.Broker
