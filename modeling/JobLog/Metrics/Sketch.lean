/-!
# Quantile sketches

A sketch keeps the least and greatest of the durations it was given, their sum, the sum of their
squares, and, instead of the durations themselves, how many fell into each of a range of
exponentially growing bins. A quantile read off the bins is within one part in ten thousand of a
duration of that rank, as long as the durations do not spread over more than `Sketch.width` bins:
beyond that the lowest bins are merged.

Durations are whole nanoseconds. Sums are kept in any type of numbers, `Seconds`; the program keeps
them in doubles.
-/

namespace JobLog.Metrics

/-- Numbers in which durations are added up, in seconds. -/
class Seconds (α : Type) extends Add α, Mul α where
  /-- A number of nanoseconds. -/
  ofNanos : Nat → α

instance : Seconds Float where
  ofNanos n := (n / 1000000000).toFloat + (n % 1000000000).toFloat / 1000000000.0

/-- Bins with their counts, in ascending order of their keys. -/
abbrev Bins := List (Int × Nat)

/-- Count one more value in a bin. -/
def Bins.add (key : Int) : Bins → Bins
  | [] => [(key, 1)]
  | (k, n) :: bins =>
    if key < k then (key, 1) :: (k, n) :: bins
    else if key = k then (k, n + 1) :: bins
    else (k, n) :: Bins.add key bins

/-- The greatest key. -/
def Bins.top? (bins : Bins) : Option Int :=
  bins.getLast?.map (·.1)

/-- The number of values in all bins. -/
def Bins.total (bins : Bins) : Nat :=
  bins.foldl (fun n bin => n + bin.2) 0

/-- Merge all bins below `floor` into the bin of that key. -/
def Bins.raise (floor : Int) (bins : Bins) : Bins :=
  let low := Bins.total (bins.takeWhile (·.1 < floor))
  let rest := bins.dropWhile (·.1 < floor)
  if low = 0 then rest
  else
    match rest with
    | (k, n) :: tail => if k = floor then (k, n + low) :: tail else (floor, low) :: rest
    | [] => [(floor, low)]

/-- The key of the bin that holds the value of rank `rank`, counted from zero. -/
def Bins.find (rank : Nat) : Bins → Option Int
  | [] => none
  | (k, n) :: bins => if rank < n then some k else Bins.find (rank - n) bins

/-- What is known of the durations so far. -/
structure Sketch (α : Type) where
  /-- Durations of at most one nanosecond. -/
  zeros : Nat
  bins : Bins
  /-- The least and the greatest duration; zero if there is none. -/
  least : Nat
  greatest : Nat
  sum : α
  squares : α

namespace Sketch

variable {α : Type} [Seconds α]

/-- A sketch of no durations. -/
def empty : Sketch α :=
  ⟨0, [], 0, 0, Seconds.ofNanos 0, Seconds.ofNanos 0⟩

/-- The number of durations. -/
def count (s : Sketch α) : Nat :=
  s.zeros + s.bins.total

/-- How many neighbouring bins are kept apart. -/
def width : Nat := 32768

/-- The logarithm of the ratio between the bounds of a bin, whose half is the accuracy 1/10000. -/
def growthLog : Float := 0.00020000000066666668

/-- The ratio between the bounds of a bin. -/
def growth : Float := 1.0002000200020003

/-- The number of the bin for a duration. -/
def key (nanos : Nat) : Int :=
  (Float.ceil (Float.log (Seconds.ofNanos nanos) / growthLog)).toInt64.toInt

/-- The value that stands for a bin. -/
def representative (key : Int) : Float :=
  Float.exp (Float.ofInt key * growthLog) * (2.0 / (1.0 + growth))

/-- Count a value in its bin and merge the bins that are too far below the highest one. -/
def addKey (key : Int) (bins : Bins) : Bins :=
  let added := bins.add key
  match added.top? with
  | some top => added.raise (top - (width - 1 : Nat))
  | none => added

/-- Take one more duration into account. -/
def add (s : Sketch α) (nanos : Nat) : Sketch α :=
  let first := s.count = 0
  let seconds : α := Seconds.ofNanos nanos
  { zeros := if nanos ≤ 1 then s.zeros + 1 else s.zeros
    bins := if nanos ≤ 1 then s.bins else addKey (key nanos) s.bins
    least := if first then nanos else min s.least nanos
    greatest := max s.greatest nanos
    sum := s.sum + seconds
    squares := s.squares + seconds * seconds }

/-- The rank of a quantile among `n` values. -/
def rank (q : Float) (n : Nat) : Nat :=
  (Float.floor (q * (n - 1).toFloat)).toUInt64.toNat

/-- A quantile in seconds; zero if there are no durations. -/
def quantile (s : Sketch α) (q : Float) : Float :=
  let r := rank q s.count
  if r < s.zeros then 0.0
  else
    match s.bins.find (r - s.zeros) with
    | some key => representative key
    | none => 0.0

end Sketch

end JobLog.Metrics
