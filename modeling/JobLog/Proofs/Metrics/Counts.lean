import JobLog.Metrics.Snapshot
import Mathlib.Algebra.BigOperators.Group.List.Basic
import Mathlib.Algebra.Field.Rat

/-!
# Durations are counted exactly

A sketch forgets the single durations but not how many there were: counting one more adds one to the
bins, and merging bins keeps their total. So what a histogram counts is the number of durations that
were recorded, in whichever order and at whichever moment they are folded in:
`Histogram.count_settle`.
-/

namespace JobLog.Metrics

namespace Bins

theorem foldl_count (bins : Bins) (n : Nat) :
    bins.foldl (fun n bin => n + bin.2) n = n + bins.total := by
  unfold total
  induction bins generalizing n with
  | nil => rfl
  | cons bin bins ih =>
      simp only [List.foldl_cons]
      rw [ih, ih (0 + bin.2), Nat.zero_add, Nat.add_assoc]

@[simp] theorem total_nil : total [] = 0 :=
  rfl

@[simp] theorem total_cons (bin : Int × Nat) (bins : Bins) :
    total (bin :: bins) = bin.2 + bins.total := by
  rw [← foldl_count, total, List.foldl_cons, Nat.zero_add]

/-- How many values are in the bins with certain keys. -/
def number (p : Int → Bool) (bins : Bins) : Nat :=
  (bins.map fun bin => if p bin.1 then bin.2 else 0).sum

@[simp] theorem number_nil (p : Int → Bool) : number p [] = 0 :=
  rfl

@[simp] theorem number_cons (p : Int → Bool) (bin : Int × Nat) (bins : Bins) :
    number p (bin :: bins) = (if p bin.1 then bin.2 else 0) + bins.number p :=
  List.sum_cons

theorem number_append (p : Int → Bool) (bins more : Bins) :
    number p (bins ++ more) = bins.number p + number p more := by
  rw [number, List.map_append, List.sum_append]
  rfl

theorem number_true (bins : Bins) : bins.number (fun _ => true) = bins.total := by
  induction bins with
  | nil => rfl
  | cons bin bins ih => simp [ih]

/-- A value is counted once, with its key. -/
theorem number_add (p : Int → Bool) (key : Int) (bins : Bins) :
    (bins.add key).number p = (if p key then 1 else 0) + bins.number p := by
  induction bins with
  | nil => rfl
  | cons bin bins ih =>
      obtain ⟨k, n⟩ := bin
      simp only [add]
      split
      · rw [number_cons]
      · split
        · rename_i hkey
          subst hkey
          simp only [number_cons]
          split <;> omega
        · simp only [number_cons, ih]
          omega

theorem total_append (bins more : Bins) : total (bins ++ more) = bins.total + total more := by
  simp only [← number_true, number_append]

theorem total_add (key : Int) (bins : Bins) : (bins.add key).total = bins.total + 1 := by
  rw [← number_true, number_add, number_true]
  exact Nat.add_comm 1 _

/-- Merging bins loses no value. -/
theorem total_raise (floor : Int) (bins : Bins) : (bins.raise floor).total = bins.total := by
  have hsplit := total_append (bins.takeWhile (·.1 < floor)) (bins.dropWhile (·.1 < floor))
  rw [List.takeWhile_append_dropWhile] at hsplit
  simp only [raise]
  split
  · rename_i hnone
    rw [hsplit, hnone, Nat.zero_add]
  · split
    · rename_i k n tail hrest
      have hsum := congrArg total hrest
      rw [total_cons] at hsum
      split <;> simp only [total_cons] <;> omega
    · rename_i hrest
      rw [hrest] at hsplit
      simpa using hsplit.symm

end Bins

namespace Sketch

variable {α : Type} [Seconds α]

theorem total_addKey (key : Int) (bins : Bins) : (addKey key bins).total = bins.total + 1 := by
  simp only [addKey]
  split
  · rw [Bins.total_raise, Bins.total_add]
  · exact Bins.total_add key bins

theorem count_add (s : Sketch α) (nanos : Nat) : (s.add nanos).count = s.count + 1 := by
  simp only [add, count]
  split
  · exact Nat.add_right_comm ..
  · rw [total_addKey, Nat.add_assoc]

theorem count_foldl_add (s : Sketch α) (durations : List Nat) :
    (durations.foldl add s).count = s.count + durations.length := by
  induction durations generalizing s with
  | nil => rfl
  | cons nanos durations ih =>
      rw [List.foldl_cons, ih, count_add, List.length_cons]
      omega

end Sketch

/-- Blocks keep the durations in their order. -/
theorem flatten_inBlocks (durations : List Nat) : (inBlocks durations).flatten = durations := by
  fun_induction inBlocks durations with
  | case1 => rfl
  | case2 d rest ih =>
      rw [List.flatten_cons, ih, List.cons_append, List.take_append_drop]

/-- Folding in the newest block first loses no duration and doubles none. -/
theorem foldingOrder_perm (durations : List Nat) : (foldingOrder durations).Perm durations := by
  have hperm : (inBlocks durations).reverse.flatten.Perm (inBlocks durations).flatten :=
    (List.reverse_perm _).flatten
  rwa [flatten_inBlocks] at hperm

namespace Histogram

variable {α : Type}

/-- How many durations have been recorded. -/
def recorded (h : Histogram α) : Nat :=
  h.sketch.count + h.waiting.length

theorem recorded_record (h : Histogram α) (nanos : Nat) :
    (h.record nanos).recorded = h.recorded + 1 := by
  rw [record, recorded, List.length_cons, recorded, Nat.add_assoc]

/-- A histogram counts the durations that were recorded. -/
theorem count_settle [Seconds α] (h : Histogram α) : h.settle.sketch.count = h.recorded := by
  rw [settle, Sketch.count_foldl_add, (foldingOrder_perm _).length_eq, List.length_reverse,
    recorded]

/-- Folding in what waits loses no duration. -/
theorem recorded_settle [Seconds α] (h : Histogram α) : h.settle.recorded = h.recorded := by
  rw [recorded, count_settle]
  rfl

end Histogram

variable {α : Type} [Seconds α]

/-- The number of parts handled is the number of times that were recorded for them. -/
theorem processed_fst (m : Metrics α) : m.processed.1 = m.processing.recorded :=
  m.processing.count_settle

/-- The number of announcements tried is the number of times that were recorded for them. -/
theorem published_fst (m : Metrics α) : m.published.1 = m.publishing.recorded :=
  m.publishing.count_settle

/-- A distribution is one of the durations of its sketch. -/
theorem Sketch.distribution_count (s : Sketch Float) : s.distribution.count = s.count := by
  unfold distribution
  split
  · exact Eq.symm ‹_›
  · rfl

/-- A report tells how many parts have been handled. -/
theorem report_processing (m : Metrics) (clock : Nat) :
    ∃ distribution rate, ⟨.processing, .histogram distribution rate⟩ ∈ (m.report clock).1 ∧
      distribution.count = m.processing.recorded :=
  ⟨_, _, List.mem_cons_self, (Sketch.distribution_count _).trans m.processing.count_settle⟩

/-- A report tells how many parts have failed. -/
theorem report_failures (m : Metrics) (clock : Nat) :
    ∃ rate, ⟨.processingFailures, .counter m.processingFailures rate⟩ ∈ (m.report clock).1 :=
  ⟨_, List.mem_cons_of_mem _ List.mem_cons_self⟩

/-- A report changes no count and is one more flush. -/
theorem report_counts (m : Metrics) (clock : Nat) :
    (m.report clock).2.2.processing.recorded = m.processing.recorded ∧
      (m.report clock).2.2.processingFailures = m.processingFailures ∧
      (m.report clock).2.2.flushes = m.flushes + 1 :=
  ⟨m.processing.recorded_settle, rfl, rfl⟩

end JobLog.Metrics
