import JobLog.Proofs.Metrics.Counts
import Mathlib.Data.List.TakeWhile
import Mathlib.Order.Lattice

/-!
# What a sketch keeps of its durations

A sketch depends on the durations that it was given and not on their order, although it merges its
lowest bins for good whenever a longer duration arrives: merging up to one floor and then up to a
higher one is merging up to the higher one. `Sketch.Summarizes` says what a sketch holds of some
durations, `Summarizes.add` that it holds of one more after `Sketch.add`, and `Summarizes.perm` that
their order makes no difference. Sums depend on nothing else either as long as addition is exact,
which `Sketch.Sums` states for rational numbers.
-/

namespace JobLog.Metrics

/-! ## Bins -/

namespace Bins

variable {bins : Bins} {keys : List Int} {key : Int} {p : Int → Bool}

theorem number_congr {q : Int → Bool} (h : ∀ bin ∈ bins, p bin.1 = q bin.1) :
    bins.number p = bins.number q := by
  refine congrArg List.sum (List.map_congr_left fun bin hbin => ?_)
  rw [h bin hbin]

theorem number_eq_zero (h : ∀ bin ∈ bins, p bin.1 = false) : bins.number p = 0 := by
  refine List.sum_eq_zero fun n hn => ?_
  obtain ⟨bin, hbin, rfl⟩ := List.mem_map.1 hn
  rw [h bin hbin]
  rfl

theorem number_eq_total (h : ∀ bin ∈ bins, p bin.1 = true) : bins.number p = bins.total := by
  rw [number_congr (q := fun _ => true) h]
  exact number_true bins

/-- The bins are in ascending order, and none of them is empty. -/
structure Proper (bins : Bins) : Prop where
  ascending : bins.Pairwise fun a b => a.1 < b.1
  pos : ∀ bin ∈ bins, 0 < bin.2

/-- The bins hold these keys, each as often as it occurs. -/
structure Holds (bins : Bins) (keys : List Int) : Prop extends bins.Proper where
  number_eq : ∀ p : Int → Bool, bins.number p = keys.countP p

theorem holds_nil : Holds [] [] where
  ascending := .nil
  pos := nofun
  number_eq _ := rfl

/-- The order of the keys makes no difference. -/
theorem Holds.perm {others : List Int} (h : bins.Holds keys) (hperm : keys.Perm others) :
    bins.Holds others :=
  ⟨h.toProper, fun p => (h.number_eq p).trans (hperm.countP_eq p)⟩

/-! ### Adding a value -/

/-- A value goes into a bin that is there or into a new one with its key. -/
theorem mem_add {bin : Int × Nat} (hbin : bin ∈ bins.add key) :
    0 < bin.2 ∧ bin.1 = key ∨ bin ∈ bins := by
  induction bins with
  | nil =>
      obtain rfl := List.mem_singleton.1 hbin
      exact .inl ⟨Nat.one_pos, rfl⟩
  | cons first bins ih =>
      obtain ⟨k, n⟩ := first
      simp only [add] at hbin
      split at hbin
      · rcases List.mem_cons.1 hbin with rfl | hbin
        · exact .inl ⟨Nat.one_pos, rfl⟩
        · exact .inr hbin
      · split at hbin
        · rename_i hkey
          rcases List.mem_cons.1 hbin with rfl | hbin
          · exact .inl ⟨Nat.succ_pos n, hkey.symm⟩
          · exact .inr (List.mem_cons_of_mem _ hbin)
        · rcases List.mem_cons.1 hbin with rfl | hbin
          · exact .inr List.mem_cons_self
          · exact (ih hbin).imp_right (List.mem_cons_of_mem _)

theorem Proper.add (h : bins.Proper) (key : Int) : (bins.add key).Proper where
  pos bin hbin := by
    rcases mem_add hbin with ⟨hpos, -⟩ | hbin
    · exact hpos
    · exact h.pos bin hbin
  ascending := by
    have hsorted := h.ascending
    clear h
    induction bins with
    | nil => exact List.pairwise_singleton _ _
    | cons first bins ih =>
        obtain ⟨k, n⟩ := first
        obtain ⟨hfirst, hrest⟩ := List.pairwise_cons.1 hsorted
        simp only [Bins.add]
        split
        · rename_i hlt
          refine List.pairwise_cons.2 ⟨fun bin hbin => ?_, hsorted⟩
          rcases List.mem_cons.1 hbin with rfl | hbin
          · exact hlt
          · exact hlt.trans (hfirst bin hbin)
        · split
          · exact List.pairwise_cons.2 ⟨hfirst, hrest⟩
          · rename_i hle hne
            refine List.pairwise_cons.2 ⟨fun bin hbin => ?_, ih hrest⟩
            rcases mem_add hbin with ⟨-, hkey⟩ | hbin
            · show k < bin.1
              omega
            · exact hfirst bin hbin

theorem Holds.add (h : bins.Holds keys) (key : Int) : (bins.add key).Holds (key :: keys) where
  toProper := h.toProper.add key
  number_eq p := by
    rw [number_add, h.number_eq, List.countP_cons]
    exact Nat.add_comm _ _

/-! ### Merging low bins -/

/-- What is left when the low bins are taken away is not low. -/
theorem le_of_mem_dropWhile {floor : Int} (hsorted : bins.Pairwise fun a b => a.1 < b.1)
    {bin : Int × Nat} (hbin : bin ∈ bins.dropWhile (·.1 < floor)) : floor ≤ bin.1 := by
  induction bins with
  | nil => cases hbin
  | cons first bins ih =>
      obtain ⟨hfirst, hrest⟩ := List.pairwise_cons.1 hsorted
      by_cases hlow : first.1 < floor
      · rw [List.dropWhile_cons_of_pos (by simpa using hlow)] at hbin
        exact ih hrest hbin
      · rw [List.dropWhile_cons_of_neg (by simpa using hlow)] at hbin
        rcases List.mem_cons.1 hbin with rfl | hbin
        · exact Int.not_lt.1 hlow
        · exact (Int.not_lt.1 hlow).trans (hfirst bin hbin).le

/-- Put so many values into the bin of a key that is not above those of the other bins. -/
def prepend (floor : Int) (count : Nat) (bins : Bins) : Bins :=
  if count = 0 then bins
  else
    match bins with
    | (k, n) :: tail => if k = floor then (k, n + count) :: tail else (floor, count) :: bins
    | [] => [(floor, count)]

theorem raise_eq (floor : Int) (bins : Bins) :
    bins.raise floor =
      prepend floor (total (bins.takeWhile (·.1 < floor))) (bins.dropWhile (·.1 < floor)) :=
  rfl

theorem number_prepend (floor : Int) (count : Nat) (bins : Bins) :
    (prepend floor count bins).number p = (if p floor then count else 0) + bins.number p := by
  unfold prepend
  split
  · rename_i hnone
    rw [hnone, ite_self, Nat.zero_add]
  · split
    · split
      · rename_i hfloor
        subst hfloor
        simp only [number_cons]
        split <;> omega
      · rw [number_cons]
    · rfl

theorem Proper.prepend (h : bins.Proper) {floor : Int} (hfloor : ∀ bin ∈ bins, floor ≤ bin.1)
    (count : Nat) : (prepend floor count bins).Proper := by
  unfold Bins.prepend
  split
  · exact h
  · rename_i hcount
    have hone : 0 < count := Nat.pos_of_ne_zero hcount
    split
    · rename_i k n tail
      obtain ⟨hfirst, htail⟩ := List.pairwise_cons.1 h.ascending
      obtain ⟨hn, hpos⟩ := List.forall_mem_cons.1 h.pos
      split
      · refine ⟨List.pairwise_cons.2 ⟨hfirst, htail⟩, List.forall_mem_cons.2 ⟨?_, hpos⟩⟩
        exact Nat.add_pos_left hn count
      · rename_i hne
        have hk : floor < k := lt_of_le_of_ne (hfloor _ List.mem_cons_self) (Ne.symm hne)
        refine ⟨List.pairwise_cons.2 ⟨List.forall_mem_cons.2 ⟨hk, fun bin hbin => ?_⟩, h.ascending⟩,
          List.forall_mem_cons.2 ⟨hone, h.pos⟩⟩
        exact hk.trans (hfirst bin hbin)
    · exact ⟨List.pairwise_singleton _ _, List.forall_mem_singleton.2 hone⟩

/-- The values of the low bins go where the floor is, and the others stay. -/
theorem number_raise (h : bins.Proper) (floor : Int) :
    (bins.raise floor).number p = bins.number fun k => p (max floor k) := by
  have hlow : number (fun k => p (max floor k)) (bins.takeWhile (·.1 < floor)) =
      if p floor then total (bins.takeWhile (·.1 < floor)) else 0 := by
    have hsame : ∀ bin ∈ bins.takeWhile (·.1 < floor), p (max floor bin.1) = p floor := by
      intro bin hbin
      have hlt : bin.1 < floor := by simpa using List.mem_takeWhile_imp hbin
      rw [max_eq_left hlt.le]
    cases hp : p floor with
    | true => exact number_eq_total fun bin hbin => (hsame bin hbin).trans hp
    | false => exact number_eq_zero fun bin hbin => (hsame bin hbin).trans hp
  have hrest : number (fun k => p (max floor k)) (bins.dropWhile (·.1 < floor)) =
      number p (bins.dropWhile (·.1 < floor)) :=
    number_congr fun bin hbin => by rw [max_eq_right (le_of_mem_dropWhile h.ascending hbin)]
  rw [raise_eq, number_prepend, ← hlow, ← hrest, ← number_append, List.takeWhile_append_dropWhile]

theorem Proper.raise (h : bins.Proper) (floor : Int) : (bins.raise floor).Proper := by
  have hsublist := List.dropWhile_sublist (l := bins) (p := fun bin => decide (bin.1 < floor))
  have hrest : Proper (bins.dropWhile (·.1 < floor)) :=
    ⟨h.ascending.sublist hsublist, fun bin hbin => h.pos bin (hsublist.subset hbin)⟩
  exact hrest.prepend (fun bin hbin => le_of_mem_dropWhile h.ascending hbin) _

/-- Merging low bins raises the keys in them. -/
theorem Holds.raise (h : bins.Holds keys) (floor : Int) :
    (bins.raise floor).Holds (keys.map (max floor)) where
  toProper := h.toProper.raise floor
  number_eq p := by
    rw [number_raise h.toProper floor, h.number_eq, List.countP_map]
    rfl

/-! ### What is kept -/

/-- A bin is there with the number of its values. -/
theorem Proper.mem_iff (h : bins.Proper) {k : Int} {n : Nat} :
    (k, n) ∈ bins ↔ 0 < n ∧ n = bins.number (· == k) := by
  obtain ⟨hsorted, hpos⟩ := h
  induction bins with
  | nil => exact ⟨nofun, fun ⟨hlt, hzero⟩ => absurd hzero hlt.ne'⟩
  | cons first bins ih =>
      obtain ⟨j, m⟩ := first
      obtain ⟨hfirst, hrest⟩ := List.pairwise_cons.1 hsorted
      obtain ⟨hone, hothers⟩ := List.forall_mem_cons.1 hpos
      rw [List.mem_cons, Prod.mk.injEq, number_cons]
      by_cases hkey : k = j
      · subst hkey
        have hnone : Bins.number (· == k) bins = 0 :=
          number_eq_zero fun bin hbin => by simpa using (hfirst bin hbin).ne'
        have hnot : (k, n) ∉ bins := fun hmem => lt_irrefl k (hfirst _ hmem)
        simp only [beq_self_eq_true, if_true, hnone, Nat.add_zero, true_and, hnot, or_false]
        exact ⟨fun heq => ⟨heq ▸ hone, heq⟩, And.right⟩
      · simp only [beq_iff_eq, Ne.symm hkey, if_false, Nat.zero_add, hkey, false_and, false_or]
        exact ih hrest hothers

/-- There is only one way for bins to hold some keys. -/
theorem Holds.unique {others : Bins} (h : bins.Holds keys) (hother : others.Holds keys) :
    bins = others := by
  have hnodup {bins : Bins} (hproper : bins.Proper) : bins.Nodup :=
    hproper.ascending.imp fun {a b} hlt (heq : a = b) => lt_irrefl a.1 (by rwa [← heq] at hlt)
  have hperm : bins.Perm others := by
    refine (List.perm_ext_iff_of_nodup (hnodup h.toProper) (hnodup hother.toProper)).2 ?_
    rintro ⟨k, n⟩
    rw [h.toProper.mem_iff, hother.toProper.mem_iff, h.number_eq, hother.number_eq]
  exact hperm.eq_of_pairwise (fun a b _ _ hab hba => absurd hab hba.not_gt) h.ascending
    hother.ascending

/-- The keys of the bins are those that they hold. -/
theorem Holds.exists_mem_iff (h : bins.Holds keys) {k : Int} :
    (∃ n, (k, n) ∈ bins) ↔ k ∈ keys := by
  simp only [h.toProper.mem_iff, h.number_eq]
  rw [← List.count_pos_iff, List.count]
  constructor
  · rintro ⟨n, hpos, rfl⟩
    exact hpos
  · exact fun hpos => ⟨_, hpos, rfl⟩

/-- The greatest key of the bins is the greatest that they hold. -/
theorem Holds.top?_eq (h : bins.Holds keys) : bins.top? = keys.max? := by
  cases hlast : bins.getLast? with
  | none =>
      have hnil := List.getLast?_eq_none_iff.1 hlast
      have hnone : keys = [] := List.eq_nil_iff_forall_not_mem.2 fun k hk => by
        obtain ⟨n, hmem⟩ := h.exists_mem_iff.2 hk
        simp [hnil] at hmem
      rw [top?, hlast, hnone]
      rfl
  | some last =>
      obtain ⟨before, rfl⟩ := List.getLast?_eq_some_iff.1 hlast
      rw [top?, hlast, Option.map_some]
      refine (List.max?_eq_some_iff.2 ⟨h.exists_mem_iff.1 ⟨last.2, by simp⟩, fun k hk => ?_⟩).symm
      obtain ⟨n, hmem⟩ := h.exists_mem_iff.2 hk
      rcases List.mem_append.1 hmem with hmem | hmem
      · exact ((List.pairwise_append.1 h.ascending).2.2 _ hmem _ (List.mem_singleton_self _)).le
      · rw [← List.mem_singleton.1 hmem]

end Bins

/-! ## Merged keys -/

/-- The greatest of some values does not depend on their order. -/
theorem max?_perm {β : Type} [LinearOrder β] {values others : List β} (hperm : values.Perm others) :
    values.max? = others.max? := by
  cases hmax : others.max? with
  | none =>
      rw [List.max?_eq_none_iff.1 hmax] at hperm
      rw [List.perm_nil.1 hperm]
      rfl
  | some top =>
      obtain ⟨hmem, hle⟩ := List.max?_eq_some_iff.1 hmax
      exact List.max?_eq_some_iff.2
        ⟨hperm.mem_iff.2 hmem, fun value hvalue => hle value (hperm.mem_iff.1 hvalue)⟩

/-- The least of some values does not depend on their order. -/
theorem min?_perm {β : Type} [LinearOrder β] {values others : List β} (hperm : values.Perm others) :
    values.min? = others.min? := by
  cases hmin : others.min? with
  | none =>
      rw [List.min?_eq_none_iff.1 hmin] at hperm
      rw [List.perm_nil.1 hperm]
      rfl
  | some least =>
      obtain ⟨hmem, hle⟩ := List.min?_eq_some_iff.1 hmin
      exact List.min?_eq_some_iff.2
        ⟨hperm.mem_iff.2 hmem, fun value hvalue => hle value (hperm.mem_iff.1 hvalue)⟩

/-- What becomes of keys of which only the highest ones are kept apart: those too far below the
greatest are raised to the lowest that is kept. -/
def merged (keys : List Int) : List Int :=
  match keys.max? with
  | none => []
  | some top => keys.map (max (top - (Sketch.width - 1 : Nat)))

theorem merged_eq {keys : List Int} {top : Int} (htop : keys.max? = some top) :
    merged keys = keys.map (max (top - (Sketch.width - 1 : Nat))) := by
  rw [merged, htop]

@[simp] theorem length_merged (keys : List Int) : (merged keys).length = keys.length := by
  unfold merged
  split
  · rename_i hnone
    rw [List.max?_eq_none_iff.1 hnone]
  · exact List.length_map _

theorem merged_perm {keys others : List Int} (hperm : keys.Perm others) :
    (merged keys).Perm (merged others) := by
  have hmax := max?_perm hperm
  unfold merged
  rw [hmax]
  cases others.max? with
  | none => exact .nil
  | some top => exact hperm.map _

/-- Merging keeps the greatest key. -/
theorem max?_merged (keys : List Int) : (merged keys).max? = keys.max? := by
  cases htop : keys.max? with
  | none => simp [merged, htop]
  | some top =>
      obtain ⟨hmem, hle⟩ := List.max?_eq_some_iff.1 htop
      rw [merged_eq htop]
      refine List.max?_eq_some_iff.2 ⟨List.mem_map.2 ⟨top, hmem, ?_⟩, fun k hk => ?_⟩
      · exact max_eq_right (Int.sub_le_self _ (Int.natCast_nonneg _))
      · obtain ⟨j, hj, rfl⟩ := List.mem_map.1 hk
        exact max_le (Int.sub_le_self _ (Int.natCast_nonneg _)) (hle j hj)

/-- Keys that have been merged can be merged again with one more, as if none had been merged. -/
theorem map_cons_merged {key top : Int} {keys : List Int} (htop : (key :: keys).max? = some top) :
    (key :: merged keys).map (max (top - (Sketch.width - 1 : Nat))) = merged (key :: keys) := by
  rw [merged_eq htop, List.map_cons, List.map_cons]
  congr 1
  cases hold : keys.max? with
  | none => simp [merged, List.max?_eq_none_iff.1 hold]
  | some old =>
      have hle : old ≤ top :=
        (List.max?_eq_some_iff.1 htop).2 old (List.mem_cons_of_mem _ (List.max?_mem hold))
      rw [merged_eq hold, List.map_map]
      refine List.map_congr_left fun k _ => ?_
      show max _ (max _ k) = max _ k
      rw [← max_assoc, max_eq_left (Int.sub_le_sub_right hle _)]

/-- One more value is counted, and the bins are merged as its key demands. -/
theorem Bins.Holds.addKey {bins : Bins} {keys : List Int} (h : bins.Holds (merged keys)) (key : Int) :
    Bins.Holds (Sketch.addKey key bins) (merged (key :: keys)) := by
  have hadded := h.add key
  have htop : (bins.add key).top? = (key :: keys).max? := by
    rw [hadded.top?_eq, List.max?_cons, List.max?_cons, max?_merged]
  simp only [Sketch.addKey, htop]
  cases hmax : (key :: keys).max? with
  | none => simp at hmax
  | some top =>
      rw [← map_cons_merged hmax]
      exact hadded.raise _

/-! ## Sketches -/

namespace Sketch

variable {α β : Type} {s : Sketch α} {samples others : List Nat}

/-- The keys of the durations that are not counted as zero. -/
def keys (samples : List Nat) : List Int :=
  (samples.filter (1 < ·)).map key

/-- What can be said of a sketch and the durations that it was given, because it holds at the start,
every duration adds to it, and their order makes no difference. -/
structure Tracked [Seconds α] (holds : Sketch α → List Nat → Prop) : Prop where
  empty : holds empty []
  add : ∀ {s samples}, holds s samples → ∀ nanos, holds (s.add nanos) (nanos :: samples)
  perm : ∀ {s samples others}, holds s samples → samples.Perm others → holds s others

theorem Tracked.foldl_add [Seconds α] {holds : Sketch α → List Nat → Prop} (htracked : Tracked holds)
    (h : holds s samples) (durations : List Nat) :
    holds (durations.foldl Sketch.add s) (durations ++ samples) := by
  induction durations generalizing s samples with
  | nil => exact h
  | cons nanos durations ih =>
      exact htracked.perm (ih (htracked.add h nanos)) List.perm_middle

/-- What a sketch holds of some durations, sums apart. -/
structure Summarizes (s : Sketch α) (samples : List Nat) : Prop where
  zeros_eq : s.zeros = samples.countP (· ≤ 1)
  bins : s.bins.Holds (merged (keys samples))
  least_eq : s.least = samples.min?.getD 0
  greatest_eq : s.greatest = samples.max?.getD 0

theorem summarizes_empty [Seconds α] : (empty : Sketch α).Summarizes [] where
  zeros_eq := rfl
  bins := Bins.holds_nil
  least_eq := rfl
  greatest_eq := rfl

/-- A sketch counts all its durations. -/
theorem Summarizes.count_eq (h : s.Summarizes samples) : s.count = samples.length := by
  have htotal : s.bins.total = samples.countP (1 < ·) := by
    rw [← Bins.number_true, h.bins.number_eq, List.countP_true, length_merged, keys,
      List.length_map, List.countP_eq_length_filter]
  rw [count, h.zeros_eq, htotal, List.length_eq_countP_add_countP (p := (decide <| · ≤ 1))]
  simp only [decide_eq_true_eq, not_le]

theorem keys_cons_of_le {nanos : Nat} (hzero : nanos ≤ 1) :
    keys (nanos :: samples) = keys samples := by
  rw [keys, List.filter_cons_of_neg (by simpa using hzero)]
  rfl

theorem keys_cons_of_lt {nanos : Nat} (hlong : 1 < nanos) :
    keys (nanos :: samples) = key nanos :: keys samples := by
  rw [keys, List.filter_cons_of_pos (by simpa using hlong)]
  rfl

/-- One more duration is taken into account. -/
theorem Summarizes.add [Seconds α] (h : s.Summarizes samples) (nanos : Nat) :
    (s.add nanos).Summarizes (nanos :: samples) where
  zeros_eq := by
    simp only [Sketch.add, h.zeros_eq, List.countP_cons, decide_eq_true_eq]
    split <;> rfl
  bins := by
    simp only [Sketch.add]
    split
    · rename_i hzero
      rw [keys_cons_of_le hzero]
      exact h.bins
    · rename_i hlong
      rw [keys_cons_of_lt (Nat.not_le.1 hlong)]
      exact h.bins.addKey _
  least_eq := by
    simp only [Sketch.add, h.count_eq, List.length_eq_zero_iff, h.least_eq, List.min?_cons,
      Option.getD_some]
    cases hmin : samples.min? with
    | none =>
        rw [if_pos (List.min?_eq_none_iff.1 hmin)]
        rfl
    | some least =>
        have hsome : samples ≠ [] := fun hnil => by simp [hnil] at hmin
        rw [if_neg hsome]
        exact Nat.min_comm _ _
  greatest_eq := by
    simp only [Sketch.add, h.greatest_eq, List.max?_cons, Option.getD_some]
    cases samples.max? with
    | none => exact Nat.zero_max _
    | some greatest => exact Nat.max_comm _ _

/-- The order of the durations makes no difference. -/
theorem Summarizes.perm (h : s.Summarizes samples) (hperm : samples.Perm others) :
    s.Summarizes others where
  zeros_eq := h.zeros_eq.trans (hperm.countP_eq _)
  bins := h.bins.perm (merged_perm ((hperm.filter _).map _))
  least_eq := by rw [h.least_eq, min?_perm hperm]
  greatest_eq := by rw [h.greatest_eq, max?_perm hperm]

theorem tracked_summarizes [Seconds α] : Tracked (Summarizes : Sketch α → List Nat → Prop) where
  empty := summarizes_empty
  add := Summarizes.add
  perm := Summarizes.perm

/-- What a sketch keeps besides sums. -/
def withoutSums (s : Sketch α) : Nat × Bins × Nat × Nat :=
  (s.zeros, s.bins, s.least, s.greatest)

/-- Apart from sums there is only one way to summarize some durations. -/
theorem Summarizes.unique {t : Sketch β} (h : s.Summarizes samples)
    (ht : t.Summarizes samples) : s.withoutSums = t.withoutSums := by
  rw [withoutSums, withoutSums, h.zeros_eq, ht.zeros_eq, h.bins.unique ht.bins, h.least_eq,
    ht.least_eq, h.greatest_eq, ht.greatest_eq]

/-! ### Sums -/

/-- Seconds without rounding. -/
instance : Seconds ℚ where
  ofNanos n := n / 1000000000

/-- What the sums of a sketch are, if none of them is rounded. -/
structure Sums (s : Sketch ℚ) (samples : List Nat) : Prop where
  sum_eq : s.sum = (samples.map fun n : Nat => (n / 1000000000 : ℚ)).sum
  squares_eq : s.squares = (samples.map fun n : Nat => (n / 1000000000 : ℚ) ^ 2).sum

theorem sums_empty : (empty : Sketch ℚ).Sums [] where
  sum_eq := by simp [empty, Seconds.ofNanos]
  squares_eq := by simp [empty, Seconds.ofNanos]

theorem Sums.add {s : Sketch ℚ} (h : s.Sums samples) (nanos : Nat) :
    (s.add nanos).Sums (nanos :: samples) where
  sum_eq := by
    rw [List.map_cons, List.sum_cons, ← h.sum_eq, add_comm]
    rfl
  squares_eq := by
    rw [List.map_cons, List.sum_cons, ← h.squares_eq, add_comm, pow_two]
    rfl

theorem Sums.perm {s : Sketch ℚ} (h : s.Sums samples) (hperm : samples.Perm others) :
    s.Sums others where
  sum_eq := h.sum_eq.trans (hperm.map _).sum_eq
  squares_eq := h.squares_eq.trans (hperm.map _).sum_eq

theorem tracked_sums : Tracked Sums where
  empty := sums_empty
  add := Sums.add
  perm := Sums.perm

/-- Without rounding there is only one sketch of some durations. -/
theorem Sums.unique {s t : Sketch ℚ} (h : s.Sums samples) (ht : t.Sums samples)
    (hsame : s.withoutSums = t.withoutSums) : s = t := by
  cases s
  cases t
  cases hsame
  obtain rfl := h.sum_eq.trans ht.sum_eq.symm
  obtain rfl := h.squares_eq.trans ht.squares_eq.symm
  rfl

end Sketch

/-! ## Readings -/

/-- What a distribution tells besides what is computed from sums. -/
def Distribution.withoutMoments (d : Distribution) : Nat × Float × Float × List Float :=
  (d.count, d.min, d.max, [d.p50, d.p75, d.p95, d.p99, d.p999])

/-- The counts, the bounds and the quantiles that a sketch tells do not depend on its sums. -/
theorem Sketch.withoutMoments_distribution {s t : Sketch Float}
    (h : s.withoutSums = t.withoutSums) :
    s.distribution.withoutMoments = t.distribution.withoutMoments := by
  obtain ⟨hzeros, hbins, hleast, hgreatest⟩ : s.zeros = t.zeros ∧ s.bins = t.bins ∧
      s.least = t.least ∧ s.greatest = t.greatest := by
    simpa only [withoutSums, Prod.mk.injEq] using h
  have hcount : s.count = t.count := by rw [count, count, hzeros, hbins]
  have hquantile (q : Float) : s.quantile q = t.quantile q := by
    simp only [quantile, hcount, hzeros, hbins]
  unfold distribution
  rw [hcount]
  split
  · rfl
  · simp only [Distribution.withoutMoments, hquantile, hleast, hgreatest]

end JobLog.Metrics
