import JobLog.Proofs.Config.Acceptance

/-!
# The prefetch bound and its warning

The bound is the exact product of workers and multiplier, kept between one and the largest number
that the protocol can express, so it never wraps and grows with both factors
(`Broker.prefetch_le_prefetch`). The warning is about a bound that was cut. It looks at the bound
and not at the product: it is there for every bound that was cut (`Config.prefetch_lt_wanted_iff`),
and also for the one product that equals the largest bound and fits. `Config.validate_saturation`
says both.
-/

namespace JobLog

namespace Broker

variable {workers more multiplier larger : Nat}

/-- More workers or a larger multiplier never lower the bound. -/
theorem prefetch_le_prefetch (hworkers : workers ≤ more) (hmultiplier : multiplier ≤ larger) :
    prefetch workers multiplier ≤ prefetch more larger := by
  have hproduct : workers * multiplier ≤ more * larger := Nat.mul_le_mul hworkers hmultiplier
  rw [prefetch_eq, prefetch_eq]
  omega

/-- The bound is less than the product exactly if the protocol cannot express the product. -/
theorem prefetch_lt_mul_iff :
    prefetch workers multiplier < workers * multiplier ↔ maxPrefetch < workers * multiplier := by
  have hmax : 1 ≤ maxPrefetch := by decide
  rw [prefetch_eq]
  omega

/-- The largest bound is reached by every product that is at least as large. -/
theorem prefetch_eq_max_iff :
    prefetch workers multiplier = maxPrefetch ↔ maxPrefetch ≤ workers * multiplier := by
  have hmax : 1 < maxPrefetch := by decide
  rw [prefetch_eq]
  omega

end Broker

namespace Config

variable {c : Config}

/-- Deliveries that the pool would hold without any bound: its exact product. -/
def wanted (c : Config) : Nat :=
  c.pool.workers.toNat * c.broker.multiplier.toNat

/-- The warning that the bound was cut. -/
def warning (c : Config) : Event :=
  .plain .warn "logrelay_worker::config" "Prefetch bound saturated at the protocol maximum"
    [("workers", .integer c.pool.workers.toNat),
      ("multiplier", .integer c.broker.multiplier.toNat)]

/-- The bound was cut exactly if the product exceeds the largest bound. -/
theorem prefetch_lt_wanted_iff : c.prefetch < c.wanted ↔ Broker.maxPrefetch < c.wanted :=
  Broker.prefetch_lt_mul_iff

theorem saturation_eq :
    c.saturation = if Broker.maxPrefetch ≤ c.wanted then [c.warning] else [] := by
  have hmax : c.prefetch = Broker.maxPrefetch ↔ Broker.maxPrefetch ≤ c.wanted :=
    Broker.prefetch_eq_max_iff
  rw [saturation]
  simp only [hmax, warning]

/-- What a valid configuration is warned of. -/
theorem validate_eq (hvalid : c.Valid) :
    c.validate = .ok (if Broker.maxPrefetch ≤ c.wanted then [c.warning] else []) := by
  rw [validate_eq_ok_iff, saturation_eq]
  exact ⟨hvalid, rfl⟩

/-- The configuration is accepted with the warning. -/
def Warns (c : Config) : Prop :=
  ∃ events, c.validate = .ok events ∧ c.warning ∈ events

theorem warns_iff (hvalid : c.Valid) : c.Warns ↔ Broker.maxPrefetch ≤ c.wanted := by
  rw [Warns, validate_eq hvalid]
  by_cases hlarge : Broker.maxPrefetch ≤ c.wanted
  · rw [if_pos hlarge]
    exact iff_of_true ⟨[c.warning], rfl, List.mem_singleton_self _⟩ hlarge
  · rw [if_neg hlarge]
    refine iff_of_false ?_ hlarge
    rintro ⟨events, hevents, hwarning⟩
    cases hevents
    cases hwarning

/-- The bound is the exact product kept between one and the largest bound, and grows with both
factors. A valid configuration is warned of if its bound was cut, and also if its product is the
largest bound itself, which nothing cuts: for every other product, and only for those, the warning
is there exactly if the bound was cut. -/
theorem validate_saturation {workers more multiplier larger : Nat} (hworkers : workers ≤ more)
    (hmultiplier : multiplier ≤ larger) (hvalid : c.Valid) :
    Broker.prefetch workers multiplier = max (min (workers * multiplier) Broker.maxPrefetch) 1 ∧
    Broker.prefetch workers multiplier ≤ Broker.prefetch more larger ∧
    (c.prefetch < c.wanted ↔ Broker.maxPrefetch < c.wanted) ∧
    c.validate =
      .ok (if c.prefetch < c.wanted ∨ c.wanted = Broker.maxPrefetch then [c.warning] else []) ∧
    ((c.Warns ↔ c.prefetch < c.wanted) ↔ c.wanted ≠ Broker.maxPrefetch) := by
  have hreached : Broker.maxPrefetch ≤ c.wanted ↔
      c.prefetch < c.wanted ∨ c.wanted = Broker.maxPrefetch := by
    rw [prefetch_lt_wanted_iff]
    omega
  refine ⟨Broker.prefetch_eq _ _, Broker.prefetch_le_prefetch hworkers hmultiplier,
    prefetch_lt_wanted_iff, ?_, ?_⟩
  · rw [validate_eq hvalid]
    simp only [hreached]
  · rw [warns_iff hvalid, prefetch_lt_wanted_iff]
    omega

/-- A pool with the given number of workers and the given multiplier. -/
def sized (workers : UInt64) (multiplier : UInt16) : Config where
  broker := ⟨"amqp://localhost", "reporting.jobs.logs", "reporting", multiplier⟩
  database := ⟨"postgresql://localhost/logs", 30, 1⟩
  pusher := ⟨"key", "secret", "1234", "https://api.pusherapp.com", 3, 5⟩
  pool := ⟨workers, 60⟩

theorem valid_sized {workers : UInt64} {multiplier : UInt16} (hworkers : 0 < workers.toNat)
    (hmultiplier : 0 < multiplier.toNat) : (sized workers multiplier).Valid where
  workers := hworkers
  multiplier := hmultiplier
  interval := Nat.zero_lt_succ 59
  connections := Nat.one_pos
  queue := rfl
  endpoint := show isWebAddress "https://api.pusherapp.com" = true by decide

/-- The largest product is cut, and the factors have not wrapped around. -/
theorem validate_saturation_largest :
    (sized 18446744073709551615 65535).Valid ∧
      Broker.prefetch 18446744073709551615 65534 ≤ Broker.prefetch 18446744073709551615 65535 ∧
      (sized 18446744073709551615 65535).prefetch = 65535 ∧
      (sized 18446744073709551615 65535).validate =
        .ok [(sized 18446744073709551615 65535).warning] ∧
      (sized 18446744073709551615 65535).Warns := by
  have hvalid : (sized 18446744073709551615 65535).Valid := valid_sized (by decide) (by decide)
  have hcut : (sized 18446744073709551615 65535).prefetch <
      (sized 18446744073709551615 65535).wanted := by decide
  obtain ⟨-, hgrows, -, hvalidate, hwarns⟩ := validate_saturation
    (Nat.le_refl 18446744073709551615) (Nat.le_succ 65534) hvalid
  refine ⟨hvalid, hgrows, by decide, ?_, (hwarns.2 (by decide)).2 hcut⟩
  rw [hvalidate, if_pos (.inl hcut)]

/-- A valid configuration with the largest bound that fits is warned of although nothing is cut. -/
theorem validate_uncut :
    (sized 65535 1).Valid ∧ (sized 65535 1).wanted = 65535 ∧
      (sized 65535 1).prefetch = (sized 65535 1).wanted ∧
      (sized 65535 1).validate = .ok [(sized 65535 1).warning] :=
  ⟨valid_sized (by decide) (by decide), by decide, by decide, rfl⟩

end Config

end JobLog
