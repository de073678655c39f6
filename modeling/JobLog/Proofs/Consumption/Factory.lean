import JobLog.Proofs.Consumption.Hosting
import Mathlib.Data.Nat.Find
import Mathlib.Order.Bounds.Basic

/-!
# What a subscription asks of its factory

A subscription calls its factory for one worker after the other, before it takes anything, and stops
at the first failure. `FactoryCalls` states this of a broker in any state, with what the result of the
subscription then says; `factoryCalls_of_range` is how it is shown.
-/

namespace JobLog.Broker

variable {τ ω : Type} {setup : Setup τ ω} {workers : Nat} {remote : Bool}
  {result : Except BrokerError Unit}

/-- The factory fails for some worker. -/
def Setup.FailsBelow (setup : Setup τ ω) (workers : Nat) : Prop :=
  ∃ i < workers, setup.factory i ≠ .ok ()

/-- For how many workers the factory was called by a subscription that ended with some result. -/
def asked (workers : Nat) : Except BrokerError Unit → Nat
  | .error .noWorkers => 0
  | .error (.factory i _) => i + 1
  | .ok _ | .error _ => workers

/-- What the result of a subscription with so many workers says, whose factory was called so often:
that there are no workers if and only if there are none, and that the factory has failed if and only
if it does, and then for the first worker for which it does. -/
structure Verdict (setup : Setup τ ω) (workers calls : Nat) (result : Except BrokerError Unit) :
    Prop where
  noWorkers_iff : result = .error .noWorkers ↔ workers = 0
  failsBelow_iff : (∃ i reason, result = .error (.factory i reason)) ↔ setup.FailsBelow workers
  factory_iff : ∀ i, (∃ reason, result = .error (.factory i reason)) ↔
    IsLeast {j | j < workers ∧ setup.factory j ≠ .ok ()} i
  reason_eq : ∀ i reason, result = .error (.factory i reason) → setup.factory i = .error reason
  calls_eq : calls = asked workers result

/-- What a subscription with so many workers has asked of its factory, which was called for `calls`:
for one worker after the other, not beyond the first failure, and for all of them if the broker is
not `untouched`. -/
structure FactoryCalls (setup : Setup τ ω) (workers : Nat) (calls : List Nat) (untouched : Prop)
    (returned : Except BrokerError Unit → Prop) : Prop where
  calls_eq : calls = List.range calls.length
  length_le : calls.length ≤ workers
  succeeded : ∀ i, i + 1 < calls.length → setup.factory i = .ok ()
  first : untouched ∨ calls.length = workers ∧ ∀ i < workers, setup.factory i = .ok ()
  verdict : ∀ result, returned result → Verdict setup workers calls.length result

theorem not_failsBelow_iff :
    ¬setup.FailsBelow workers ↔ ∀ i < workers, setup.factory i = .ok () := by
  simp [Setup.FailsBelow]

/-- A subscription fails before it takes anything if and only if it has no workers or the factory
fails for one of them. -/
theorem exists_fails_iff :
    (∃ cause, Fails setup workers cause) ↔ workers = 0 ∨ setup.FailsBelow workers := by
  constructor
  · rintro ⟨cause, hfails⟩
    cases hfails with
    | noWorkers hnone => exact .inl hnone
    | @factory i reason hi hfailed => exact .inr ⟨i, hi, by simp [hfailed]⟩
  · rintro (hnone | hsome)
    · exact ⟨.noWorkers, .noWorkers hnone⟩
    · classical
      obtain ⟨hi, hfailed⟩ := Nat.find_spec hsome
      cases hfactory : setup.factory (Nat.find hsome) with
      | ok => exact absurd hfactory hfailed
      | error reason =>
          refine ⟨.factory _ reason, .factory hi hfactory fun j hj => ?_⟩
          by_contra hother
          exact Nat.find_min hsome hj ⟨hj.trans hi, hother⟩

/-- Where all processors were built, nothing explains a failure. -/
theorem Fails.not_built {cause : BrokerError} (h : Fails setup workers cause) (hpos : 0 < workers)
    (hbuilt : ∀ i < workers, setup.factory i = .ok ()) : False :=
  not_failsBelow_iff.2 hbuilt
    ((exists_fails_iff.1 ⟨cause, h⟩).resolve_left (Nat.pos_iff_ne_zero.1 hpos))

theorem Fails.asked_le {cause : BrokerError} (h : Fails setup workers cause) :
    asked workers (.error cause) ≤ workers := by
  cases h with
  | noWorkers => exact Nat.zero_le _
  | factory hi => exact hi

/-- A failure is not reached before the factory was called as often as it takes. -/
theorem Fails.lt_asked {cause : BrokerError} (h : Fails setup workers cause) (hpos : 0 < workers)
    {next : Nat} (hbefore : ∀ i < next, setup.factory i = .ok ()) :
    next < asked workers (.error cause) := by
  cases h with
  | noWorkers hnone => omega
  | @factory i reason hi hfailed hfirst =>
      refine Nat.lt_succ_of_le (Nat.not_lt.1 fun hlt => ?_)
      simp [hbefore i hlt] at hfailed

theorem CanReturn.asked_le (h : CanReturn setup remote workers result) :
    asked workers result ≤ workers := by
  cases result with
  | ok => exact Nat.le_refl _
  | error cause =>
      rcases h with hfails | ⟨reason, -, rfl, -⟩
      · exact hfails.asked_le
      · exact Nat.le_refl _

/-- All calls of the factory but the last have succeeded. -/
theorem CanReturn.succeeded (h : CanReturn setup remote workers result) {i : Nat}
    (hi : i + 1 < asked workers result) : setup.factory i = .ok () := by
  cases result with
  | ok => exact h.2 i (Nat.lt_of_succ_lt hi)
  | error cause =>
      rcases h with hfails | ⟨reason, -, rfl, -, hbuilt⟩
      · cases hfails with
        | noWorkers => simp [asked] at hi
        | factory _ _ hfirst => exact hfirst i (Nat.lt_of_succ_lt_succ hi)
      · exact hbuilt i (Nat.lt_of_succ_lt hi)

/-- Where all processors were built, the result speaks neither of their number nor of the factory. -/
theorem verdict_of_built (hpos : 0 < workers) (hbuilt : ∀ i < workers, setup.factory i = .ok ())
    (hnone : result ≠ .error .noWorkers) (hnot : ∀ i reason, result ≠ .error (.factory i reason)) :
    Verdict setup workers (asked workers result) result where
  noWorkers_iff := iff_of_false hnone (Nat.pos_iff_ne_zero.1 hpos)
  failsBelow_iff :=
    iff_of_false (fun ⟨i, reason, heq⟩ => hnot i reason heq) (not_failsBelow_iff.2 hbuilt)
  factory_iff i := iff_of_false (fun ⟨reason, heq⟩ => hnot i reason heq)
    fun hleast => hleast.1.2 (hbuilt i hleast.1.1)
  reason_eq i reason heq := absurd heq (hnot i reason)
  calls_eq := rfl

theorem CanReturn.verdict (h : CanReturn setup remote workers result) :
    Verdict setup workers (asked workers result) result := by
  cases result with
  | ok => exact verdict_of_built h.1 h.2 nofun nofun
  | error cause =>
      rcases h with hfails | ⟨reason, -, rfl, hpos, hbuilt⟩
      · cases hfails with
        | noWorkers hnone =>
            subst hnone
            have hnever : ¬setup.FailsBelow 0 := fun ⟨i, hi, _⟩ => absurd hi (Nat.not_lt_zero i)
            exact {
              noWorkers_iff := iff_of_true rfl rfl
              failsBelow_iff := iff_of_false nofun hnever
              factory_iff := fun i => iff_of_false nofun fun hleast => hnever ⟨i, hleast.1⟩
              reason_eq := nofun
              calls_eq := rfl }
        | @factory i reason hi hfailed hfirst =>
            have hleast : IsLeast {j | j < workers ∧ setup.factory j ≠ .ok ()} i := by
              refine ⟨⟨hi, by simp [hfailed]⟩, fun j hj => ?_⟩
              by_contra hlt
              exact hj.2 (hfirst j (Nat.not_le.1 hlt))
            exact {
              noWorkers_iff := iff_of_false nofun (Nat.pos_iff_ne_zero.1 (Nat.zero_lt_of_lt hi))
              failsBelow_iff := iff_of_true ⟨i, reason, rfl⟩ ⟨i, hleast.1⟩
              factory_iff := fun j => by
                constructor
                · rintro ⟨other, ⟨⟩⟩
                  exact hleast
                · intro hother
                  obtain rfl := hother.unique hleast
                  exact ⟨reason, rfl⟩
              reason_eq := by
                rintro j other ⟨⟩
                exact hfailed
              calls_eq := rfl }
      · exact verdict_of_built hpos hbuilt nofun nofun

/-- What is asked of a factory, if it was called for the first `count` workers. -/
theorem factoryCalls_of_range {count : Nat} {untouched : Prop}
    {returned : Except BrokerError Unit → Prop} (hle : count ≤ workers)
    (hsucceeded : ∀ i, i + 1 < count → setup.factory i = .ok ())
    (hfirst : untouched ∨ count = workers ∧ ∀ i < workers, setup.factory i = .ok ())
    (hresult : ∀ result, returned result →
      count = asked workers result ∧ CanReturn setup remote workers result) :
    FactoryCalls setup workers (List.range count) untouched returned where
  calls_eq := by rw [List.length_range]
  length_le := by rwa [List.length_range]
  succeeded := by rwa [List.length_range]
  first := by rwa [List.length_range]
  verdict result hreturned := by
    obtain ⟨hcount, hcan⟩ := hresult result hreturned
    rw [List.length_range, hcount]
    exact hcan.verdict

/-- What the steps of a run give, one after the other. -/
def gather {σ ι α : Type} (step : σ → ι → Option σ) (give : σ → ι → List α) (s : σ) :
    List ι → List α
  | [] => []
  | label :: labels =>
    give s label ++
      match step s label with
      | some t => gather step give t labels
      | none => []

/-- If every step adds to what is `seen` what it gives, a run does. -/
theorem seen_eq_append_gather {σ ι α : Type} {step : σ → ι → Option σ} {give : σ → ι → List α}
    {seen : σ → List α} {P : σ → Prop} {labels : List ι} {s t : σ}
    (hstep : ∀ {a b label}, step a label = some b → P a → P b ∧ seen b = seen a ++ give a label)
    (hrun : labels.foldlM step s = some t) (hs : P s) :
    P t ∧ seen t = seen s ++ gather step give s labels := by
  induction labels generalizing s with
  | nil =>
      cases hrun
      exact ⟨hs, (List.append_nil _).symm⟩
  | cons label labels ih =>
      obtain ⟨r, hfirst, hrest⟩ := Option.bind_eq_some_iff.1 hrun
      obtain ⟨hr, hseen⟩ := hstep hfirst hs
      obtain ⟨ht, hall⟩ := ih hrest hr
      refine ⟨ht, ?_⟩
      simp only [gather, hfirst, hall, hseen, List.append_assoc]

/-- Where some step of a party's own always leads closer to the end, it gets there by such steps. -/
theorem exists_run_of_closer {σ ι : Type} (step : σ → ι → Option σ) {own : ι → Prop}
    {ended : σ → Prop} {P : σ → Nat → Prop}
    (hstep : ∀ s n, P s n → ¬ended s →
      ∃ label t m, own label ∧ step s label = some t ∧ P t m ∧ m < n)
    {s : σ} {n : Nat} (hs : P s n) :
    ∃ (labels : List ι) (t : σ), (∀ label ∈ labels, own label) ∧ labels.length ≤ n ∧
      labels.foldlM step s = some t ∧ ended t := by
  induction n using Nat.strong_induction_on generalizing s with
  | _ n ih =>
      by_cases hended : ended s
      · exact ⟨[], s, nofun, Nat.zero_le _, rfl, hended⟩
      · obtain ⟨label, r, m, hown, hfirst, hr, hlt⟩ := hstep s n hs hended
        obtain ⟨labels, t, howns, hlength, hrun, ht⟩ := ih m hlt hr
        refine ⟨label :: labels, t, List.forall_mem_cons.2 ⟨hown, howns⟩, ?_, ?_, ht⟩
        · exact Nat.lt_of_le_of_lt hlength hlt
        · rw [List.foldlM_cons, hfirst]
          exact hrun

end JobLog.Broker
