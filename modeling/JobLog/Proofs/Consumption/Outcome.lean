import JobLog.Proofs.Consumption.Hosting
import JobLog.Proofs.Consumption.Steps

/-!
# How a consumption can end

A consumption returns what its own call of `subscribe` has returned, or the reason why that call was
refused, which is that the broker had been closed before. In any case the broker is closed by then
and its workers have ended. `Consumption.Kept` is what every step keeps on the way to this.
-/

namespace JobLog.Broker

variable {τ ω β ι : Type} {via : Interface β ι} {view : View τ ω β} {setup : Setup τ ω}
  {kept : Option Nat → β → Prop} {workers : Nat}

/-- A consumption with so many workers can end with this. -/
def CanEnd (setup : Setup τ ω) (remote : Bool) (workers : Nat) (result : Except BrokerError Unit) :
    Prop :=
  CanReturn setup remote workers result ∨ result = .error (.invalidState .closed .subscribed)

namespace Consumption

variable {c e : Consumption β}

/-- How a broker is kept while a call of `subscribe` is where it is. -/
def Hosts (kept : Option Nat → β → Prop) (workers : Nat) (broker : β) : Call → Prop
  | .unstarted => kept none broker
  | .running => kept (some workers) broker
  | .refused cause => kept none broker ∧ cause = .invalidState .closed .subscribed

/-- A consumption hosts its broker as its call of `subscribe` demands. The broker is closed when the
race is decided, and the result is that of the call. -/
structure Kept (via : Interface β ι) (view : View τ ω β) (kept : Option Nat → β → Prop)
    (workers : Nat) (c : Consumption β) : Prop where
  hosts : Hosts kept workers c.broker c.call
  closed : c.race = .undecided ∨ view.lifecycle c.broker = .closed
  ended : ∀ result, c.race = .ended result → c.returned? via = some result

theorem result?_eq_some_iff {result : Except BrokerError Unit} :
    c.result? = some result ↔ c.race = .ended result := by
  unfold result?
  split
  · simp [*]
  · rename_i hgoing
    exact ⟨nofun, fun hended => absurd hended (hgoing result)⟩

theorem kept_start {broker : β} (h : kept none broker) :
    (start broker).Kept via view kept workers :=
  ⟨h, .inl rfl, nofun⟩

/-- What holds of a broker in every stage of its life is passed on to the consumption. -/
theorem Hosts.map {call : Call} {b d : β} (h : Hosts kept workers b call)
    (hnext : ∀ {n}, kept n b → kept n d) : Hosts kept workers d call := by
  cases call with
  | unstarted | running => exact hnext h
  | refused => exact ⟨hnext h.1, h.2⟩

/-- A consumption's broker is kept at some stage of its life. -/
theorem Hosts.exists_kept {call : Call} {b : β} (h : Hosts kept workers b call) :
    ∃ n, kept n b := by
  cases call with
  | unstarted => exact ⟨none, h⟩
  | running => exact ⟨some workers, h⟩
  | refused => exact ⟨none, h.1⟩

/-- A call that has returned stays so while the broker goes on. -/
theorem returned?_eq_some {b d : β} {call : Call} {race other : Race}
    {result : Except BrokerError Unit}
    (hstays : via.returned? b = some result → via.returned? d = some result)
    (h : (⟨b, call, race⟩ : Consumption β).returned? via = some result) :
    (⟨d, call, other⟩ : Consumption β).returned? via = some result := by
  cases call with
  | unstarted | refused => exact h
  | running => exact hstays h

theorem Kept.begin (hsound : via.Sound view setup kept) (h : c.Kept via view kept workers)
    (hcall : c.call = .unstarted) (hrace : ∀ result, c.race ≠ .ended result) :
    (c.begin via workers).Kept via view kept workers ∧
      view.pool (c.begin via workers).broker = view.pool c.broker := by
  have hhosts := h.hosts
  rw [hcall] at hhosts
  unfold Consumption.begin
  split
  · rename_i broker hpassed
    obtain ⟨hkept, hpool, hopen⟩ := hsound.subscribe hhosts hpassed
    refine ⟨⟨hkept, .inl (h.closed.resolve_right hopen), fun result hended => ?_⟩, hpool⟩
    exact absurd hended (hrace result)
  · rename_i cause hrefused
    obtain ⟨hcause, -⟩ := hsound.refused hhosts hrefused
    exact ⟨⟨⟨hhosts, hcause⟩, h.closed, fun result hended => absurd hended (hrace result)⟩, rfl⟩

/-- Closing the broker decides the race. -/
theorem Kept.close (hsound : via.Sound view setup kept) (h : c.Kept via view kept workers)
    {race : Race} (hrace : ∀ result, race ≠ .ended result) :
    ({ c with broker := (via.close c.broker).2, race } : Consumption β).Kept via view kept workers ∧
      view.pool (via.close c.broker).2 = view.pool c.broker := by
  obtain ⟨n, hkept⟩ := h.hosts.exists_kept
  obtain ⟨-, hpool, hclosed, -⟩ := hsound.close hkept
  exact ⟨⟨h.hosts.map fun hkept => (hsound.close hkept).1, .inr hclosed,
    fun result hended => absurd hended (hrace result)⟩, hpool⟩

/-- A step of the broker. -/
theorem Kept.inner (hsound : via.Sound view setup kept) (h : c.Kept via view kept workers)
    {label : ι} {broker : β} (hstep : via.step c.broker label = some broker) :
    ({ c with broker } : Consumption β).Kept via view kept workers ∧
      (view.pool c.broker).Advances setup.processor (view.pool broker) := by
  obtain ⟨n, hkept⟩ := h.hosts.exists_kept
  obtain ⟨-, hpool, hclosed, hstays⟩ := hsound.step hkept hstep
  refine ⟨⟨h.hosts.map fun hkept => (hsound.step hkept hstep).1, h.closed.imp_right hclosed,
    fun result hended => ?_⟩, hpool⟩
  exact returned?_eq_some (hstays result) (h.ended result hended)

/-- The step that ends a consumption changes nothing else. -/
theorem step_ended {label : Label ι} (hgoing : ∀ result, c.race ≠ .ended result)
    (hstep : c.step via workers label = some e) {result : Except BrokerError Unit}
    (hended : e.race = .ended result) : e.broker = c.broker := by
  cases moves_of_step hstep with
  | begun =>
      have hrace : (c.begin via workers).race = c.race := by
        unfold Consumption.begin
        split <;> rfl
      exact absurd (hrace.symm.trans hended) (hgoing result)
  | inner => exact absurd hended (hgoing result)
  | settled | shutDown => cases hended
  | concluded => rfl

/-- Every step of a consumption keeps its broker, and its workers go on by one step at most. -/
theorem Kept.step (hsound : via.Sound view setup kept) (h : c.Kept via view kept workers)
    {label : Label ι} (hstep : c.step via workers label = some e) :
    e.Kept via view kept workers ∧
      (view.pool c.broker).Advances setup.processor (view.pool e.broker) := by
  cases moves_of_step hstep with
  | begun hcall hrace =>
      have hopen (result : Except BrokerError Unit) : c.race ≠ .ended result := by
        rcases hrace with hrace | ⟨i, hrace⟩ <;> simp [hrace]
      obtain ⟨hkept, hpool⟩ := h.begin hsound hcall hopen
      exact ⟨hkept, hpool ▸ .still⟩
  | inner hinner => exact h.inner hsound hinner
  | settled =>
      have hopen : ∀ result, Race.subscriptionWon (via.close c.broker).1 ≠ .ended result := nofun
      obtain ⟨hkept, hpool⟩ := h.close hsound hopen
      exact ⟨hkept, hpool ▸ .still⟩
  | shutDown =>
      have hopen : ∀ result, Race.shutdownWon (via.close c.broker).1 ≠ .ended result := nofun
      obtain ⟨hkept, hpool⟩ := h.close hsound hopen
      exact ⟨hkept, hpool ▸ .still⟩
  | @concluded i result hrace _ hreturned =>
      have hdecided : c.race ≠ .undecided := by rcases hrace with hrace | hrace <;> simp [hrace]
      refine ⟨⟨h.hosts, .inr (h.closed.resolve_left hdecided), fun other hended => ?_⟩, .still⟩
      obtain rfl : result = other := Race.ended.inj hended
      exact hreturned

/-- Somebody else changes the world that the workers share. -/
theorem Kept.update (hsound : via.Sound view setup kept) (h : c.Kept via view kept workers)
    (f : ω → ω) :
    ({ c with broker := view.update f c.broker } : Consumption β).Kept via view kept workers ∧
      view.pool (view.update f c.broker) = (view.pool c.broker).inWorld f := by
  obtain ⟨n, hkept⟩ := h.hosts.exists_kept
  obtain ⟨-, hpool, hlifecycle, hreturned⟩ := hsound.update f hkept
  refine ⟨⟨h.hosts.map fun hkept => (hsound.update f hkept).1,
    h.closed.imp_right hlifecycle.trans, fun result hended => ?_⟩, hpool⟩
  exact returned?_eq_some hreturned.trans (h.ended result hended)

/-- When a consumption has ended, its broker is closed, no worker goes on, and the result is one that
a subscription can return, or says that the broker was closed before the subscription began. -/
theorem Kept.outcome (hsound : via.Sound view setup kept) (h : c.Kept via view kept workers)
    {result : Except BrokerError Unit} (hended : c.race = .ended result) :
    view.lifecycle c.broker = .closed ∧ (view.pool c.broker).isDone = true ∧
      CanEnd setup view.remote workers result := by
  have hreturned := h.ended result hended
  have hhosts := h.hosts
  refine ⟨h.closed.resolve_left (by simp [hended]), ?_⟩
  unfold returned? at hreturned
  split at hreturned <;> rename_i hcall <;> rw [hcall] at hhosts
  · cases hreturned
  · cases hreturned
    rw [hhosts.2]
    exact ⟨hsound.idle hhosts.1, .inr rfl⟩
  · obtain ⟨hdone, hresult⟩ := hsound.returned hhosts hreturned
    exact ⟨hdone, .inl hresult⟩

end Consumption

end JobLog.Broker
