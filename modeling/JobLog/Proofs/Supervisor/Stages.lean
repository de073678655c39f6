import JobLog.Proofs.Consumption.Outcome
import JobLog.Proofs.Pipeline.Recording
import JobLog.Proofs.Supervisor.Steps

/-!
# Where a supervisor is

At each stage of a start it is known which calls have been made, whether the flush loop ticks and how
far the consumption is: `Supervision.InStage`. Besides, the consumption keeps its broker
(`Supervision.Hosted`), and in the world that goes through all this one duration is recorded for each
message that is taken (`Supervision.Counted`). All three hold of every state that a start can reach.
-/

namespace JobLog

variable {τ σ β ι : Type}

namespace Dependencies

/-- The calls that a start makes, up to the first that fails. -/
def called (d : Dependencies σ β ι) : List Supervision.Call :=
  match d.store.result, d.broadcaster.result, d.broker.result with
  | .error _, _, _ => [.store]
  | .ok _, .error _, _ => [.store, .broadcaster]
  | .ok _, .ok _, .error _ => [.store, .broadcaster, .broker]
  | .ok _, .ok _, .ok _ => [.store, .broadcaster, .broker, .factory]

/-- The error of the first check that fails, or of the broker. -/
def refusal? (d : Dependencies σ β ι) : Option StartupError :=
  match d.store.result, d.broadcaster.result, d.broker.result with
  | .error e, _, _ => some e
  | .ok _, .error e, _ => some e
  | .ok _, .ok _, .error e => some e
  | .ok _, .ok _, .ok _ => none

/-- Both checks succeed. -/
def Passes (d : Dependencies σ β ι) : Prop :=
  d.store.result = .ok () ∧ d.broadcaster.result = .ok ()

variable {d : Dependencies σ β ι}

theorem refused_by_store {e : StartupError} (h : d.store.result = .error e) :
    d.refusal? = some e ∧ d.called = [.store] := by
  simp only [refusal?, called, h, and_self]

theorem refused_by_broadcaster {e : StartupError} (hstore : d.store.result = .ok ())
    (h : d.broadcaster.result = .error e) :
    d.refusal? = some e ∧ d.called = [.store, .broadcaster] := by
  simp only [refusal?, called, hstore, h, and_self]

theorem Passes.refused_by_broker {e : StartupError} (hpasses : d.Passes)
    (h : d.broker.result = .error e) :
    d.refusal? = some e ∧ d.called = [.store, .broadcaster, .broker] := by
  simp only [refusal?, called, hpasses.1, hpasses.2, h, and_self]

/-- If the broker connects, nothing has been refused, and all calls are made. -/
theorem Passes.complete {connect : World σ → β} (hpasses : d.Passes)
    (h : d.broker.result = .ok connect) :
    d.refusal? = none ∧ d.called = [.store, .broadcaster, .broker, .factory] := by
  simp only [refusal?, called, hpasses.1, hpasses.2, h, and_self]

/-- The broker of these dependencies is sound, shares its workers' world, and has no workers when it
is connected. -/
structure Hosting (d : Dependencies σ β ι) (view : Broker.View τ (World σ) β)
    (setup : Broker.Setup τ (World σ)) (kept : Option Nat → β → Prop) : Prop where
  sound : d.via.Sound view setup kept
  world : ∀ b, d.world b = (view.pool b).world
  update : d.update = view.update
  connected : ∀ {connect}, d.broker.result = .ok connect → ∀ w,
    kept none (connect w) ∧ view.pool (connect w) = .start 0 w

end Dependencies

/-- A change of the world that records no duration. -/
def World.Unrecording (f : World σ → World σ) : Prop :=
  ∀ w, (f w).metrics.processing.recorded = w.metrics.processing.recorded

theorem World.unrecording_report (events : List Event) :
    Unrecording fun w : World σ => w.report events :=
  fun _ => rfl

theorem World.unrecording_flush : Unrecording (σ := σ) World.flush :=
  fun w => (w.metrics.report_counts w.clock).1

namespace Supervision

variable {view : Broker.View τ (World σ) β} {setup : Broker.Setup τ (World σ)}
  {kept : Option Nat → β → Prop} {due : τ → Nat} {earlier : Nat}
  {d : Dependencies σ β ι} {o : Order} {s t : Supervision σ β} {labels : List (Label ι)}

/-! ## Stages -/

/-- Whether the flush loop ticks, once it has been started. -/
def ticking (s : Supervision σ β) : Option Bool :=
  s.loop.map (·.running)

/-- How far the consumption is, once there is one. -/
def race? (s : Supervision σ β) : Option Broker.Race :=
  s.consumption.map (·.race)

/-- A consumption is under way. -/
def Underway (s : Supervision σ β) : Prop :=
  ∃ race, s.race? = some race ∧ ∀ result, race ≠ .ended result

/-- The flush loop was started if both checks had succeeded, and has been stopped. -/
def Stopped (d : Dependencies σ β ι) (s : Supervision σ β) : Prop :=
  (d.Passes ∧ s.ticking = some false) ∨ (¬ d.Passes ∧ s.ticking = none)

/-- A supervisor has returned what it should. -/
def Concluded (d : Dependencies σ β ι) (s : Supervision σ β) (result : Except StartupError Unit) :
    Prop :=
  match d.refusal? with
  | some e => result = .error e ∧ s.race? = none
  | none => ∃ r, s.race? = some (.ended r) ∧ result = r.mapError .broker

/-- What holds at each stage of a start. -/
def InStage (d : Dependencies σ β ι) (s : Supervision σ β) : Prop :=
  match s.stage with
  | .checkStore => s.calls = [] ∧ s.ticking = none ∧ s.race? = none
  | .checkBroadcaster =>
    d.store.result = .ok () ∧ s.calls = [.store] ∧ s.ticking = none ∧ s.race? = none
  | .startLoop => d.Passes ∧ s.calls = [.store, .broadcaster] ∧ s.ticking = none ∧ s.race? = none
  | .dial => d.Passes ∧ s.calls = [.store, .broadcaster] ∧ s.ticking = some true ∧ s.race? = none
  | .dialing =>
    d.Passes ∧ s.calls = [.store, .broadcaster, .broker] ∧ s.ticking = some true ∧ s.race? = none
  | .makeFactory =>
    d.Passes ∧ (∃ connect, d.broker.result = .ok connect) ∧
      s.calls = [.store, .broadcaster, .broker] ∧ s.ticking = some true ∧ s.Underway
  | .consuming =>
    d.Passes ∧ (∃ connect, d.broker.result = .ok connect) ∧
      s.calls = [.store, .broadcaster, .broker, .factory] ∧ s.ticking = some true ∧ s.Underway
  | .returned result => s.calls = d.called ∧ s.Stopped d ∧ s.Concluded d result

@[simp] theorem update_ticking (f : World σ → World σ) : (s.update d f).ticking = s.ticking := by
  rw [ticking, update_loop, ticking]

theorem update_consumption (f : World σ → World σ) :
    (s.update d f).consumption =
      s.consumption.map fun c => { c with broker := d.update f c.broker } := by
  unfold update
  split <;> simp [*]

theorem update_apart (f : World σ → World σ) (hnone : s.consumption = none) :
    (s.update d f).apart = f s.apart := by
  simp only [update, hnone]

@[simp] theorem update_race? (f : World σ → World σ) : (s.update d f).race? = s.race? := by
  rw [race?, update_consumption, Option.map_map, race?]
  rfl

@[simp] theorem call_ticking (which : Call) (events : List Event) :
    (s.call d which events).ticking = s.ticking := by
  rw [call, update_ticking]
  rfl

@[simp] theorem call_race? (which : Call) (events : List Event) :
    (s.call d which events).race? = s.race? := by
  rw [call, update_race?]
  rfl

/-- A step that changes neither the stage nor the calls, and neither stops the loop nor decides the
race. -/
theorem InStage.of_eq (h : s.InStage d) (hstage : t.stage = s.stage) (hcalls : t.calls = s.calls)
    (hticking : t.ticking = s.ticking) (hrace : t.race? = s.race?) : t.InStage d := by
  simpa only [InStage, Underway, Stopped, Concluded, hstage, hcalls, hticking, hrace] using h

/-- A step of the broker does not decide the race. -/
theorem race_of_inner {c e : Broker.Consumption β} {label : ι}
    (hstep : c.step d.via o.workers (.inner label) = some e) : e.race = c.race := by
  obtain ⟨broker, -, rfl⟩ := Option.map_eq_some_iff.1 hstep
  rfl

/-- A request to shut down is not the end of a consumption. -/
theorem race_of_shutdown {c e : Broker.Consumption β}
    (hstep : c.step d.via o.workers .shutdown = some e) (result : Except BrokerError Unit) :
    e.race ≠ .ended result := by
  simp only [Broker.Consumption.step] at hstep
  split at hstep <;> cases hstep
  intro hended
  cases hended

/-- Whoever returns stops the flush loop. -/
theorem leave_ticking (result : Except StartupError Unit) :
    (s.leave result).ticking = s.ticking.map fun _ => false := by
  simp only [ticking, leave, Option.map_map]
  rfl

/-- One more call has been made. -/
theorem calls_of_call {made : List Call} (hcalls : s.calls = made) (which : Call)
    (events : List Event) : (s.call d which events).calls = made ++ [which] := by
  rw [call_calls, hcalls]

/-- A supervisor that returns the error of a call returns what it should. -/
theorem inStage_leave {e : StartupError} (hrefusal : d.refusal? = some e)
    (hcalls : s.calls = d.called) (hstopped : (s.leave (.error e)).Stopped d)
    (hrace : s.race? = none) : (s.leave (.error e)).InStage d := by
  refine ⟨hcalls, hstopped, ?_⟩
  rw [Concluded, hrefusal]
  exact ⟨rfl, hrace⟩

/-- A supervisor whose check has failed returns before the flush loop is started. -/
theorem inStage_leave_call {e : StartupError} {made : List Call} {which : Call}
    {events : List Event} (hrefusal : d.refusal? = some e) (hcalled : d.called = made ++ [which])
    (hfails : ¬ d.Passes) (hcalls : s.calls = made) (hticking : s.ticking = none)
    (hrace : s.race? = none) : ((s.call d which events).leave (.error e)).InStage d := by
  refine inStage_leave hrefusal ?_ (.inr ⟨hfails, ?_⟩) ((call_race? ..).trans hrace)
  · exact (calls_of_call hcalls ..).trans hcalled.symm
  · rw [leave_ticking, call_ticking, hticking]
    rfl

theorem Moves.inStage {label : Label ι} (hmove : Moves d o s label t) (h : s.InStage d) :
    t.InStage d := by
  cases hmove with
  | storeFailed hstage hresult =>
      simp only [InStage, hstage] at h
      obtain ⟨hcalls, hticking, hrace⟩ := h
      obtain ⟨hrefusal, hcalled⟩ := d.refused_by_store hresult
      refine inStage_leave_call hrefusal hcalled (fun hpasses => ?_) hcalls hticking hrace
      cases hresult.symm.trans hpasses.1
  | storeChecked hstage hresult =>
      simp only [InStage, hstage] at h
      obtain ⟨hcalls, hticking, hrace⟩ := h
      exact ⟨hresult, calls_of_call hcalls .., (call_ticking ..).trans hticking,
        (call_race? ..).trans hrace⟩
  | broadcasterFailed hstage hresult =>
      simp only [InStage, hstage] at h
      obtain ⟨hstore, hcalls, hticking, hrace⟩ := h
      obtain ⟨hrefusal, hcalled⟩ := d.refused_by_broadcaster hstore hresult
      refine inStage_leave_call hrefusal hcalled (fun hpasses => ?_) hcalls hticking hrace
      cases hresult.symm.trans hpasses.2
  | broadcasterChecked hstage hresult =>
      simp only [InStage, hstage] at h
      obtain ⟨hstore, hcalls, hticking, hrace⟩ := h
      exact ⟨⟨hstore, hresult⟩, calls_of_call hcalls .., (call_ticking ..).trans hticking,
        (call_race? ..).trans hrace⟩
  | loopStarted hstage =>
      simp only [InStage, hstage] at h
      obtain ⟨hpasses, hcalls, -, hrace⟩ := h
      simp only [InStage, update_stage]
      refine ⟨hpasses, (update_calls ..).trans hcalls, ?_, (update_race? _).trans hrace⟩
      rw [update_ticking]
      rfl
  | dialed hstage =>
      simp only [InStage, hstage] at h
      obtain ⟨hpasses, hcalls, hticking, hrace⟩ := h
      exact ⟨hpasses, calls_of_call hcalls .., (call_ticking ..).trans hticking,
        (call_race? ..).trans hrace⟩
  | dialFailed hstage hresult =>
      simp only [InStage, hstage] at h
      obtain ⟨hpasses, hcalls, hticking, hrace⟩ := h
      obtain ⟨hrefusal, hcalled⟩ := hpasses.refused_by_broker hresult
      refine inStage_leave hrefusal (hcalls.trans hcalled.symm) (.inl ⟨hpasses, ?_⟩) hrace
      rw [leave_ticking, hticking]
      rfl
  | @connected connect hstage hresult =>
      simp only [InStage, hstage] at h
      obtain ⟨hpasses, hcalls, hticking, -⟩ := h
      exact ⟨hpasses, ⟨connect, hresult⟩, hcalls, hticking, .undecided, rfl, nofun⟩
  | factoryMade hstage =>
      simp only [InStage, hstage] at h
      obtain ⟨hpasses, hconnects, hcalls, hticking, race, hrace, hgoing⟩ := h
      exact ⟨hpasses, hconnects, calls_of_call hcalls .., (call_ticking ..).trans hticking, race,
        (call_race? ..).trans hrace, hgoing⟩
  | flushed hloop hrunning hdue =>
      refine h.of_eq (update_stage ..) (update_calls ..) ?_ (update_race? _)
      rw [update_ticking, ticking, ticking, hloop]
      rfl
  | passed => exact h.of_eq (update_stage ..) (update_calls ..) (update_ticking _) (update_race? _)
  | @shutdown c e hstage hconsumption hstep =>
      simp only [InStage, hstage] at h
      obtain ⟨hpasses, hconnects, hcalls, hticking, -⟩ := h
      simp only [InStage, update_stage, hstage, update_calls, update_ticking]
      exact ⟨hpasses, hconnects, hcalls, hticking, e.race, update_race? _, race_of_shutdown hstep⟩
  | @consumed c e label hstage hconsumption hstep hgoing =>
      simp only [InStage, hstage] at h
      obtain ⟨hpasses, hconnects, hcalls, hticking, -⟩ := h
      simp only [InStage, hstage]
      refine ⟨hpasses, hconnects, hcalls, hticking, e.race, rfl, fun result hended => ?_⟩
      rw [Broker.Consumption.result?_eq_some_iff.2 hended] at hgoing
      cases hgoing
  | @finished c e label result hstage hconsumption hstep hended =>
      simp only [InStage, hstage] at h
      obtain ⟨hpasses, ⟨connect, hbroker⟩, hcalls, hticking, -⟩ := h
      obtain ⟨hrefusal, hcalled⟩ := hpasses.complete hbroker
      have hrace : e.race = .ended result := Broker.Consumption.result?_eq_some_iff.1 hended
      simp only [InStage, finish, update_stage, update_calls, Stopped, update_ticking]
      refine ⟨hcalls.trans hcalled.symm, .inl ⟨hpasses, ?_⟩, ?_⟩
      · rw [leave_ticking]
        exact congrArg (Option.map fun _ => false) hticking
      · rw [Concluded, hrefusal]
        exact ⟨result, (update_race? _).trans (congrArg some hrace), rfl⟩
  | beside hstage hconsumption hstep =>
      refine h.of_eq rfl rfl rfl ?_
      rw [race?, race?, hconsumption]
      exact congrArg some (race_of_inner hstep)

/-- Every state that a start can reach is as its stage demands. -/
theorem Reaches.inStage {w : World σ} (run : Reaches d o (start w) labels s) : s.InStage d :=
  run.invariant ⟨rfl, rfl, rfl⟩ fun _ _ _ hmove h => hmove.inStage h

/-! ## The broker and the world -/

/-- A property of the world and of the consumption is kept by every step if it survives changes of
the world that record nothing, the connection of the broker and the steps of the consumption. -/
theorem Moves.carries {P : Supervision σ β → Prop}
    (same : ∀ {a b : Supervision σ β}, P a → b.apart = a.apart → b.consumption = a.consumption →
      P b)
    (changed : ∀ {a f}, World.Unrecording f → P a → P (a.update d f))
    (connected : ∀ {a connect}, d.broker.result = .ok connect → a.consumption = none → P a →
      P { a with consumption := some (.start (connect a.apart)) })
    (consumed : ∀ {a c e label}, a.consumption = some c →
      c.step d.via o.workers label = some e → P a → P { a with consumption := some e })
    {label : Label ι} (hmove : Moves d o s label t) (hstage : s.InStage d) (h : P s) : P t := by
  have hcall (which : Call) (events : List Event) : P (s.call d which events) :=
    changed (World.unrecording_report events) (same h rfl rfl)
  cases hmove with
  | storeFailed | storeChecked | broadcasterFailed | broadcasterChecked | dialed | factoryMade =>
      exact same (hcall _ _) rfl rfl
  | loopStarted => exact changed (World.unrecording_report _) (same h rfl rfl)
  | dialFailed => exact same h rfl rfl
  | connected hdialing hresult =>
      simp only [InStage, hdialing] at hstage
      exact same (connected hresult (Option.map_eq_none_iff.1 hstage.2.2.2) h) rfl rfl
  | flushed => exact changed World.unrecording_flush (same h rfl rfl)
  | passed => exact changed (fun _ => rfl) h
  | shutdown _ hconsumption hstep =>
      exact changed (World.unrecording_report _) (consumed hconsumption hstep h)
  | consumed _ hconsumption hstep | beside _ hconsumption hstep =>
      exact consumed hconsumption hstep h
  | finished _ hconsumption hstep =>
      exact changed (fun w => World.unrecording_flush w)
        (same (consumed hconsumption hstep h) rfl rfl)

/-- The consumption, once there is one, keeps its broker. -/
def Hosted (view : Broker.View τ (World σ) β) (kept : Option Nat → β → Prop)
    (d : Dependencies σ β ι) (o : Order) (s : Supervision σ β) : Prop :=
  ∀ c, s.consumption = some c → c.Kept d.via view kept o.workers

/-- Besides `earlier` ones, one duration is recorded for each message that was taken. -/
structure Counted (view : Broker.View τ (World σ) β) (due : τ → Nat) (earlier : Nat)
    (s : Supervision σ β) : Prop where
  apart : s.consumption = none → s.apart.metrics.processing.recorded = earlier
  pool : ∀ c, s.consumption = some c → (view.pool c.broker).Recorded due earlier

/-- The supervisor changes the world that the workers share. -/
theorem Hosted.update (hhosting : d.Hosting view setup kept) (h : s.Hosted view kept d o)
    (f : World σ → World σ) : (s.update d f).Hosted view kept d o := by
  intro e he
  rw [update_consumption] at he
  obtain ⟨c, hconsumption, rfl⟩ := Option.map_eq_some_iff.1 he
  rw [hhosting.update]
  exact ((h c hconsumption).update hhosting.sound f).1

/-- What the supervisor does to the world is seen in it. -/
theorem Hosted.world_update (hhosting : d.Hosting view setup kept) (h : s.Hosted view kept d o)
    (f : World σ → World σ) : (s.update d f).world d = f (s.world d) := by
  rw [world, update_consumption, world]
  cases hconsumption : s.consumption with
  | none => exact update_apart f hconsumption
  | some c =>
      have hpool := ((h c hconsumption).update hhosting.sound f).2
      show d.world (d.update f c.broker) = f (d.world c.broker)
      rw [hhosting.update, hhosting.world, hhosting.world, hpool]
      rfl

/-- A broker that has just been connected. -/
theorem hosted_connected (hhosting : d.Hosting view setup kept) {connect : World σ → β}
    (hresult : d.broker.result = .ok connect) :
    ({ s with consumption := some (.start (connect s.apart)) } : Supervision σ β).Hosted view kept d
      o := by
  intro c hc
  cases hc
  exact Broker.Consumption.kept_start (hhosting.connected hresult s.apart).1

/-- A step of the consumption. -/
theorem Hosted.step (hhosting : d.Hosting view setup kept) (h : s.Hosted view kept d o)
    {c e : Broker.Consumption β} {label : Broker.Consumption.Label ι}
    (hconsumption : s.consumption = some c) (hstep : c.step d.via o.workers label = some e) :
    ({ s with consumption := some e } : Supervision σ β).Hosted view kept d o ∧
      (view.pool c.broker).Advances setup.processor (view.pool e.broker) := by
  obtain ⟨hkept, hadvances⟩ := (h c hconsumption).step hhosting.sound hstep
  refine ⟨fun f hf => ?_, hadvances⟩
  cases hf
  exact hkept

theorem Hosted.world_call (hhosting : d.Hosting view setup kept) (h : s.Hosted view kept d o)
    (which : Call) (events : List Event) :
    (s.call d which events).world d = (s.world d).report events :=
  Hosted.world_update (s := { s with calls := s.calls ++ [which] }) hhosting h _

theorem Moves.hosted (hhosting : d.Hosting view setup kept) {label : Label ι}
    (hmove : Moves d o s label t) (hstage : s.InStage d) (h : s.Hosted view kept d o) :
    t.Hosted view kept d o := by
  refine hmove.carries ?_ ?_ ?_ ?_ hstage h
  · intro a b ha _ hsame c hc
    exact ha c (hsame ▸ hc)
  · intro a f _ ha
    exact ha.update hhosting f
  · intro a connect hresult _ _
    exact hosted_connected hhosting hresult
  · intro a c e label hc hstep ha
    exact (ha.step hhosting hc hstep).1

/-- Where processors record one duration for each message, no step loses one. -/
theorem Moves.counted (hhosting : d.Hosting view setup kept)
    (hrecords : setup.processor.Records due) {label : Label ι} (hmove : Moves d o s label t)
    (hstage : s.InStage d) (hhosted : s.Hosted view kept d o) (h : s.Counted view due earlier) :
    t.Counted view due earlier := by
  suffices t.Hosted view kept d o ∧ t.Counted view due earlier from this.2
  refine hmove.carries (P := fun s => s.Hosted view kept d o ∧ s.Counted view due earlier)
    ?_ ?_ ?_ ?_ hstage ⟨hhosted, h⟩
  · rintro a b ⟨ha, hcounted⟩ hapart hsame
    refine ⟨fun c hc => ha c (hsame ▸ hc), fun hnone => ?_, fun c hc => hcounted.pool c (hsame ▸ hc)⟩
    rw [hapart]
    exact hcounted.apart (hsame ▸ hnone)
  · rintro a f hf ⟨ha, hcounted⟩
    refine ⟨ha.update hhosting f, fun hnone => ?_, fun e he => ?_⟩
    · rw [update_consumption, Option.map_eq_none_iff] at hnone
      rw [update_apart f hnone, hf]
      exact hcounted.apart hnone
    · rw [update_consumption] at he
      obtain ⟨c, hc, rfl⟩ := Option.map_eq_some_iff.1 he
      have hpool := ((ha c hc).update hhosting.sound f).2
      rw [hhosting.update, hpool]
      exact (hcounted.pool c hc).inWorld (hf _)
  · rintro a connect hresult hnone ⟨-, hcounted⟩
    refine ⟨hosted_connected hhosting hresult, nofun, fun c hc => ?_⟩
    cases hc
    show (view.pool (connect a.apart)).Recorded due earlier
    rw [(hhosting.connected hresult a.apart).2, ← hcounted.apart hnone]
    exact Broker.Pool.recorded_start due 0 a.apart
  · rintro a c e label hc hstep ⟨ha, hcounted⟩
    obtain ⟨hkept, hadvances⟩ := ha.step hhosting hc hstep
    refine ⟨hkept, nofun, fun f hf => ?_⟩
    cases hf
    exact (hcounted.pool c hc).advance hrecords hadvances

/-- Every state that a start can reach keeps its broker. -/
theorem Reaches.hosted (hhosting : d.Hosting view setup kept) {w : World σ}
    (run : Reaches d o (start w) labels s) : s.Hosted view kept d o := by
  induction run with
  | refl => exact nofun
  | step run move ih => exact (moves_of_step move).hosted hhosting run.inStage ih

/-- A start counts on from what has been recorded before. -/
theorem Reaches.counted (hhosting : d.Hosting view setup kept)
    (hrecords : setup.processor.Records due) {w : World σ}
    (run : Reaches d o (start w) labels s) :
    s.Counted view due w.metrics.processing.recorded := by
  induction run with
  | refl => exact ⟨fun _ => rfl, nofun⟩
  | step run move ih =>
      exact (moves_of_step move).counted hhosting hrecords run.inStage (run.hosted hhosting) ih

end Supervision

end JobLog
