import JobLog.Proofs.Supervisor.Stages
import JobLog.Supervisor.Live

/-!
# Startup in order, and cleanup on every path

Whatever its dependencies answer and whatever happens meanwhile, a start makes its calls in order up
to the first that fails, and its flush loop ticks from before the broker is dialled until the start
returns. When it returns, the flush loop is stopped for ever. If a broker was connected, it is closed
by then, its workers have ended, and metrics have been logged once more after that.
`start_supervised` says so for brokers in memory and for sessions with a server.
-/

namespace JobLog

variable {τ σ β ι : Type}

namespace Dependencies

variable {setup : Broker.Setup τ (World σ)}

/-- Calls are made in a fixed order, and none is made twice. -/
theorem called_prefix (d : Dependencies σ β ι) :
    d.called <+: [.store, .broadcaster, .broker, .factory] := by
  unfold called
  split
  · exact ⟨[.broadcaster, .broker, .factory], rfl⟩
  · exact ⟨[.broker, .factory], rfl⟩
  · exact ⟨[.factory], rfl⟩
  · exact List.prefix_refl _

/-- The store is always called. -/
theorem store_prefix_called (d : Dependencies σ β ι) : [.store] <+: d.called := by
  unfold called
  split
  · exact List.prefix_refl _
  · exact ⟨[.broadcaster], rfl⟩
  · exact ⟨[.broadcaster, .broker], rfl⟩
  · exact ⟨[.broadcaster, .broker, .factory], rfl⟩

/-- If the checks succeed, the broker is called. -/
theorem Passes.prefix_called {d : Dependencies σ β ι} (h : d.Passes) :
    [.store, .broadcaster, .broker] <+: d.called := by
  simp only [called, h.1, h.2]
  cases d.broker.result with
  | error => exact List.prefix_refl _
  | ok => exact ⟨[.factory], rfl⟩

theorem Passes.checks_prefix_called {d : Dependencies σ β ι} (h : d.Passes) :
    [.store, .broadcaster] <+: d.called :=
  List.IsPrefix.trans ⟨[.broker], rfl⟩ h.prefix_called

theorem passes_of_broker_mem {d : Dependencies σ β ι} (hbroker : .broker ∈ d.called) :
    d.Passes := by
  unfold called at hbroker
  split at hbroker
  · simp at hbroker
  · simp at hbroker
  · exact ⟨‹_›, ‹_›⟩
  · exact ⟨‹_›, ‹_›⟩

/-- The broker of these dependencies is in memory. Before it is handed over anything may have been
done with it, except that nobody has subscribed to it. -/
structure InMemory (d : Dependencies σ (Broker.Queue τ (World σ)) Broker.Queue.Label)
    (setup : Broker.Setup τ (World σ)) : Prop where
  via : d.via = Broker.Queue.interface setup
  world : d.world = fun q => q.pool.world
  update : d.update = Broker.Queue.view.update
  connected : ∀ {connect}, d.broker.result = .ok connect → ∀ w, ∃ labels,
    Broker.Queue.Reaches setup (.new w) labels (connect w) ∧ ∀ workers, .subscribe workers ∉ labels

/-- The broker of these dependencies is a new session with a server. -/
structure Remote (d : Dependencies σ (Broker.Session τ (World σ)) Broker.Session.Label)
    (setup : Broker.Setup τ (World σ)) : Prop where
  via : d.via = Broker.Session.interface setup
  world : d.world = fun s => s.pool.world
  update : d.update = Broker.Session.view.update
  connected : ∀ {connect}, d.broker.result = .ok connect → ∃ queue dialing,
    connect = Broker.Session.made queue dialing

theorem InMemory.hosting {d : Dependencies σ (Broker.Queue τ (World σ)) Broker.Queue.Label}
    (h : d.InMemory setup) : d.Hosting Broker.Queue.view setup (Broker.Queue.Kept setup) where
  sound := h.via ▸ Broker.Queue.sound setup
  world q := by rw [h.world]; rfl
  update := h.update
  connected := by
    intro connect hresult w
    obtain ⟨labels, run, hother⟩ := h.connected hresult w
    exact run.unsubscribed hother

theorem Remote.hosting {d : Dependencies σ (Broker.Session τ (World σ)) Broker.Session.Label}
    (h : d.Remote setup) : d.Hosting Broker.Session.view setup (Broker.Session.Kept setup) where
  sound := h.via ▸ Broker.Session.sound setup
  world s := by rw [h.world]; rfl
  update := h.update
  connected := by
    intro connect hresult w
    obtain ⟨queue, dialing, rfl⟩ := h.connected hresult
    exact ⟨⟨Broker.Session.phased_made queue dialing w, rfl⟩, rfl⟩

end Dependencies

/-- The service depends on a session with the queue's server. -/
theorem Network.dependencies_remote (n : Network σ) (c : Config) (s : σ) :
    (n.dependencies c s).Remote (n.setup c) where
  via := rfl
  world := rfl
  update := rfl
  connected := by
    intro connect hresult
    simp only [dependencies, connectBroker, Answer.mapError] at hresult
    split at hresult <;> cases hresult
    exact ⟨_, _, rfl⟩

namespace Supervision

variable {view : Broker.View τ (World σ) β} {setup : Broker.Setup τ (World σ)}
  {kept : Option Nat → β → Prop} {d : Dependencies σ β ι} {o : Order} {s t u : Supervision σ β}
  {labels : List (Label ι)}

/-- Calls are made in order up to the first that fails. The flush loop is started between the checks
and the call to the broker, and ticks until the supervisor returns. -/
structure Orderly (d : Dependencies σ β ι) (s : Supervision σ β) : Prop where
  calls : s.calls <+: d.called
  checked : s.loop ≠ none → [.store, .broadcaster] <+: s.calls ∧ d.Passes
  looping : .broker ∈ s.calls →
    ∃ loop, s.loop = some loop ∧ (loop.running = true ↔ s.result? = none)

/-- What a supervisor leaves behind that has returned: its flush loop is stopped; its result is the
first failure, or else the end of a consumption whose broker is closed and has no worker left. -/
structure Ended (view : Broker.View τ (World σ) β) (setup : Broker.Setup τ (World σ))
    (d : Dependencies σ β ι) (o : Order) (s : Supervision σ β) (result : Except StartupError Unit) :
    Prop where
  calls : s.calls = d.called
  stopped : ∀ loop, s.loop = some loop → loop.running = false
  refused : ∀ e, d.refusal? = some e → result = .error e ∧ s.consumption = none
  consumed : d.refusal? = none → ∃ c r, s.consumption = some c ∧ c.returned? d.via = some r ∧
    result = r.mapError .broker ∧ Broker.CanEnd setup view.remote o.workers r ∧
    view.lifecycle c.broker = .closed ∧ (view.pool c.broker).isDone = true

/-- What the step that returns reports. Without a consumption the metrics stay as they are. After one,
when its workers have ended, every metric is logged once more, and then how many messages were
handled. The log tells of all failures; where a duration is recorded for each message, it tells of
all the messages that were taken, besides `earlier` ones. -/
def Reports (view : Broker.View τ (World σ) β) (setup : Broker.Setup τ (World σ)) (earlier : Nat)
    (d : Dependencies σ β ι) (s t : Supervision σ β) : Prop :=
  match d.refusal? with
  | some _ => (t.world d).metrics = (s.world d).metrics
  | none =>
    ∃ c, s.consumption = some c ∧ (view.pool c.broker).isDone = true ∧
      t.world d = (s.world d).flush.report [poolStopped (s.world d).flush.metrics] ∧
      (t.world d).events = (s.world d).events ++
        ((s.world d).metrics.report (s.world d).clock).1.map Metrics.Snapshot.event ++
        [⟨.info, "logrelay_worker::supervisor", "Worker pool stopped",
          [("processed", .integer (t.world d).metrics.processed.1),
            ("failed", .integer (t.world d).metrics.processingFailures)], []⟩] ∧
      ((s.world d).metrics.report (s.world d).clock).1.map Metrics.Snapshot.kind =
        [.processing, .processingFailures, .publishing, .publishFailures] ∧
      (t.world d).metrics.flushes = (s.world d).metrics.flushes + 1 ∧
      (∃ rate, ⟨.processingFailures, .counter (t.world d).metrics.processingFailures rate⟩ ∈
        ((s.world d).metrics.report (s.world d).clock).1) ∧
      ∀ due, setup.processor.Records due → ∃ distribution rate,
        ⟨.processing, .histogram distribution rate⟩ ∈
          ((s.world d).metrics.report (s.world d).clock).1 ∧
        distribution.count = earlier + (view.pool c.broker).pulled.length ∧
        (t.world d).metrics.processed.1 = distribution.count

theorem result?_eq_some_iff {result : Except StartupError Unit} :
    s.result? = some result ↔ s.stage = .returned result := by
  unfold result?
  split <;> simp_all

theorem loop_of_ticking {running : Bool} (h : s.ticking = some running) :
    ∃ loop, s.loop = some loop ∧ loop.running = running :=
  Option.map_eq_some_iff.1 h

theorem loop_of_not_ticking (h : s.ticking = none) : s.loop = none :=
  Option.map_eq_none_iff.1 h

/-- Before a supervisor returns, its flush loop ticks. -/
theorem orderly_of_ticking (hgoing : s.result? = none) (hticking : s.ticking = some true)
    (hpasses : d.Passes) (hcalls : s.calls <+: d.called)
    (hchecked : [.store, .broadcaster] <+: s.calls) : s.Orderly d where
  calls := hcalls
  checked _ := ⟨hchecked, hpasses⟩
  looping _ := by
    obtain ⟨loop, hloop, hrunning⟩ := loop_of_ticking hticking
    exact ⟨loop, hloop, by simp [hrunning, hgoing]⟩

/-- Before the flush loop is started, the broker has not been called. -/
theorem orderly_of_not_ticking (hticking : s.ticking = none) (hcalls : s.calls <+: d.called)
    (hbroker : .broker ∉ s.calls) : s.Orderly d where
  calls := hcalls
  checked hloop := absurd (loop_of_not_ticking hticking) hloop
  looping hcalled := absurd hcalled hbroker

theorem InStage.orderly (h : s.InStage d) : s.Orderly d := by
  have hgoing (hstage : ∀ result, s.stage ≠ .returned result) : s.result? = none :=
    Option.eq_none_iff_forall_ne_some.2 fun result hresult =>
      hstage result (result?_eq_some_iff.1 hresult)
  cases hstage : s.stage with
  | checkStore =>
      simp only [InStage, hstage] at h
      obtain ⟨hcalls, hticking, -⟩ := h
      exact orderly_of_not_ticking hticking (hcalls ▸ List.nil_prefix) (by simp [hcalls])
  | checkBroadcaster =>
      simp only [InStage, hstage] at h
      obtain ⟨-, hcalls, hticking, -⟩ := h
      exact orderly_of_not_ticking hticking (hcalls ▸ d.store_prefix_called) (by simp [hcalls])
  | startLoop =>
      simp only [InStage, hstage] at h
      obtain ⟨hpasses, hcalls, hticking, -⟩ := h
      exact orderly_of_not_ticking hticking (hcalls ▸ hpasses.checks_prefix_called)
        (by simp [hcalls])
  | dial =>
      simp only [InStage, hstage] at h
      obtain ⟨hpasses, hcalls, hticking, -⟩ := h
      exact orderly_of_ticking (hgoing (by simp [hstage])) hticking hpasses
        (hcalls ▸ hpasses.checks_prefix_called) (hcalls ▸ List.prefix_refl _)
  | dialing =>
      simp only [InStage, hstage] at h
      obtain ⟨hpasses, hcalls, hticking, -⟩ := h
      exact orderly_of_ticking (hgoing (by simp [hstage])) hticking hpasses
        (hcalls ▸ hpasses.prefix_called) (hcalls ▸ ⟨[.broker], rfl⟩)
  | makeFactory =>
      simp only [InStage, hstage] at h
      obtain ⟨hpasses, -, hcalls, hticking, -⟩ := h
      exact orderly_of_ticking (hgoing (by simp [hstage])) hticking hpasses
        (hcalls ▸ hpasses.prefix_called) (hcalls ▸ ⟨[.broker], rfl⟩)
  | consuming =>
      simp only [InStage, hstage] at h
      obtain ⟨hpasses, ⟨connect, hbroker⟩, hcalls, hticking, -⟩ := h
      have hcalled : s.calls = d.called := hcalls.trans (hpasses.complete hbroker).2.symm
      exact orderly_of_ticking (hgoing (by simp [hstage])) hticking hpasses
        (hcalled ▸ List.prefix_refl _) (hcalled ▸ hpasses.checks_prefix_called)
  | returned result =>
      simp only [InStage, hstage] at h
      obtain ⟨hcalls, hstopped, -⟩ := h
      have hreturned : s.result? = some result := result?_eq_some_iff.2 hstage
      rcases hstopped with ⟨hpasses, hticking⟩ | ⟨hfails, hticking⟩
      · refine ⟨hcalls ▸ List.prefix_refl _,
          fun _ => ⟨hcalls ▸ hpasses.checks_prefix_called, hpasses⟩, fun _ => ?_⟩
        obtain ⟨loop, hloop, hrunning⟩ := loop_of_ticking hticking
        exact ⟨loop, hloop, by simp [hrunning, hreturned]⟩
      · refine orderly_of_not_ticking hticking (hcalls ▸ List.prefix_refl _) fun hbroker => ?_
        rw [hcalls] at hbroker
        exact hfails (d.passes_of_broker_mem hbroker)

/-- A supervisor that has returned leaves nothing behind that goes on. -/
theorem InStage.ended (hhosting : d.Hosting view setup kept) (h : s.InStage d)
    (hhosted : s.Hosted view kept d o) {result : Except StartupError Unit}
    (hresult : s.result? = some result) : s.Ended view setup d o result := by
  have hstage : s.stage = .returned result := result?_eq_some_iff.1 hresult
  simp only [InStage, hstage] at h
  obtain ⟨hcalls, hstopped, hconcluded⟩ := h
  refine ⟨hcalls, fun loop hloop => ?_, fun e hrefusal => ?_, fun hrefusal => ?_⟩
  · rcases hstopped with ⟨-, hticking⟩ | ⟨-, hticking⟩
    · obtain ⟨other, hother, hrunning⟩ := loop_of_ticking hticking
      rw [hloop] at hother
      cases hother
      exact hrunning
    · rw [loop_of_not_ticking hticking] at hloop
      cases hloop
  · rw [Concluded, hrefusal] at hconcluded
    exact hconcluded.imp_right Option.map_eq_none_iff.1
  · rw [Concluded, hrefusal] at hconcluded
    obtain ⟨r, hrace, hmapped⟩ := hconcluded
    obtain ⟨c, hconsumption, hended⟩ := Option.map_eq_some_iff.1 hrace
    have hkept := hhosted c hconsumption
    obtain ⟨hclosed, hdone, hcan⟩ := hkept.outcome hhosting.sound hended
    exact ⟨c, r, hconsumption, hkept.ended r hended, hmapped, hcan, hclosed, hdone⟩

theorem Ended.isDone {result : Except StartupError Unit} (h : s.Ended view setup d o result)
    {c : Broker.Consumption β} (hconsumption : s.consumption = some c) :
    (view.pool c.broker).isDone = true := by
  cases hrefusal : d.refusal? with
  | some cause =>
      rw [(h.refused cause hrefusal).2] at hconsumption
      cases hconsumption
  | none =>
      obtain ⟨other, -, hother, -, -, -, -, hdone⟩ := h.consumed hrefusal
      rw [hconsumption] at hother
      cases hother
      exact hdone

/-- The end of a consumption. Its workers have ended before, in the world that is then logged. -/
theorem reports_finish (hhosting : d.Hosting view setup kept) {earlier : Nat}
    {c e : Broker.Consumption β} {label : Broker.Consumption.Label ι} {r : Except BrokerError Unit}
    (hrefusal : d.refusal? = none) (hhosted : s.Hosted view kept d o)
    (hcounted : ∀ due, setup.processor.Records due → s.Counted view due earlier)
    (hconsumption : s.consumption = some c) (hopen : ∀ result, c.race ≠ .ended result)
    (hstep : c.step d.via o.workers label = some e) (hended : e.race = .ended r) :
    s.Reports view setup earlier d
      (({ s with consumption := some e } : Supervision σ β).finish d r) := by
  have hsame : e.broker = c.broker := Broker.Consumption.step_ended hopen hstep hended
  obtain ⟨hnext, -⟩ := hhosted.step hhosting hconsumption hstep
  have hdone : (view.pool c.broker).isDone = true := by
    rw [← hsame]
    exact ((hnext e rfl).outcome hhosting.sound hended).2.1
  have hbefore : s.world d = d.world c.broker := by rw [world, hconsumption]
  have hafter : (({ s with consumption := some e } : Supervision σ β).finish d r).world d =
      (s.world d).flush.report [poolStopped (s.world d).flush.metrics] := by
    have hleft := Hosted.world_update
      (s := ({ s with consumption := some e } : Supervision σ β).leave (r.mapError .broker))
      hhosting hnext fun w => w.flush.report [poolStopped w.flush.metrics]
    rw [finish, hleft, hbefore, ← hsame]
    rfl
  rw [Reports, hrefusal]
  refine ⟨c, hconsumption, hdone, hafter, ?_, rfl, ?_, ?_, fun due hrecords => ?_⟩
  · rw [hafter]
    rfl
  · rw [hafter]
    exact ((s.world d).metrics.report_counts (s.world d).clock).2.2
  · obtain ⟨rate, hmem⟩ := (s.world d).metrics.report_failures (s.world d).clock
    rw [hafter]
    exact ⟨rate, hmem⟩
  · obtain ⟨distribution, rate, hmem, hcount⟩ :=
      (s.world d).metrics.report_processing (s.world d).clock
    refine ⟨distribution, rate, hmem, hcount.trans ?_, ?_⟩
    · rw [← ((hcounted due hrecords).pool c hconsumption).recorded_eq hdone, hbefore,
        hhosting.world]
    · rw [hafter, hcount, Metrics.processed_fst]
      exact ((s.world d).metrics.report_counts (s.world d).clock).1

/-- The step that returns. -/
theorem Moves.reports (hhosting : d.Hosting view setup kept) {label : Label ι} {earlier : Nat}
    (hmove : Moves d o s label t) (hstage : s.InStage d) (hhosted : s.Hosted view kept d o)
    (hcounted : ∀ due, setup.processor.Records due → s.Counted view due earlier)
    (hgoing : s.result? = none) {result : Except StartupError Unit}
    (hresult : t.result? = some result) : s.Reports view setup earlier d t := by
  rw [result?_eq_some_iff] at hresult
  have hstays (hsame : t.stage = s.stage) : False := by
    rw [result?_eq_some_iff.2 (hsame.symm.trans hresult)] at hgoing
    cases hgoing
  cases hmove with
  | storeFailed _ hfailed =>
      rw [Reports, (d.refused_by_store hfailed).1]
      show ((s.call d .store d.store.events).world d).metrics = (s.world d).metrics
      rw [hhosted.world_call hhosting]
      rfl
  | broadcasterFailed hchecking hfailed =>
      simp only [InStage, hchecking] at hstage
      rw [Reports, (d.refused_by_broadcaster hstage.1 hfailed).1]
      show ((s.call d .broadcaster d.broadcaster.events).world d).metrics = (s.world d).metrics
      rw [hhosted.world_call hhosting]
      rfl
  | dialFailed hdialing hfailed =>
      simp only [InStage, hdialing] at hstage
      rw [Reports, (hstage.1.refused_by_broker hfailed).1]
      rfl
  | @finished c e label r hconsuming hconsumption hstep hended =>
      simp only [InStage, hconsuming] at hstage
      obtain ⟨hpasses, ⟨connect, hbroker⟩, -, -, race, hrace, hopen⟩ := hstage
      rw [race?, hconsumption] at hrace
      obtain rfl : c.race = race := Option.some.inj hrace
      exact reports_finish hhosting (hpasses.complete hbroker).1 hhosted hcounted hconsumption hopen
        hstep (Broker.Consumption.result?_eq_some_iff.1 hended)
  | storeChecked | broadcasterChecked | dialed | connected | factoryMade => cases hresult
  | loopStarted =>
      rw [update_stage] at hresult
      cases hresult
  | flushed | passed | shutdown => exact (hstays (update_stage ..)).elim
  | consumed | beside => exact (hstays rfl).elim

/-- After the return nothing is flushed, and nothing else changes the metrics. -/
theorem Moves.after_return (hhosting : d.Hosting view setup kept) {label : Label ι}
    (hmove : Moves d o s label t) (hstage : s.InStage d) (hhosted : s.Hosted view kept d o)
    {result : Except StartupError Unit} (hresult : s.result? = some result) :
    t.result? = some result ∧ t.loop = s.loop ∧ (t.world d).metrics = (s.world d).metrics := by
  have hend := hstage.ended hhosting hhosted hresult
  have hreturned := result?_eq_some_iff.1 hresult
  cases hmove with
  | flushed hloop hrunning =>
      rw [hend.stopped _ hloop] at hrunning
      cases hrunning
  | passed =>
      refine ⟨?_, update_loop .., ?_⟩
      · rw [result?_eq_some_iff, update_stage, hreturned]
      · rw [hhosted.world_update hhosting]
  | @beside c e label _ hconsumption hstep =>
      have hdone := hend.isDone hconsumption
      have hworld := (hhosted.step hhosting hconsumption hstep).2.world_eq hdone
      refine ⟨hresult, rfl, congrArg World.metrics ?_⟩
      show d.world e.broker = s.world d
      rw [world, hconsumption, hhosting.world, hworld, ← hhosting.world]
  | storeFailed hother | storeChecked hother | broadcasterFailed hother | broadcasterChecked hother
  | loopStarted hother | dialed hother | dialFailed hother | connected hother | factoryMade hother
  | shutdown hother | consumed hother | finished hother => cases hother.symm.trans hreturned

/-- What holds of every start with these dependencies: calls are made in order; what has returned
leaves nothing behind that goes on; the step that returns logs metrics if there was a consumption;
later the result stays, the flush loop stays as it is, and metrics change no more. -/
structure Supervised (view : Broker.View τ (World σ) β) (setup : Broker.Setup τ (World σ))
    (d : Dependencies σ β ι) (o : Order) : Prop where
  calls : d.called <+: [.store, .broadcaster, .broker, .factory]
  orderly : ∀ {w labels s}, Reaches d o (start w) labels s → s.Orderly d
  ended : ∀ {w labels s result}, Reaches d o (start w) labels s → s.result? = some result →
    s.Ended view setup d o result
  reports : ∀ {w labels s label t result}, Reaches d o (start w) labels s → s.result? = none →
    s.step d o label = some t → t.result? = some result →
    s.Reports view setup w.metrics.processing.recorded d t
  quiet : ∀ {w labels s result more t}, Reaches d o (start w) labels s → s.result? = some result →
    Reaches d o s more t →
    t.result? = some result ∧ t.loop = s.loop ∧ (t.world d).metrics = (s.world d).metrics

/-- What can be relied on in a broker is enough. -/
theorem supervised (hhosting : d.Hosting view setup kept) (o : Order) :
    Supervised view setup d o where
  calls := d.called_prefix
  orderly run := run.inStage.orderly
  ended run hresult := run.inStage.ended hhosting (run.hosted hhosting) hresult
  reports run hgoing move hresult :=
    (moves_of_step move).reports hhosting run.inStage (run.hosted hhosting)
      (fun _ hrecords => run.counted hhosting hrecords) hgoing hresult
  quiet := by
    intro w labels s result more t run hresult later
    have hkept : t.InStage d ∧ t.Hosted view kept d o ∧ t.result? = some result ∧
        t.loop = s.loop ∧ (t.world d).metrics = (s.world d).metrics := by
      induction later with
      | refl => exact ⟨run.inStage, run.hosted hhosting, hresult, rfl, rfl⟩
      | step rest move ih =>
          obtain ⟨hstage, hhosted, hstays, hloop, hmetrics⟩ := ih
          have hmove := moves_of_step move
          obtain ⟨hresult, hsame, hquiet⟩ := hmove.after_return hhosting hstage hhosted hstays
          exact ⟨hmove.inStage hstage, hmove.hosted hhosting hstage hhosted, hresult,
            hsame.trans hloop, hquiet.trans hmetrics⟩
    exact hkept.2.2

/-- A start in order and its cleanup on every path, whatever the store, the broadcaster, the broker
and the factory answer, whatever the broker in memory holds or the session's server does, and
whenever somebody asks for a shutdown. Log parts are handled by processors that record one duration
for each. -/
theorem start_supervised (setup : Broker.Setup τ (World σ)) (o : Order) :
    (∀ d : Dependencies σ (Broker.Queue τ (World σ)) Broker.Queue.Label, d.InMemory setup →
      Supervised Broker.Queue.view setup d o) ∧
    (∀ d : Dependencies σ (Broker.Session τ (World σ)) Broker.Session.Label, d.Remote setup →
      Supervised Broker.Session.view setup d o) ∧
    ∀ systems : Collaborators σ, (logPartProcessor systems).Records fun t => t.phase.unrecorded :=
  ⟨fun _ h => supervised h.hosting o, fun _ h => supervised h.hosting o, logPartProcessor_records⟩

/-- Two starts to their ends. One consumes a broker in memory with a message that is no part, until
a shutdown is asked for; the other has no workers for a session. -/
theorem start_supervised_runs :
    (∃ (setup : Broker.Setup Task (World Memory))
        (d : Dependencies Memory (Broker.Queue Task (World Memory)) Broker.Queue.Label) (o : Order)
        (labels : List (Label Broker.Queue.Label)) (s t : Supervision Memory _),
      Reaches d o (start (.fresh .empty)) labels s ∧
        s.step d o (.consume .conclude) = some t ∧ t.Ended Broker.Queue.view setup d o (.ok ()) ∧
        s.Reports Broker.Queue.view setup 0 d t) ∧
    ∃ (setup : Broker.Setup Task (World Memory))
        (d : Dependencies Memory (Broker.Session Task (World Memory)) Broker.Session.Label)
        (o : Order) (labels : List (Label Broker.Session.Label)) (s : Supervision Memory _),
      Reaches d o (start (.fresh .empty)) labels s ∧
        s.Ended Broker.Session.view setup d o (.error (.broker .noWorkers)) := by
  let setup : Broker.Setup Task (World Memory) :=
    ⟨1, logPartProcessor (Memory.systems .zero), fun _ => .ok ()⟩
  constructor
  · let d : Dependencies Memory (Broker.Queue Task (World Memory)) Broker.Queue.Label :=
      ⟨⟨[], .ok ()⟩, ⟨[], .ok ()⟩, ⟨[], .ok fun w => ((Broker.Queue.new w).publish [1]).2⟩,
        Broker.Queue.interface setup, fun q => q.pool.world, Broker.Queue.view.update⟩
    have hmemory : d.InMemory setup := by
      refine ⟨rfl, rfl, rfl, fun {connect} hresult w => ?_⟩
      cases hresult
      exact ⟨[.publish [1]], Broker.Queue.reaches_of_foldlM rfl, by simp⟩
    let o : Order := ⟨"parts", 1, 1000, by decide⟩
    let handling : List Broker.Queue.Label := [.build, .launch, .takeSlot, .takeMessage,
      .countMessage, .bufferMessage, .pull 0, .work 0, .work 0, .finish 0, .acknowledge 0,
      .release 0]
    let closing : List Broker.Queue.Label := [.proceed 0, .proceed 0, .pull 0, .join, .closeBuffer,
      .abort, .leave, .proceed 0]
    let inner (labels : List Broker.Queue.Label) : List (Label Broker.Queue.Label) :=
      labels.map fun label => .consume (.inner label)
    let labels : List (Label Broker.Queue.Label) := [.proceed, .proceed, .proceed, .proceed,
      .proceed, .proceed, .consume .begin] ++ inner handling ++ [.consume .shutdown] ++ inner closing
    let before : Option (Supervision Memory _) :=
      labels.foldlM (fun s label => s.step d o label) (start (.fresh .empty))
    have hcomputed : (before.bind fun s =>
        (s.step d o (.consume .conclude)).map fun t => (s.result?, t.result?)) =
        some (none, some (.ok ())) := rfl
    obtain ⟨s, hbefore, hafter⟩ := Option.bind_eq_some_iff.1 hcomputed
    obtain ⟨t, move, hresults⟩ := Option.map_eq_some_iff.1 hafter
    have hgoing : s.result? = none := congrArg Prod.fst hresults
    have hresult : t.result? = some (.ok ()) := congrArg Prod.snd hresults
    have run : Reaches d o (start (.fresh .empty)) labels s := reaches_of_foldlM hbefore
    have h := (start_supervised setup o).1 d hmemory
    exact ⟨setup, d, o, labels, s, t, run, move, h.ended (run.step move) hresult,
      h.reports run hgoing move hresult⟩
  · let c : QueueConfig := ⟨"amqp://localhost", "parts", "jobs", 2⟩
    let d : Dependencies Memory (Broker.Session Task (World Memory)) Broker.Session.Label :=
      ⟨⟨[], .ok ()⟩, ⟨[], .ok ()⟩, ⟨[], .ok (.made c.queue ⟨.of [], Broker.setupMethods c, none⟩)⟩,
        Broker.Session.interface setup, fun s => s.pool.world, Broker.Session.view.update⟩
    have hremote : d.Remote setup := by
      refine ⟨rfl, rfl, rfl, fun {connect} hresult => ?_⟩
      cases hresult
      exact ⟨_, _, rfl⟩
    let o : Order := ⟨"parts", 0, 1000, by decide⟩
    let closing : List Broker.Session.Label := [.proceed 0, .proceed 0, .part 0 .send,
      .part 0 (.answer (.ok ()))]
    let labels : List (Label Broker.Session.Label) := [.proceed, .proceed, .proceed, .proceed,
      .proceed, .proceed, .consume .begin, .consume (.inner .leave), .consume .settle] ++
      closing.map (fun label => .consume (.inner label)) ++ [.consume .conclude]
    let last : Option (Supervision Memory _) :=
      labels.foldlM (fun s label => s.step d o label) (start (.fresh .empty))
    have hcomputed : last.bind result? = some (.error (.broker .noWorkers)) := rfl
    obtain ⟨s, hlast, hresult⟩ := Option.bind_eq_some_iff.1 hcomputed
    have run : Reaches d o (start (.fresh .empty)) labels s := reaches_of_foldlM hlast
    have h := (start_supervised setup o).2.1 d hremote
    exact ⟨setup, d, o, labels, s, run, h.ended run hresult⟩

end Supervision

end JobLog
