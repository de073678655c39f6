import JobLog.Proofs.Config.Acceptance
import JobLog.Proofs.Pipeline.Fidelity
import JobLog.Proofs.Session.Transcript
import JobLog.Proofs.Supervisor.Cleanup

/-!
# What an accepted configuration rules out

The checks of a configuration are there so that nothing it says makes a later part fail. With a
configuration that is accepted, clients can always be made, the flush loop has an interval, and a
subscription has workers. A session then asks its server for one bound, which is neither zero nor
more than the protocol can express: `Session.Bounded` is kept by every step of a session, and with it
by every step of a supervised run. `CommandLine.configure_ready` puts this together.
-/

namespace JobLog

namespace Broker

variable {τ ω : Type} {setup : Setup τ ω} {limit workers : Nat} {base methods others : List Method}

/-! ## The bound of a session -/

/-- No other bound than this one is asked for. -/
def Asks (limit : Nat) (methods : List Method) : Prop :=
  ∀ count, .limit count ∈ methods → count = limit

theorem Asks.append (h : Asks limit methods) (hothers : Asks limit others) :
    Asks limit (methods ++ others) := fun count hmem =>
  (List.mem_append.1 hmem).elim (h count) (hothers count)

theorem Asks.of_subset (h : Asks limit methods) (hsubset : others ⊆ methods) :
    Asks limit others := fun count hmem =>
  h count (hsubset hmem)

theorem asks_consumerMethods (queue : String) (limit : Nat) :
    Asks limit (consumerMethods queue limit) := by
  intro count hmem
  simpa [consumerMethods] using hmem

theorem asks_closingMethods (limit : Nat) (consumer : Bool) :
    Asks limit (closingMethods consumer) := fun count hmem =>
  absurd rfl (Session.not_limit_of_mem_closingMethods hmem count)

/-- While a session is made, no bound is asked for. -/
theorem Dialing.limit_not_mem {c : QueueConfig} {d : Dialing} {exchanges : List Exchange}
    (hrun : exchanges.foldlM step (start c) = some d) (count : Nat) : .limit count ∉ d.sent := by
  intro hmem
  have hsetup := (spoken hrun).isPrefix.subset hmem
  simp [setupMethods] at hsetup

namespace Session

variable {s t : Session τ ω}

/-- A session that was made by sending `base` and has asked for no bound since but this one, nor is
about to. -/
structure Bounded (limit : Nat) (base : List Method) (s : Session τ ω) : Prop where
  sent : ∃ later, s.sent = base ++ later ∧ Asks limit later
  opening : ∀ {workers calls}, s.attachment = .calling workers calls → Asks limit calls.methods
  parting : ∀ {calls}, .calling calls ∈ s.farewells → Asks limit calls.methods

theorem bounded_made (limit : Nat) (queue : String) (d : Dialing) (world : ω) :
    (made (τ := τ) queue d world).Bounded limit d.sent where
  sent := ⟨[], (List.append_nil _).symm, nofun⟩
  opening := nofun
  parting := nofun

/-- One more method is sent. -/
theorem Bounded.send (h : s.Bounded limit base) {m : Method} (hm : Asks limit [m]) :
    ∃ later, s.sent ++ [m] = base ++ later ∧ Asks limit later := by
  obtain ⟨later, hsent, hasks⟩ := h.sent
  exact ⟨later ++ [m], by rw [hsent, List.append_assoc], hasks.append hm⟩

/-- A call of `close` goes on. -/
theorem Bounded.setFarewell (h : s.Bounded limit base) {i : Nat} {next : Farewell}
    (hnext : ∀ {calls}, next = .calling calls → Asks limit calls.methods) {calls : Calls}
    (hmem : .calling calls ∈ (s.setFarewell i next).farewells) : Asks limit calls.methods := by
  rcases List.mem_or_eq_of_mem_set hmem with hold | hnew
  · exact h.parting hold
  · exact hnext hnew.symm

/-- What the methods are that end the session, once it comes to that. -/
theorem Bounded.beginClosing (h : s.Bounded limit base) {i : Nat} {calls : Calls}
    (hmem : .calling calls ∈ (s.beginClosing i).farewells) : Asks limit calls.methods := by
  refine h.setFarewell ?_ hmem
  rintro calls ⟨⟩
  exact asks_closingMethods limit s.keepsChannel

/-- A subscription with the workers that the bound is meant for asks for no other. -/
theorem Moves.bounded {label : Label} (hmove : Moves setup s label t) (h : s.Bounded limit base)
    (hworkers : ∀ {workers next}, s.attachment = .building workers next →
      prefetch workers setup.multiplier = limit) : t.Bounded limit base := by
  cases hmove with
  | subscribed =>
      refine ⟨h.sent, fun hcalling => ?_, h.parting⟩
      split at hcalling <;> cases hcalling
  | closed | closedAgain =>
      refine ⟨h.sent, h.opening, fun hmem => ?_⟩
      rcases List.mem_append.1 hmem with hold | hnew
      · exact h.parting hold
      · cases List.mem_singleton.1 hnew
  | acknowledged =>
      exact ⟨h.send fun count hmem => by simp at hmem, h.opening, h.parting⟩
  | built | buildFailed | launched | callFailed | joined | left => exact ⟨h.sent, nofun, h.parting⟩
  | attached hbuilding =>
      refine ⟨h.sent, ?_, h.parting⟩
      rintro workers calls ⟨⟩
      rw [hworkers hbuilding]
      exact asks_consumerMethods s.queue limit
  | called hcalling =>
      have hasks := h.opening hcalling
      refine ⟨h.send (hasks.of_subset (by simp)), ?_, h.parting⟩
      rintro workers calls ⟨⟩
      exact hasks
  | agreed hcalling =>
      refine ⟨h.sent, ?_, h.parting⟩
      rintro workers calls ⟨⟩
      exact (h.opening hcalling).of_subset (List.subset_cons_self _ _)
  | stopped => exact ⟨h.sent, h.opening, h.setFarewell (by rintro _ ⟨⟩)⟩
  | stoppedAlone | waited => exact ⟨h.sent, h.opening, h.beginClosing⟩
  | parting hfarewell =>
      have hasks := h.parting (List.mem_of_getElem? hfarewell)
      refine ⟨h.send (hasks.of_subset (by simp)), h.opening, h.setFarewell ?_⟩
      rintro calls ⟨⟩
      exact hasks
  | parted hfarewell _ hnext =>
      have hasks := h.parting (List.mem_of_getElem? hfarewell)
      refine ⟨h.sent, h.opening, h.setFarewell fun hcalling => ?_⟩
      rcases hnext with ⟨-, rfl⟩ | ⟨-, rfl⟩ <;> cases hcalling
      exact hasks.of_subset (List.subset_cons_self _ _)
  | _ => exact ⟨h.sent, h.opening, h.parting⟩

/-- The processors that are being built are those of the workers that were asked for. -/
theorem Kept.workers_eq {call : Call} {count next : Nat}
    (h : Consumption.Hosts (Kept setup) workers s call)
    (hbuilding : s.attachment = .building count next) : count = workers := by
  cases call with
  | unstarted =>
      rw [h.2] at hbuilding
      cases hbuilding
  | refused =>
      rw [h.1.2] at hbuilding
      cases hbuilding
  | running =>
      have hexplained : s.Explained setup workers := h.2
      simp only [Explained, hbuilding] at hexplained
      exact hexplained.1

/-- A subscription that has workers does not fail for the lack of them. -/
theorem Kept.noWorkers_not_returned {c : Consumption (Session τ ω)}
    (h : c.Kept (interface setup) view (Kept setup) workers) (hpos : 0 < workers) :
    c.returned? (interface setup) ≠ some (.error .noWorkers) := by
  intro hreturned
  have hhosts := h.hosts
  unfold Consumption.returned? at hreturned
  split at hreturned <;> rename_i hcall <;> rw [hcall] at hhosts
  · cases hreturned
  · cases hreturned
    cases hhosts.2
  · rcases ((sound setup).returned hhosts hreturned).2 with hfails | ⟨_, _, hcause, _⟩
    · cases hfails with
      | noWorkers hnone => exact hpos.ne' hnone
    · cases hcause

end Session

namespace Consumption

variable {c e : Consumption (Session τ ω)} {label : Label Session.Label}

/-- A consumption changes its session by steps of the session. -/
theorem Moves.session (hmove : Moves (Session.interface setup) workers c label e) :
    e.broker = c.broker ∨ ∃ label, Session.Moves setup c.broker label e.broker := by
  cases hmove with
  | begun =>
      unfold begin
      split
      · rename_i broker hpassed
        have hsubscribe : c.broker.subscribe workers = .ok broker := hpassed
        exact .inr
          ⟨.subscribe workers, Session.moves_of_step (by rw [Session.step, hsubscribe]; rfl)⟩
      · exact .inl rfl
  | inner hinner => exact .inr ⟨_, (Session.moves_of_interface hinner).1⟩
  | settled | shutDown => exact .inr ⟨.close, Session.moves_of_step rfl⟩
  | concluded => exact .inl rfl

theorem Kept.bounded
    (h : c.Kept (Session.interface setup) Session.view (Session.Kept setup) workers)
    (hbounded : c.broker.Bounded (prefetch workers setup.multiplier) base)
    (hstep : c.step (Session.interface setup) workers label = some e) :
    e.broker.Bounded (prefetch workers setup.multiplier) base := by
  rcases (moves_of_step hstep).session with hsame | ⟨other, hmove⟩
  · rwa [hsame]
  · refine hmove.bounded hbounded fun hbuilding => ?_
    rw [Session.Kept.workers_eq h.hosts hbuilding]

end Consumption

end Broker

namespace Supervision

variable {τ σ β ι : Type}

/-! ## Supervised sessions -/

/-- The flush loop keeps the interval that was ordered. -/
theorem Moves.interval {d : Dependencies σ β ι} {o : Order} {s t : Supervision σ β} {label : Label ι}
    (hmove : Moves d o s label t)
    (h : ∀ loop, s.loop = some loop → loop.interval = o.interval) :
    ∀ loop, t.loop = some loop → loop.interval = o.interval := by
  have hsame {loop? : Option Metrics.FlushLoop} (hloop? : loop? = s.loop) :
      ∀ loop, loop? = some loop → loop.interval = o.interval :=
    hloop? ▸ h
  have hstopped {loop? : Option Metrics.FlushLoop} (hloop? : loop? = s.loop) :
      ∀ loop, loop?.map (·.abort) = some loop → loop.interval = o.interval := by
    intro loop hloop
    obtain ⟨before, hbefore, rfl⟩ := Option.map_eq_some_iff.1 hloop
    exact hsame hloop? before hbefore
  cases hmove with
  | storeFailed | broadcasterFailed => exact hstopped (update_loop ..)
  | dialFailed => exact hstopped rfl
  | storeChecked | broadcasterChecked | dialed | factoryMade | passed | shutdown =>
      exact hsame (update_loop ..)
  | loopStarted =>
      intro loop hloop
      rw [update_loop] at hloop
      cases hloop
      rfl
  | flushed hloop =>
      intro after hafter
      rw [update_loop] at hafter
      cases hafter
      have hinterval := h _ hloop
      exact hinterval
  | finished =>
      intro loop hloop
      rw [finish, update_loop] at hloop
      exact hstopped rfl loop hloop
  | connected | consumed | beside => exact h

/-- Every session that a start supervises asks for the bound of the workers that were ordered. -/
theorem Reaches.bounded {d : Dependencies σ (Broker.Session τ (World σ)) Broker.Session.Label}
    {setup : Broker.Setup τ (World σ)} {o : Order} {w : World σ} {base : List Broker.Method}
    {labels : List (Label Broker.Session.Label)} {s : Supervision σ (Broker.Session τ (World σ))}
    (hremote : d.Remote setup)
    (hmade : ∀ {connect}, d.broker.result = .ok connect → ∀ limit w,
      (connect w).Bounded limit base)
    (run : Reaches d o (start w) labels s) :
    ∀ c, s.consumption = some c →
      c.broker.Bounded (Broker.prefetch o.workers setup.multiplier) base := by
  induction run with
  | refl =>
      intro c hnone
      cases hnone
  | @step a b labels label run move ih =>
      suffices b.Hosted Broker.Session.view (Broker.Session.Kept setup) d o ∧
          ∀ c, b.consumption = some c →
            c.broker.Bounded (Broker.prefetch o.workers setup.multiplier) base from this.2
      refine (moves_of_step move).carries (P := fun s =>
        s.Hosted Broker.Session.view (Broker.Session.Kept setup) d o ∧
          ∀ c, s.consumption = some c →
            c.broker.Bounded (Broker.prefetch o.workers setup.multiplier) base)
        ?_ ?_ ?_ ?_ run.inStage ⟨run.hosted hremote.hosting, ih⟩
      · rintro a b ⟨ha, hbounded⟩ - hsame
        exact ⟨fun c hc => ha c (hsame ▸ hc), fun c hc => hbounded c (hsame ▸ hc)⟩
      · rintro a f - ⟨ha, hbounded⟩
        refine ⟨ha.update hremote.hosting f, fun e he => ?_⟩
        rw [update_consumption] at he
        obtain ⟨c, hc, rfl⟩ := Option.map_eq_some_iff.1 he
        have h := hbounded c hc
        rw [hremote.update]
        exact ⟨h.sent, h.opening, h.parting⟩
      · rintro a connect hresult - -
        refine ⟨hosted_connected hremote.hosting hresult, fun c hc => ?_⟩
        cases hc
        exact hmade hresult _ _
      · rintro a c e label hc hstep ⟨ha, hbounded⟩
        refine ⟨(ha.step hremote.hosting hc hstep).1, fun f hf => ?_⟩
        cases hf
        have hkept := ha c hc
        rw [hremote.via] at hkept hstep
        exact hkept.bounded (hbounded c hc) hstep

end Supervision

/-! ## Accepted configurations -/

variable {σ : Type}

namespace Network

/-- What the parts of the program that a configuration is for rely on in it. -/
structure Relies (n : Network σ) (c : Config) : Prop where
  workers : 0 < c.order.workers
  prefetch_pos : 0 < c.prefetch
  prefetch_le : c.prefetch ≤ 65535
  interval_pos : 0 < c.pool.metricsInterval.toNat
  interval : c.order.interval = c.pool.metricsInterval.toNat * 1000
  client : Pusher.Client.build c.pusher = .ok (.ofConfig c.pusher)
  verified : (verifyBroadcaster c.pusher).result = .ok ()
  created : ∀ worker cause, (n.create c worker).result ≠ .error (.broadcaster cause)

/-- What does not happen up to a state of a run, nor in it: a session does not ask for another bound
than the configured one, the flush loop has no other interval, a subscription does not lack workers
and a client does not lack credentials. -/
structure Spares (n : Network σ) (c : Config)
    (s : Supervision σ (Broker.Session Task (World σ))) : Prop where
  asks : ∀ consumption, s.consumption = some consumption → ∃ later,
    consumption.broker.sent = (n.dial c.broker).sent ++ later ∧ Broker.Asks c.prefetch later
  subscription : ∀ consumption, s.consumption = some consumption →
    consumption.returned? (Broker.Session.interface (n.setup c)) ≠ some (.error .noWorkers)
  interval : ∀ loop, s.loop = some loop → loop.interval = c.pool.metricsInterval.toNat * 1000
  result_noWorkers : s.result? ≠ some (.error (.broker .noWorkers))
  result_broadcaster : ∀ cause, s.result? ≠ some (.error (.broadcaster cause))

theorem relies_of_accepted (n : Network σ) {c : Config} (h : c.Accepted) : n.Relies c where
  workers := h.valid.workers
  prefetch_pos := Broker.prefetch_pos ..
  prefetch_le := Broker.prefetch_le ..
  interval_pos := h.valid.interval
  interval := congrArg (· * 1000) (Nat.max_eq_right h.valid.interval)
  client := h.build
  verified := by rw [verifyBroadcaster, h.build]
  created := by
    intro worker cause hfailed
    simp only [create, h.build] at hfailed
    split at hfailed <;> cases hfailed

/-- What a start is refused with, if its credentials are accepted. -/
theorem refusal_of_accepted (n : Network σ) {c : Config} (h : c.Accepted) (state : σ)
    {e : StartupError} (hrefusal : (n.dependencies c state).refusal? = some e) :
    (∃ cause, e = .store cause) ∨ ∃ cause, e = .broker (.session cause) := by
  have hverified : (n.dependencies c state).broadcaster.result = .ok () := by
    simp only [dependencies, Answer.mapError, (n.relies_of_accepted h).verified]
    rfl
  have hstore {e : StartupError} (hresult : (n.dependencies c state).store.result = .error e) :
      ∃ cause, e = .store cause := by
    simp only [dependencies, Answer.mapError] at hresult
    cases hstore : (n.verifyStore c.database state).result with
    | ok =>
        rw [hstore] at hresult
        cases hresult
    | error cause =>
        rw [hstore] at hresult
        cases hresult
        exact ⟨cause, rfl⟩
  have hbroker {e : StartupError} (hresult : (n.dependencies c state).broker.result = .error e) :
      ∃ cause, e = .broker (.session cause) := by
    simp only [dependencies, connectBroker, Answer.mapError] at hresult
    split at hresult <;> cases hresult
    rename_i hdialed
    unfold Broker.Dialing.result? at hdialed
    split at hdialed <;> cases hdialed
    exact ⟨_, rfl⟩
  unfold Dependencies.refusal? at hrefusal
  rw [hverified] at hrefusal
  split at hrefusal
  · cases hrefusal
    exact .inl (hstore ‹_›)
  · contradiction
  · cases hrefusal
    exact .inr (hbroker ‹_›)
  · cases hrefusal

theorem spares_of_accepted (n : Network σ) {c : Config} (h : c.Accepted) {w : World σ}
    {labels : List (Supervision.Label Broker.Session.Label)}
    {s : Supervision σ (Broker.Session Task (World σ))}
    (run : Supervision.Reaches (n.dependencies c w.systems) c.order (.start w) labels s) :
    n.Spares c s := by
  have hremote := n.dependencies_remote c w.systems
  have hhosted := run.hosted hremote.hosting
  have hsubscription : ∀ consumption, s.consumption = some consumption →
      consumption.returned? (Broker.Session.interface (n.setup c)) ≠ some (.error .noWorkers) :=
    fun consumption hconsumption =>
      Broker.Session.Kept.noWorkers_not_returned (hhosted consumption hconsumption) h.valid.workers
  -- A start that ends with an error was refused, or it is the error of its consumption.
  have hended {cause : StartupError} (hresult : s.result? = some (.error cause))
      (hother : ¬ ((∃ e, cause = .store e) ∨ ∃ e, cause = .broker (.session e))) :
      ∃ consumption r, s.consumption = some consumption ∧
        consumption.returned? (Broker.Session.interface (n.setup c)) = some (.error r) ∧
        cause = .broker r := by
    have hstopped := run.inStage.ended hremote.hosting hhosted hresult
    cases hrefusal : (n.dependencies c w.systems).refusal? with
    | some e =>
        cases (hstopped.refused e hrefusal).1
        exact absurd (n.refusal_of_accepted h w.systems hrefusal) hother
    | none =>
        obtain ⟨consumption, r, hconsumption, hreturned, hresult, -⟩ := hstopped.consumed hrefusal
        cases r with
        | ok => cases hresult
        | error r =>
            cases hresult
            exact ⟨consumption, r, hconsumption, hreturned, rfl⟩
  refine ⟨fun consumption hconsumption => ?_, hsubscription, ?_, fun hresult => ?_,
    fun cause hresult => ?_⟩
  · refine (run.bounded hremote (fun hresult limit world => ?_) consumption hconsumption).sent
    simp only [dependencies, connectBroker, Answer.mapError] at hresult
    split at hresult <;> cases hresult
    exact Broker.Session.bounded_made ..
  · rw [← (n.relies_of_accepted h).interval]
    exact run.invariant (P := fun s => ∀ loop, s.loop = some loop → loop.interval = c.order.interval)
      (fun _ hnone => by cases hnone) fun _ _ _ hmove h => hmove.interval h
  · obtain ⟨consumption, r, hconsumption, hreturned, hcause⟩ := hended hresult (by simp)
    cases hcause
    exact hsubscription consumption hconsumption hreturned
  · obtain ⟨consumption, r, -, -, hcause⟩ := hended hresult (by simp)
    cases hcause

end Network

namespace CommandLine

/-- Whatever the environment and the number of workers on the command line are, a configuration that
the program goes on with does not fail later on what has been checked. Neither the supervisor nor a
worker lacks a credential, whatever its length; the flush loop has an interval; no subscription lacks
workers; and the bound that the server is asked for is neither zero nor too large. This holds in
every state that the supervisor can reach, whatever the other systems do. While the session is made,
the server is asked for no bound. -/
theorem configure_ready {lookup : Config.Lookup} {workers : Option Nat} {c : Config}
    {events : List Event} (h : configure lookup workers = .ok (c, events)) (n : Network σ) :
    n.Relies c ∧
      (∀ (world : World σ) (labels : List (Supervision.Label Broker.Session.Label))
        (s : Supervision σ (Broker.Session Task (World σ))),
        Supervision.Reaches (n.dependencies c world.systems) c.order (.start world) labels s →
          n.Spares c s) ∧
      ∀ (exchanges : List Broker.Exchange) (dialing : Broker.Dialing),
        exchanges.foldlM Broker.Dialing.step (.start c.broker) = some dialing →
          ∀ count, .limit count ∉ dialing.sent :=
  have haccepted := accepted_of_configure h
  ⟨n.relies_of_accepted haccepted, fun _ _ _ run => n.spares_of_accepted haccepted run,
    fun _ _ hrun => Broker.Dialing.limit_not_mem hrun⟩

/-- An environment in which nothing is set that need not be. -/
def leastVariables (name : String) : Option String :=
  [("AMQP_URL", "amqp://[::1]"), ("DATABASE_URL", "postgres://[::1]/logs"), ("PUSHER_KEY", "key"),
    ("PUSHER_SECRET", "secret"), ("PUSHER_APP_ID", "app")].lookup name

/-- A network in which everything can be reached. -/
def willingNetwork : Network Memory where
  reach _ := .ok ()
  execute _ s := ⟨.ok [some 1], 0, id, s⟩
  post _ s := ⟨.ok ⟨200, none, []⟩, 0, id, s⟩
  now _ := 0
  dial c := ⟨.of [], Broker.setupMethods c, none⟩

/-- A run until its session asks for the bound. -/
def runToLimit : List (Supervision.Label Broker.Session.Label) :=
  List.replicate 6 .proceed ++ [.consume .begin] ++
    [.build, .build, .attach, .call .send, .call (.answer (.ok ())), .call .send].map
      fun label => .consume (.inner label)

/-- Two workers are asked for on the command line, and each of them may hold three deliveries. -/
theorem configure_ready_two : ∃ (c : Config) (events : List Event)
    (s : Supervision Memory (Broker.Session Task (World Memory))),
    configure leastVariables (some 2) = .ok (c, events) ∧ willingNetwork.Relies c ∧
      Supervision.Reaches (willingNetwork.dependencies c .empty) c.order (.start (.fresh .empty))
        runToLimit s ∧
      willingNetwork.Spares c s ∧
      s.consumption.map (·.broker.sent.drop 5) = some [.openChannel .consumer, .limit 6] := by
  have hcomputed : ((configure leastVariables (some 2)).toOption.bind fun configured =>
      (runToLimit.foldlM (fun (s : Supervision Memory (Broker.Session Task (World Memory))) label =>
        s.step (willingNetwork.dependencies configured.1 .empty) configured.1.order label)
        (.start (.fresh .empty))).bind fun s => s.consumption.map (·.broker.sent.drop 5)) =
      some [.openChannel .consumer, .limit 6] := by decide +kernel
  obtain ⟨⟨c, events⟩, hconfigured, hlast⟩ := Option.bind_eq_some_iff.1 hcomputed
  obtain ⟨s, hcomputed, hsent⟩ := Option.bind_eq_some_iff.1 hlast
  have h : configure leastVariables (some 2) = .ok (c, events) := eq_ok_of_toOption hconfigured
  have run := Supervision.reaches_of_foldlM hcomputed
  obtain ⟨hrelies, hspares, -⟩ := configure_ready h willingNetwork
  exact ⟨c, events, s, h, hrelies, run, hspares _ _ s run, hsent⟩

end CommandLine

end JobLog
