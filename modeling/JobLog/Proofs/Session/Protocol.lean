import JobLog.Proofs.Session.Transcript

/-!
# The protocol of a session

Whatever the server does, a session keeps to one protocol: it declares what is needed and gives up
at the first failure, starts its consumer with a bound on what is unacknowledged when all processors
are built, acknowledges each message by itself and once at most after its call has returned, and
closes channel and connection when nothing is left to acknowledge: `session_protocol`.
-/

namespace JobLog.Broker

/-- The number of a delivery. -/
def Item.index? : Item → Option Nat
  | .delivery m => some m.index
  | .failure _ | .finished => none

namespace Session

variable {τ ω : Type} {setup : Setup τ ω} {s t : Session τ ω} {labels : List Label}
  {queue : String} {d : Dialing} {world : ω}

/-! ## Deliveries -/

/-- Deliveries are numbered as they arrive, and taken in this order. -/
def Flowing (s : Session τ ω) : Prop :=
  s.pool.pulled.map (fun entry => entry.2.index) ++ s.arrived.filterMap Item.index? =
    List.range s.delivered

/-- A step of a worker that takes no message leaves the deliveries as they are. -/
theorem Flowing.of_pulled (h : s.Flowing) (hpulled : t.pool.pulled = s.pool.pulled)
    (harrived : t.arrived.filterMap Item.index? = s.arrived.filterMap Item.index?)
    (hdelivered : t.delivered = s.delivered) : t.Flowing := by
  rw [Flowing, hpulled, harrived, hdelivered]
  exact h

theorem Moves.flowing {label : Label} (hmove : Moves setup s label t) (hphase : s.InPhase)
    (h : s.Flowing) : t.Flowing := by
  cases hmove with
  | messageArrived =>
      show _ ++ List.filterMap _ (s.arrived ++ [_]) = List.range (s.delivered + 1)
      rw [List.filterMap_append, ← List.append_assoc, h, List.range_succ]
      rfl
  | failureArrived =>
      show _ ++ List.filterMap _ (s.arrived ++ [_]) = _
      rw [List.filterMap_append, ← List.append_assoc, h]
      exact List.append_nil _
  | @delivered i item arrived pool _ harrived hitem hpool =>
      cases item with
      | delivery m =>
          rw [Flowing, harrived] at h
          cases hpool with
          | taken =>
              show List.map _ (s.pool.pulled ++ [(i, m)]) ++ _ = _
              rw [List.map_append, List.append_assoc]
              exact h
          | refused _ hother => exact absurd rfl (hother m)
      | failure cause =>
          refine h.of_pulled (hpool.pulled_of_none rfl) ?_ rfl
          rw [harrived]
          rfl
      | finished => exact absurd rfl hitem
  | drained _ hpool | worked hpool | finished hpool | acknowledged _ hpool
  | unacknowledged _ hpool | released hpool => exact h.of_pulled (hpool.pulled_of_none rfl) rfl rfl
  | launched hcalling =>
      simp only [InPhase, hcalling] at hphase
      rw [Flowing, hphase.1.2.1] at h
      exact h
  | _ => exact h

theorem Reaches.flowing (run : Reaches setup (made queue d world) labels s) : s.Flowing := by
  induction run with
  | refl => rfl
  | step run move ih => exact (moves_of_step move).flowing run.phased.phase ih

/-- No two deliveries that workers have taken have one number. -/
theorem Reaches.pulled_nodup (run : Reaches setup (made queue d world) labels s) :
    (s.pool.pulled.map fun entry => entry.2.index).Nodup := by
  have hrange : (List.range s.delivered).Nodup := List.nodup_range
  rw [← run.flowing] at hrange
  exact hrange.sublist (List.sublist_append_left _ _)

/-- A stopped stream stays stopped, and no step takes a message from it. -/
theorem Moves.pulled_of_stopped {label : Label} (hmove : Moves setup s label t)
    (hphase : s.InPhase) (hstopped : s.stopped = true) :
    t.stopped = true ∧ t.pool.pulled = s.pool.pulled := by
  cases hmove with
  | delivered hgoing =>
      rw [hstopped] at hgoing
      cases hgoing
  | drained _ hpool | worked hpool | finished hpool | acknowledged _ hpool
  | unacknowledged _ hpool | released hpool =>
      exact ⟨hstopped, hpool.pulled_of_none rfl⟩
  | launched hcalling =>
      simp only [InPhase, hcalling] at hphase
      exact ⟨hstopped, hphase.1.2.1.symm⟩
  | stopped | stoppedAlone => exact ⟨rfl, rfl⟩
  | _ => exact ⟨hstopped, rfl⟩

theorem Reaches.ledger (run : Reaches setup (made queue d world) labels s) : s.pool.Ledger := by
  obtain ⟨workers, hruns⟩ := run.runs
  exact hruns.ledger

theorem Reaches.whole (run : Reaches setup (made queue d world) labels s)
    (hsteady : setup.processor.Steady) : s.pool.Whole := by
  obtain ⟨workers, hruns⟩ := run.runs
  exact hruns.whole hsteady

/-! ## Acknowledgments -/

/-- Attempts are made for the messages that count as acknowledged. -/
theorem Reaches.map_fst_attempts (run : Reaches setup (made queue d world) labels s) :
    (s.attempts labels).map Prod.fst = s.pool.acknowledged :=
  List.map_fst_zip (Nat.le_of_eq run.acknowledged_length)

/-- What is sent for some messages is at most one method for each. -/
theorem filterMap_acknowledgment?_sublist (entries : List (Nat × Message))
    (results : List (Except SessionError Unit)) :
    ((entries.zip results).filterMap acknowledgment?).Sublist
      (entries.map fun entry => .acknowledge (entry.2.index + 1) false) := by
  induction entries generalizing results with
  | nil => exact List.Sublist.refl _
  | cons entry entries ih =>
      cases results with
      | nil => exact List.nil_sublist _
      | cons result results =>
          cases result with
          | ok => exact (ih results).cons_cons _
          | error => exact (ih results).cons _

/-- No delivery is acknowledged twice. -/
theorem Reaches.acknowledgments_nodup (run : Reaches setup (made queue d world) labels s) :
    (s.acknowledgments labels).Nodup := by
  refine List.Nodup.sublist (filterMap_acknowledgment?_sublist _ _) ?_
  have honce := run.ledger.acknowledged_nodup run.pulled_nodup.of_map
  refine honce.map_on fun entry hentry other hother hsame => ?_
  have hindex : entry.2.index = other.2.index := by simpa using hsame
  have hpulled := run.ledger.acknowledged_subset
  exact List.inj_on_of_nodup_map run.pulled_nodup (hpulled hentry) (hpulled hother) hindex

/-! ## Teardown -/

/-- When a call of `close` has come to closing the channel, the workers have ended. -/
theorem Phased.isDone (h : s.Phased) {first : Farewell} {later : List Farewell}
    (hcons : s.farewells = first :: later)
    (hgone : first = .returned ∨ ∃ calls, first = .calling calls) : s.pool.isDone = true := by
  have htearing := h.tearing
  have hdrained : s.attachment ≠ .absent → s.drained = true := by
    rcases hgone with rfl | ⟨calls, rfl⟩ <;> simp only [Tearing, hcons] at htearing <;>
      exact htearing.2.2.2
  by_cases habsent : s.attachment = .absent
  · have hphase := h.phase
    simp only [InPhase, habsent] at hphase
    exact hphase.1.isDone
  · exact h.phase.isDone_of_drained (hdrained habsent)

theorem Parted.isDone {exchanges : List Exchange} {parting : List Method}
    (h : s.Parted exchanges parting) (hphased : s.Phased) (hsome : parting ≠ []) :
    s.pool.isDone = true := by
  unfold Parted at h
  split at h
  · exact absurd h.2 hsome
  · exact absurd h.2 hsome
  · exact absurd h.2 hsome
  · exact hphased.isDone ‹_› (.inr ⟨_, rfl⟩)
  · exact hphased.isDone ‹_› (.inl rfl)

/-- The subscription has failed, and its call returns or has returned with `cause`. -/
def Failed (cause : BrokerError) (s : Session τ ω) : Prop :=
  s.attachment = .leaving (.error cause) ∨ s.attachment = .returned (.error cause)

/-- After a failed subscription a session sends no more than what ends it. -/
theorem Moves.failed {cause : BrokerError} {exchanges : List Exchange} {parting : List Method}
    {label : Label} (hmove : Moves setup s label t) (hphased : s.Phased)
    (hparted : s.Parted exchanges parting) (h : s.Failed cause) :
    t.Failed cause ∧ ∃ more, t.sent = s.sent ++ more ∧ ∀ m ∈ more, m ∈ closingMethods true := by
  have hphase := hphased.phase
  have hquiet : t.sent = s.sent → ∃ more, t.sent = s.sent ++ more ∧
      ∀ m ∈ more, m ∈ closingMethods true :=
    fun hsent => ⟨[], by rw [hsent, List.append_nil], fun m hm => absurd hm List.not_mem_nil⟩
  have hnot {other : Attachment} (hother : s.attachment = other)
      (hleaving : ∀ result, other ≠ .leaving result) (hreturned : ∀ result, other ≠ .returned result) :
      False := by
    rcases h with h | h
    · exact hleaving _ (hother.symm.trans h)
    · exact hreturned _ (hother.symm.trans h)
  cases hmove with
  | subscribed hconnected =>
      have hlives := hphased.lives
      simp only [Lives, hconnected] at hlives
      exact (hnot hlives (by simp) (by simp)).elim
  | delivered _ _ _ hpool | drained _ hpool | worked hpool | finished hpool
  | acknowledged _ hpool | unacknowledged _ hpool | released hpool =>
      exact (hnot (hphase.running_of_moves hpool) (by simp) (by simp)).elim
  | built hother | buildFailed hother | attached hother | called hother | agreed hother
  | launched hother | callFailed hother | joined hother =>
      exact (hnot hother (by simp) (by simp)).elim
  | left hleaving =>
      rcases h with h | h
      · rw [h] at hleaving
        cases hleaving
        exact ⟨.inr rfl, hquiet rfl⟩
      · rw [h] at hleaving
        cases hleaving
  | @parting i m rest hfarewell =>
      refine ⟨h, [m], rfl, fun other hother => ?_⟩
      obtain rfl := List.mem_singleton.1 hother
      obtain ⟨rfl, later, hcons, -⟩ := hphased.tearing.advance hfarewell (by simp)
      simp only [Parted, hcons] at hparted
      have hmem : other ∈ closingMethods s.keepsChannel := hparted.suffix.subset (by simp)
      cases hkeeps : s.keepsChannel <;> rw [hkeeps] at hmem
      · simp [closingMethods] at hmem ⊢
        exact .inr hmem
      · exact hmem
  | _ => exact ⟨h, hquiet rfl⟩

theorem Reaches.parted (run : Reaches setup (made queue d world) labels s) :
    ∃ exchanges parting, s.Parted exchanges parting := by
  induction run with
  | refl => exact ⟨[], [], rfl, rfl⟩
  | step run move ih =>
      obtain ⟨exchanges, parting, h⟩ := ih
      exact ⟨_, _, (moves_of_step move).keeps_parted run.phased h⟩

theorem Reaches.failed {cause : BrokerError} {later : List Label}
    (run : Reaches setup (made queue d world) labels s) (hfailed : s.Failed cause)
    (rest : Reaches setup s later t) :
    t.Failed cause ∧ ∃ more, t.sent = s.sent ++ more ∧ ∀ m ∈ more, m ∈ closingMethods true := by
  induction rest with
  | refl => exact ⟨hfailed, [], (List.append_nil _).symm, nofun⟩
  | @step a b later label rest move ih =>
      obtain ⟨hbefore, earlier, hsent, hclosing⟩ := ih
      have hrun := reaches_append_iff.2 ⟨_, run, rest⟩
      obtain ⟨exchanges, parting, hparted⟩ := hrun.parted
      obtain ⟨hafter, more, hmore, hlast⟩ :=
        (moves_of_step move).failed hrun.phased hparted hbefore
      refine ⟨hafter, earlier ++ more, by rw [hmore, hsent, List.append_assoc], fun m hm => ?_⟩
      rcases List.mem_append.1 hm with hm | hm
      · exact hclosing m hm
      · exact hlast m hm

/-! ## The protocol -/

/-- A session with `workers` workers keeps to the protocol in a run that leads to `s`: what it has
sent are the methods that make it, the first ones of those that start its consumer, acknowledgments,
and some of those that end it, where a channel is closed only if there is one. -/
structure Conforms (setup : Setup τ ω) (c : QueueConfig) (workers : Nat) (labels : List Label)
    (opening parting : List Method) (s : Session τ ω) : Prop where
  sent : s.sent =
    [.connect, .openChannel .setup, .declareQueue c.queue true,
      .declareExchange c.exchange "topic" true, .closeChannel .setup "topology declared"] ++
      opening ++ s.acknowledgments labels ++ parting
  starts : opening <+:
    [.openChannel .consumer, .limit (prefetch workers setup.multiplier),
      .consume c.queue "processor" false]
  /-- The consumer is started when the factory has built all processors. -/
  built : opening ≠ [] → s.built = workers ∧ ∀ i < workers, setup.factory i = .ok ()
  /-- Nothing is processed before the server has agreed to the bound and the rest. -/
  agreed : s.pool.pulled ≠ [] → ∀ m ∈ [Method.openChannel .consumer,
    .limit (prefetch workers setup.multiplier), .consume c.queue "processor" false],
      m ∈ s.confirmed
  /-- No delivery is acknowledged twice. -/
  once : (s.acknowledgments labels).Nodup
  attempted : (s.attempts labels).map Prod.fst = s.pool.acknowledged
  taken : s.pool.acknowledged ⊆ s.pool.pulled
  /-- A delivery on which a call is open has not been acknowledged. -/
  open_call : ∀ {i : Nat} {m : Message} {task : τ}, s.pool.workers[i]? = some (.busy m task) →
    ∀ j, (j, m) ∉ s.pool.acknowledged
  ends : parting.Sublist
    ((if s.keepsChannel then [.closeChannel .consumer "worker shutting down"] else []) ++
      [.disconnect "worker shutting down"])
  /-- A first call of `close` that has returned has called all of them, and those that could be sent
  were sent. -/
  called : s.farewells.head? = some .returned →
    Called ((if s.keepsChannel then [.closeChannel .consumer "worker shutting down"] else []) ++
      [.disconnect "worker shutting down"]) (partings labels) parting
  /-- The session is ended when an acknowledgment has been tried for all that was taken. -/
  settled : parting ≠ [] → s.pool.isDone = true ∧ s.pool.acknowledged.Perm s.pool.pulled

theorem Moves.queue_eq {label : Label} (hmove : Moves setup s label t) : t.queue = s.queue := by
  cases hmove <;> rfl

/-- Every state that a session can reach keeps to the protocol. -/
theorem Reaches.conforms {c : QueueConfig} {workers : Nat} (hmade : d.sent = setupMethods c)
    (run : Reaches setup (made c.queue d world) labels s)
    (honly : ∀ count, .subscribe count ∈ labels → count = workers)
    (hsteady : setup.processor.Steady) :
    ∃ opening parting, s.Conforms setup c workers labels opening parting := by
  obtain ⟨opening, parting, hspoken⟩ := run.spoken honly
  have hphase := run.phased.phase
  have hexplained := run.explained honly
  have hopened := hspoken.opened
  have hqueue : s.queue = c.queue :=
    run.invariant (P := fun s => s.queue = c.queue) rfl fun _ _ _ _ hmove h =>
      hmove.queue_eq.trans h
  rw [hqueue] at hopened
  have hmessages : (s.pool.pulled.map Prod.snd).Nodup := by
    refine List.Nodup.of_map Message.index ?_
    rw [List.map_map]
    exact run.pulled_nodup
  refine ⟨opening, parting, ?_, hopened.isPrefix, hopened.built hexplained, hopened.agreed hphase,
    run.acknowledgments_nodup, run.map_fst_attempts, run.ledger.acknowledged_subset,
    fun hbusy => run.ledger.not_acknowledged hmessages hbusy, hspoken.parted.sublist,
    hspoken.parted.called, fun hsome => ?_⟩
  · rw [hspoken.sent]
    exact congrArg (· ++ _ ++ _ ++ _) hmade
  · have hdone := hspoken.parted.isDone run.phased hsome
    exact ⟨hdone, run.ledger.perm (run.whole hsteady) hdone⟩

/-- The protocol of a session with `workers` workers, whatever the server does and whenever somebody
asks for a shutdown. While it is made, the methods that declare what is needed are sent in order,
all of them if it succeeds, and nothing after a failure. From then on every state keeps to the
protocol; when the first call of `close` has returned, it has tried to close the consumer's channel,
if there was one, and the connection. When the stream has been stopped, what is acknowledged was
taken before, and after a subscription that failed no more is sent than what ends the session. -/
theorem session_protocol {c : QueueConfig} {exchanges : List Exchange} {workers : Nat}
    (dialed : exchanges.foldlM Dialing.step (.start c) = some d)
    (hsteady : setup.processor.Steady) :
    d.sent <+: [.connect, .openChannel .setup, .declareQueue c.queue true,
        .declareExchange c.exchange "topic" true, .closeChannel .setup "topology declared"] ∧
      (∀ cause, d.result? = some (.error cause) → ∀ exchange, d.step exchange = none) ∧
      (d.result? = some (.ok ()) →
        d.sent = [.connect, .openChannel .setup, .declareQueue c.queue true,
          .declareExchange c.exchange "topic" true, .closeChannel .setup "topology declared"] ∧
        0 < prefetch workers setup.multiplier ∧
        ∀ world labels s, Reaches setup (made c.queue d world) labels s →
          (∀ count, .subscribe count ∈ labels → count = workers) →
          (∃ opening parting, s.Conforms setup c workers labels opening parting) ∧
          (s.stopped = true → ∀ later t, Reaches setup s later t →
            t.pool.acknowledged ⊆ s.pool.pulled) ∧
          ∀ cause, s.Failed cause → ∀ later t, Reaches setup s later t →
            ∃ more, t.sent = s.sent ++ more ∧ ∀ m ∈ more,
              m ∈ [Method.closeChannel .consumer "worker shutting down",
                .disconnect "worker shutting down"]) := by
  have hspoken := Dialing.spoken dialed
  refine ⟨hspoken.isPrefix, fun cause hfailed => Dialing.step_eq_none hfailed, fun hmade => ?_⟩
  have hsent := hspoken.eq_of_ok hmade
  refine ⟨hsent, prefetch_pos .., fun world labels s run honly => ⟨run.conforms hsent honly hsteady,
    fun hstopped later t rest => ?_, fun cause hfailed later t rest => (run.failed hfailed rest).2⟩⟩
  have hkept : t.Phased ∧ t.stopped = true ∧ t.pool.pulled = s.pool.pulled :=
    rest.invariant (P := fun t => t.Phased ∧ t.stopped = true ∧ t.pool.pulled = s.pool.pulled)
      ⟨run.phased, hstopped, rfl⟩ fun _ _ _ _ hmove h =>
        have hnone := hmove.pulled_of_stopped h.1.phase h.2.1
        ⟨hmove.phased h.1, hnone.1, hnone.2.trans h.2.2⟩
  have hall := reaches_append_iff.2 ⟨s, run, rest⟩
  rw [← hkept.2.2]
  exact hall.ledger.acknowledged_subset

/-- A session from its first method to its last. Its only worker takes two messages; the server does
not let the second be acknowledged and closes the channel instead. -/
theorem session_protocol_whole :
    ∃ (c : QueueConfig) (setup : Setup Bool Nat) (labels : List Label) (s : Session Bool Nat)
      (opening parting : List Method), s.Conforms setup c 1 labels opening parting ∧
        s.farewells.head? = some .returned ∧
        s.sent = [.connect, .openChannel .setup, .declareQueue c.queue true,
          .declareExchange c.exchange "topic" true, .closeChannel .setup "topology declared",
          .openChannel .consumer, .limit 2, .consume c.queue "processor" false, .acknowledge 1 false,
          .closeChannel .consumer "worker shutting down", .disconnect "worker shutting down"] := by
  let c : QueueConfig := ⟨"amqp://localhost", "parts", "jobs", 2⟩
  let setup : Setup Bool Nat := ⟨2, .failing, fun _ => .ok ()⟩
  let exchanges : List Exchange := [.send, .answer (.ok ()), .send, .answer (.ok ()), .send,
    .answer (.ok ()), .send, .answer (.ok ()), .send, .answer (.ok ())]
  let lost : Except SessionError Unit := .error (.state "closing")
  let handle (result : Except SessionError Unit) : List Label :=
    [.pull 0, .work 0, .finish 0, .acknowledge 0 result, .release 0]
  let labels : List Label := [.subscribe 1, .build, .attach, .call .send, .call (.answer (.ok ())),
    .call .send, .call (.answer (.ok ())), .call .send, .call (.answer (.ok ())), .deliver [1],
    .deliver [2]] ++ handle (.ok ()) ++ handle lost ++ [.close, .proceed 0, .pull 0, .join, .leave,
    .proceed 0, .part 0 .send, .part 0 (.answer lost), .part 0 .send, .part 0 (.answer (.ok ()))]
  let d : Dialing := ⟨.of [], setupMethods c, none⟩
  have dialed : exchanges.foldlM Dialing.step (.start c) = some d := rfl
  let last : Option (Session Bool Nat) :=
    labels.foldlM (fun s label => s.step setup label) (made c.queue d 0)
  have hcomputed : last.map (fun s => ((interface setup).hasClosed s 0, s.sent)) =
      some (true, setupMethods c ++ consumerMethods c.queue 2 ++ [.acknowledge 1 false] ++
        closingMethods true) := by
    decide +kernel
  obtain ⟨s, hlast, hends⟩ := Option.map_eq_some_iff.1 hcomputed
  obtain ⟨hclosed, hsent⟩ := Prod.mk.inj hends
  have hreturned : s.farewells.head? = some .returned := by
    simp only [interface] at hclosed
    split at hclosed
    · rw [List.head?_eq_getElem?]
      assumption
    · cases hclosed
  have run : Reaches setup (made c.queue d 0) labels s := reaches_iff_foldlM.2 hlast
  have honly : ∀ count, .subscribe count ∈ labels → count = 1 := by simp [labels, handle]
  obtain ⟨-, -, hprotocol⟩ :=
    @session_protocol _ _ setup d c exchanges 1 dialed Processor.failing_steady
  obtain ⟨-, -, hconforms⟩ := hprotocol rfl
  obtain ⟨⟨opening, parting, h⟩, -, -⟩ := hconforms 0 labels s run honly
  exact ⟨c, setup, labels, s, opening, parting, h, hreturned, hsent⟩

end Session

end JobLog.Broker
