import JobLog.Proofs.Consumption.Factory
import JobLog.Proofs.Queue.Flow
import JobLog.Proofs.Queue.Termination

/-!
# Processors come first

A subscription of a broker in memory builds all its processors before it takes anything from its
queue. If it fails, it leaves the queue as it was and the counters at zero, it returns by steps of
its own, and no call of `close` has to wait any more: `Reaches.buildsFirst`.
-/

namespace JobLog.Broker

variable {τ ω : Type} {setup : Setup τ ω} {workers : Nat}

/-- For how many workers the factory was called by a subscription with so many. -/
def Subscription.asked (workers : Nat) : Subscription → Nat
  | .absent => 0
  | .building _ next => next
  | .running | .dropping => workers
  | .leaving result | .returned result => Broker.asked workers result

/-- How many steps of its own a subscription has before it that calls the factory so often and then
fails. -/
def Subscription.untilFailed (calls : Nat) : Subscription → Nat
  | .building _ next => calls + 1 - next
  | .returned _ => 0
  | .absent | .running | .dropping | .leaving _ => 1

theorem Closing.ahead_le (c : Closing) : c.ahead ≤ 3 := by
  cases c <;> simp [Closing.ahead]

namespace Queue

variable {p q r : Queue τ ω} {cause : BrokerError} {world : ω} {label : Label}
  {labels before after : List Label}

/-- The workers for which a step calls the factory. -/
def creates (q : Queue τ ω) : Label → List Nat
  | .build =>
    match q.subscription with
    | .building workers next => if next < workers then [next] else []
    | _ => []
  | _ => []

/-- The workers for which the factory is called in a run. -/
def created (setup : Setup τ ω) (q : Queue τ ω) (labels : List Label) : List Nat :=
  gather (fun a label => a.step setup label) creates q labels

/-- Every step of a broker with a subscription keeps it. -/
theorem Kept.move (h : q.Kept setup (some workers)) (hmove : Moves setup q label r) :
    r.Kept setup (some workers) :=
  ⟨hmove.phased h.1, hmove.explained h.1 h.2⟩

theorem Kept.reaches (h : q.Kept setup (some workers)) (run : Reaches setup q labels r) :
    r.Kept setup (some workers) :=
  run.invariant h fun _ _ _ _ hmove h => h.move hmove

/-- A call of `subscribe` on a connected broker passes the check of the lifecycle. -/
theorem Phased.subscribed (hphased : p.Phased setup) (hconnected : p.lifecycle = .connected)
    (hstep : p.step setup (.subscribe workers) = some r) :
    r.Kept setup (some workers) ∧ r.subscription.asked workers = 0 ∧ r.pool = p.pool ∧
      r.waiting = p.waiting := by
  have hpasses := canBecome_subscribed_iff.2 hconnected
  have habsent := hphased.lives
  simp only [Lives, hconnected] at habsent
  simp only [step, subscribe, if_pos hpasses, Except.toOption, Option.getD_some,
    Option.some.injEq] at hstep
  have hkept : p.Kept setup none := ⟨hphased, habsent⟩
  refine ⟨(hkept.subscribe (by rw [subscribe, if_pos hpasses, hstep])).1, ?_⟩
  subst hstep
  refine ⟨?_, rfl, rfl⟩
  show Subscription.asked workers (if workers = 0 then _ else _) = 0
  split <;> rfl

/-- The factory is called for one worker after the other. -/
theorem Kept.asked_step (h : q.Kept setup (some workers)) (hmove : Moves setup q label r) :
    List.range (r.subscription.asked workers) =
      List.range (q.subscription.asked workers) ++ q.creates label := by
  have hexplained : q.Explained setup workers := h.2
  have hphase := h.1.phase
  have hquiet (hnone : q.creates label = []) (hsame : r.subscription.asked workers =
      q.subscription.asked workers) : List.range (r.subscription.asked workers) =
      List.range (q.subscription.asked workers) ++ q.creates label := by
    rw [hnone, hsame, List.append_nil]
  cases hmove with
  | subscribed hconnected =>
      have hlives := h.1.lives
      simp only [Lives, hconnected] at hlives
      simp only [Explained, hlives] at hexplained
  | built hbuilding hnext | buildFailed hbuilding hnext =>
      simp only [creates, hbuilding, if_pos hnext]
      exact List.range_succ
  | @launched count next hbuilding hnext =>
      simp only [Explained, hbuilding] at hexplained
      simp only [InPhase, hbuilding] at hphase
      obtain ⟨rfl, -⟩ := hexplained
      refine hquiet rfl ?_
      rw [launch, hphase.1.2.1, if_neg (by decide), hbuilding]
      exact Nat.le_antisymm hnext hphase.2.2.2
  | joined hpresent | aborted hpresent | left hpresent =>
      refine hquiet rfl ?_
      rw [hpresent]
      rfl
  | _ => exact hquiet rfl rfl

/-- In a run the factory is called for the first workers, in their order. -/
theorem Kept.range_asked (h : q.Kept setup (some workers)) (run : Reaches setup q labels r) :
    List.range (r.subscription.asked workers) =
      List.range (q.subscription.asked workers) ++ q.created setup labels :=
  (seen_eq_append_gather (P := Kept setup (some workers))
    (fun hstep h => ⟨h.move (moves_of_step hstep), h.asked_step (moves_of_step hstep)⟩)
    run.foldlM_eq h).2

/-- What a subscription that is about to return or has returned says. -/
theorem Kept.canReturn (h : q.Kept setup (some workers)) {result : Except BrokerError Unit}
    (hended : q.subscription = .leaving result ∨ q.subscription = .returned result) :
    CanReturn setup false workers result := by
  have hexplained : q.Explained setup workers := h.2
  cases result with
  | ok =>
      rcases hended with hended | hended <;> simp only [Explained, hended] at hexplained <;>
        exact hexplained.2
  | error cause =>
      rcases hended with hended | hended <;> simp only [Explained, hended] at hexplained <;>
        exact .inl hexplained

/-- The broker is untouched, or all processors are built. -/
theorem Kept.untouched_or_built (h : q.Kept setup (some workers)) :
    q.Untouched ∨ q.subscription.asked workers = workers ∧
      ∀ i < workers, setup.factory i = .ok () := by
  have hexplained : q.Explained setup workers := h.2
  have hphase := h.1.phase
  unfold InPhase at hphase
  unfold Explained at hexplained
  split at hphase <;> rename_i hsubscription <;> simp only [hsubscription] at hexplained ⊢
  · exact .inl hphase.1
  · exact .inr ⟨rfl, hexplained.2.2⟩
  · exact .inr ⟨rfl, hexplained.2.2⟩
  · exact .inr ⟨rfl, hexplained.2.2⟩
  · exact .inl hphase.1
  · exact .inr ⟨rfl, hexplained.2.2⟩
  · exact .inl hphase.1

/-- What a subscription has asked of its factory by now. -/
theorem Kept.factoryCalls (h : q.Kept setup (some workers)) :
    FactoryCalls setup workers (List.range (q.subscription.asked workers)) q.Untouched
      fun result => q.subscription = .returned result := by
  have hfar : q.subscription.asked workers ≤ workers ∧
      ∀ i, i + 1 < q.subscription.asked workers → setup.factory i = .ok () := by
    have hexplained : q.Explained setup workers := h.2
    have hphase := h.1.phase
    cases hsubscription : q.subscription with
    | absent => simp only [Explained, hsubscription] at hexplained
    | building count next =>
        simp only [Explained, hsubscription] at hexplained
        simp only [InPhase, hsubscription] at hphase
        obtain ⟨rfl, -, hbefore⟩ := hexplained
        exact ⟨hphase.2.2.2, fun i hi => hbefore i (Nat.lt_of_succ_lt hi)⟩
    | running | dropping =>
        simp only [Explained, hsubscription] at hexplained
        exact ⟨Nat.le_refl _, fun i hi => hexplained.2.2 i (Nat.lt_of_succ_lt hi)⟩
    | leaving result =>
        have hcan := h.canReturn (.inl hsubscription)
        exact ⟨hcan.asked_le, fun i hi => hcan.succeeded hi⟩
    | returned result =>
        have hcan := h.canReturn (.inr hsubscription)
        exact ⟨hcan.asked_le, fun i hi => hcan.succeeded hi⟩
  have hresult (result : Except BrokerError Unit) (hreturned : q.subscription = .returned result) :
      q.subscription.asked workers = Broker.asked workers result ∧
        CanReturn setup false workers result :=
    ⟨by rw [hreturned]; rfl, h.canReturn (.inr hreturned)⟩
  exact factoryCalls_of_range hfar.1 hfar.2 h.untouched_or_built hresult

/-! ## A subscription that fails -/

/-- A subscription that is bound to fail builds processors, or it has failed. -/
theorem Kept.failing (h : q.Kept setup (some workers)) (hfails : Fails setup workers cause) :
    (∃ next, q.subscription = .building workers next ∧ next < asked workers (.error cause)) ∨
      q.subscription = .leaving (.error cause) ∨ q.subscription = .returned (.error cause) := by
  have hexplained : q.Explained setup workers := h.2
  unfold Explained at hexplained
  split at hexplained <;> rename_i hsubscription
  · exact hexplained.elim
  · obtain ⟨rfl, hpos, hbefore⟩ := hexplained
    exact .inl ⟨_, hsubscription, hfails.lt_asked hpos hbefore⟩
  · exact (hfails.not_built hexplained.2.1 hexplained.2.2).elim
  · exact (hfails.not_built hexplained.2.1 hexplained.2.2).elim
  · exact (hfails.not_built hexplained.2.1 hexplained.2.2).elim
  · exact (hfails.not_built hexplained.2.1 hexplained.2.2).elim
  · rw [hexplained.unique hfails] at hsubscription
    exact .inr (.inl hsubscription)
  · rw [hexplained.unique hfails] at hsubscription
    exact .inr (.inr hsubscription)

theorem Kept.untouched (h : q.Kept setup (some workers)) (hfails : Fails setup workers cause) :
    q.Untouched := by
  have hphase := h.1.phase
  rcases h.failing hfails with ⟨next, hsubscription, -⟩ | hsubscription | hsubscription <;>
    simp only [InPhase, hsubscription] at hphase <;> exact hphase.1

/-- What a subscription on `p` leaves of the broker if it fails: nothing was taken, no worker was
started, nothing was counted, and the queue has grown by what was published. -/
structure Spared (setup : Setup τ ω) (p : Queue τ ω) (labels : List Label) (q : Queue τ ω) :
    Prop where
  untouched : q.Untouched
  pool_eq : q.pool = p.pool
  waiting_eq : q.waiting = p.waiting ++ p.sent setup labels

/-- While a subscription is bound to fail, a step publishes a message or leaves the messages and the
workers alone. -/
theorem Kept.spares (h : q.Kept setup (some workers)) (hfails : Fails setup workers cause)
    (hmove : Moves setup q label r) :
    r.pool = q.pool ∧ r.waiting = q.waiting ++ q.sends label := by
  have hkept : r.pool = q.pool ∧ r.waiting = q.waiting ++ [] ↔
      r.pool = q.pool ∧ r.waiting = q.waiting := by rw [List.append_nil]
  have huntouched := h.untouched hfails
  cases hmove with
  | published haccepting hpump => simp [sends, haccepting, hpump]
  | rejected hclosed => simp [sends, hclosed]
  | messageTaken hpump => simp [huntouched.pump_eq] at hpump
  | delivered _ _ hpool | drained _ hpool | worked hpool | finished hpool | acknowledged hpool
  | released hpool => exact absurd huntouched.workers_eq hpool.workers_ne_nil
  | @launched count next hbuilding hnext =>
      rcases h.failing hfails with ⟨other, hother, hlt⟩ | hother | hother <;>
        rw [hbuilding] at hother <;> cases hother
      have hle := hfails.asked_le
      omega
  | _ => exact hkept.2 ⟨rfl, rfl⟩

theorem Kept.spared (h : q.Kept setup (some workers)) (hfails : Fails setup workers cause)
    (run : Reaches setup q labels r) : r.pool = q.pool ∧ r.waiting = q.waiting ++ q.sent setup labels
    := by
  induction run with
  | refl => exact ⟨rfl, (List.append_nil _).symm⟩
  | step run move ih =>
      obtain ⟨hpool, hwaiting⟩ := (h.reaches run).spares hfails (moves_of_step move)
      refine ⟨hpool.trans ih.1, ?_⟩
      rw [hwaiting, ih.2, run.sent_concat, List.append_assoc]

/-- A subscription that is bound to fail can go on until it has returned. -/
theorem Kept.goes_on (h : q.Kept setup (some workers)) (hfails : Fails setup workers cause)
    (hbusy : q.subscription ≠ .returned (.error cause)) :
    ∃ label r, (label = .build ∨ label = .leave) ∧ q.step setup label = some r ∧
      r.Kept setup (some workers) ∧ r.subscription.untilFailed (asked workers (.error cause)) <
        q.subscription.untilFailed (asked workers (.error cause)) := by
  rcases h.failing hfails with ⟨next, hbuilding, hlt⟩ | hleaving | hreturned
  · obtain ⟨r, hstep, hcloser⟩ : ∃ r, q.step setup .build = some r ∧
        r.subscription.untilFailed (asked workers (.error cause)) <
          q.subscription.untilFailed (asked workers (.error cause)) := by
      have hnext : next < workers := Nat.lt_of_lt_of_le hlt hfails.asked_le
      simp only [step, subscriptionStep, hbuilding, if_pos hnext]
      cases setup.factory next with
      | ok | error =>
          refine ⟨_, rfl, ?_⟩
          simp only [Subscription.untilFailed]
          omega
    exact ⟨.build, r, .inl rfl, hstep, h.move (moves_of_step hstep), hcloser⟩
  · have hstep : q.step setup .leave = some
        { q with drained := true, subscription := .returned (.error cause) } := by
      simp only [step, subscriptionStep, hleaving]
    refine ⟨.leave, _, .inr rfl, hstep, h.move (moves_of_step hstep), ?_⟩
    rw [hleaving]
    exact Nat.zero_lt_one
  · exact absurd hreturned hbusy

/-- A subscription that fails returns by steps of its own: further calls of the factory and its
return. -/
theorem Kept.returns (h : q.Kept setup (some workers)) (hfails : Fails setup workers cause) :
    ∃ rest r, (∀ label ∈ rest, label = .build ∨ label = .leave) ∧
      rest.length + q.subscription.asked workers ≤ asked workers (.error cause) + 1 ∧
      Reaches setup q rest r ∧ r.subscription = .returned (.error cause) := by
  have hcloser (a : Queue τ ω) (n : Nat) (ha : a.Kept setup (some workers) ∧
      a.subscription.untilFailed (asked workers (.error cause)) = n)
      (hbusy : a.subscription ≠ .returned (.error cause)) :
      ∃ label b m, (label = .build ∨ label = .leave) ∧ a.step setup label = some b ∧
        (b.Kept setup (some workers) ∧
          b.subscription.untilFailed (asked workers (.error cause)) = m) ∧ m < n := by
    obtain ⟨hkept, rfl⟩ := ha
    obtain ⟨label, b, hown, hstep, hb, hlt⟩ := hkept.goes_on hfails hbusy
    exact ⟨label, b, _, hown, hstep, ⟨hb, rfl⟩, hlt⟩
  obtain ⟨rest, r, hown, hlength, hrun, hreturned⟩ := exists_run_of_closer _ hcloser ⟨h, rfl⟩
  refine ⟨rest, r, hown, ?_, reaches_of_foldlM hrun, hreturned⟩
  rcases h.failing hfails with ⟨next, hsubscription, hlt⟩ | hsubscription | hsubscription <;>
    simp only [hsubscription, Subscription.untilFailed, Subscription.asked] at hlength ⊢ <;> omega

/-! ## Calls of `close` -/

/-- When the workers have drained, a call of `close` need not wait. -/
theorem proceeds_of_drained (hdrained : q.drained = true) {i : Nat} {c : Closing}
    (hclosing : q.closings[i]? = some c) (hbusy : c ≠ .returned) :
    ∃ r d, q.step setup (.proceed i) = some r ∧ r.drained = true ∧ r.closings[i]? = some d ∧
      d.ahead < c.ahead := by
  have hi : i < q.closings.length := (List.getElem?_eq_some_iff.1 hclosing).1
  have hset (d : Closing) : (q.closings.set i d)[i]? = some d := List.getElem?_set_self hi
  cases c with
  | ending waits =>
      refine ⟨q.endStream.setClosing i (.stopping waits), .stopping waits, ?_, hdrained, hset _, ?_⟩
      · simp only [step, closingStep, hclosing]
      · exact Nat.lt_succ_self _
  | stopping waits =>
      refine ⟨{ q.setClosing i (if waits then .waiting else .returned) with stopped := true },
        if waits then .waiting else .returned, ?_, hdrained, hset _, ?_⟩
      · simp only [step, closingStep, hclosing]
      · cases waits <;> decide
  | waiting =>
      refine ⟨q.setClosing i .returned, .returned, ?_, hdrained, hset _, by decide⟩
      simp only [step, closingStep, hclosing, hdrained, if_true]
  | returned => exact absurd rfl hbusy

/-- When the workers have drained, a call of `close` returns by steps of its own. -/
theorem close_returns (hdrained : q.drained = true) {i : Nat} {c : Closing}
    (hclosing : q.closings[i]? = some c) :
    ∃ count ≤ 3, ∃ r, Reaches setup q (List.replicate count (.proceed i)) r ∧
      r.closings[i]? = some .returned := by
  have hcloser (a : Queue τ ω) (n : Nat)
      (ha : a.drained = true ∧ ∃ c, a.closings[i]? = some c ∧ c.ahead = n)
      (hbusy : a.closings[i]? ≠ some .returned) :
      ∃ label b m, label = .proceed i ∧ a.step setup label = some b ∧
        (b.drained = true ∧ ∃ c, b.closings[i]? = some c ∧ c.ahead = m) ∧ m < n := by
    obtain ⟨ha, c, hc, rfl⟩ := ha
    obtain ⟨b, d, hstep, hb, hd, hlt⟩ := proceeds_of_drained ha hc fun hdone => hbusy (hdone ▸ hc)
    exact ⟨.proceed i, b, _, rfl, hstep, ⟨hb, d, hd, rfl⟩, hlt⟩
  obtain ⟨labels, r, hown, hlength, hrun, hreturned⟩ :=
    exists_run_of_closer _ hcloser ⟨hdrained, c, hclosing, rfl⟩
  refine ⟨labels.length, hlength.trans c.ahead_le, r, ?_, hreturned⟩
  rw [← List.eq_replicate_length.2 hown]
  exact reaches_of_foldlM hrun

/-! ## All together -/

/-- How a call of `subscribe` for so many workers goes on from `p`, in a run of these steps to `q`:
the factory comes first; if it fails, nothing is consumed and the call returns by itself; and when
it has returned, no call of `close` is left waiting, whenever it was made. -/
structure BuildsFirst (setup : Setup τ ω) (workers : Nat) (p : Queue τ ω) (labels : List Label)
    (q : Queue τ ω) : Prop where
  factory : FactoryCalls setup workers (p.created setup labels) q.Untouched
    fun result => q.subscription = .returned result
  spared : workers = 0 ∨ setup.FailsBelow workers → Spared setup p labels q
  returns : ∀ cause, Fails setup workers cause → ∃ rest r,
    (∀ label ∈ rest, label = .build ∨ label = .leave) ∧
      rest.length + (p.created setup labels).length ≤ asked workers (.error cause) + 1 ∧
      Reaches setup q rest r ∧ r.subscription = .returned (.error cause)
  closes : ∀ result, q.subscription = .returned result → ∀ i < q.closings.length, ∃ count ≤ 3, ∃ r,
    Reaches setup q (List.replicate count (.proceed i)) r ∧ r.closings[i]? = some .returned

/-- A call of `subscribe` on a connected broker, whatever else goes on. -/
theorem Reaches.buildsFirst (opening : Reaches setup (new world) before p)
    (hconnected : p.lifecycle = .connected)
    (run : Reaches setup p (.subscribe workers :: after) q) :
    BuildsFirst setup workers p (.subscribe workers :: after) q := by
  obtain ⟨r, hsubscribe, rest⟩ := reaches_cons_iff.1 run
  obtain ⟨hr, hasked, hpool, hwaiting⟩ :=
    opening.phased.subscribed hconnected hsubscribe
  have hq := hr.reaches rest
  have hcreated : p.created setup (.subscribe workers :: after) =
      List.range (q.subscription.asked workers) := by
    rw [hr.range_asked rest, hasked]
    simp [created, gather, creates, hsubscribe]
  refine {
    factory := hcreated ▸ hq.factoryCalls
    spared := fun hbound => ?_
    returns := fun cause hfails => ?_
    closes := fun result hreturned i hi => ?_ }
  · obtain ⟨cause, hfails⟩ := exists_fails_iff.2 hbound
    obtain ⟨hsame, hgrown⟩ := hr.spared hfails rest
    refine ⟨hq.untouched hfails, hsame.trans hpool, ?_⟩
    rw [hgrown, hwaiting]
    simp [sent, sends, hsubscribe]
  · rw [hcreated, List.length_range]
    exact hq.returns hfails
  · have hdrained := hq.1.phase.drained_iff.2 ⟨result, hreturned⟩
    exact close_returns hdrained (List.getElem?_eq_getElem hi)

end Queue

end JobLog.Broker
