import JobLog.Proofs.Queue.Building
import JobLog.Proofs.Session.Protocol

/-!
# A factory that fails

In a session, too, the factory comes first: a subscription starts no consumer before all processors
are built, so if the factory fails, the server delivers nothing, and closing the session waits for
nobody but the server: `Session.Reaches.buildsFirst`. Of both brokers together `builds_first` says
that a subscription whose factory fails consumes nothing.
-/

namespace JobLog.Broker

variable {τ ω : Type} {setup : Setup τ ω} {workers : Nat}

/-- For how many workers the factory was called by a subscription with so many. -/
def Attachment.asked (workers : Nat) : Attachment → Nat
  | .absent => 0
  | .building _ next => next
  | .calling .. | .running => workers
  | .leaving result | .returned result => Broker.asked workers result

/-- How many steps of its own a subscription has before it that calls the factory so often and then
fails. -/
def Attachment.untilFailed (calls : Nat) : Attachment → Nat
  | .building _ next => calls + 1 - next
  | .returned _ => 0
  | .absent | .calling .. | .running | .leaving _ => 1

/-- A bound on the steps of a call of `close` that need not wait, the server's answers included. -/
def Farewell.ahead : Farewell → Nat
  | .stopping _ => 6
  | .waiting => 5
  | .calling calls => 2 * calls.methods.length - calls.sent.toNat
  | .returned => 0

/-- A call of `close` has returned, or something is left for it to do. -/
def Farewell.Sound : Farewell → Prop
  | .calling calls => calls.methods ≠ []
  | .stopping _ | .waiting | .returned => True

theorem closingMethods_ne_nil (consumer : Bool) : closingMethods consumer ≠ [] := by
  cases consumer <;> nofun

theorem length_closingMethods_le (consumer : Bool) : (closingMethods consumer).length ≤ 2 := by
  cases consumer <;> decide

namespace Session

variable {s t u : Session τ ω} {label : Label} {labels before after : List Label} {d : Dialing}
  {world : ω} {cause : BrokerError}

/-! ## Before a consumer is started -/

/-- The subscription, if there is one, has not called the server and will not do so after a
failure. -/
def Unattached (s : Session τ ω) : Prop :=
  match s.attachment with
  | .absent | .building .. => True
  | .leaving (.error cause) | .returned (.error cause) => ∀ reason, cause ≠ .session reason
  | _ => False

/-- Nothing was consumed: there is no worker, no consumer was started and nothing was delivered. -/
structure Barren (s : Session τ ω) : Prop where
  idle : s.Idle
  not_consuming : s.isConsuming = false
  delivered_eq : s.delivered = 0
  arrived_eq : s.arrived = []

/-- What every step of a session keeps, whatever its subscription has come to. -/
structure Regular (s : Session τ ω) : Prop where
  phased : s.Phased
  parted : ∃ exchanges parting, s.Parted exchanges parting
  sound : ∀ f ∈ s.farewells, f.Sound
  barren : s.Unattached → s.Barren

theorem isConsuming_append (m : Method) (hother : ∀ queue tag quiet, m ≠ .consume queue tag quiet) :
    ({ s with sent := s.sent ++ [m] } : Session τ ω).isConsuming = s.isConsuming := by
  rw [isConsuming, isConsuming, List.any_append]
  cases m with
  | consume queue tag quiet => exact absurd rfl (hother queue tag quiet)
  | _ => exact Bool.or_false _

theorem regular_made {c : QueueConfig} (hsent : d.sent = setupMethods c) :
    (made c.queue d world : Session τ ω).Regular where
  phased := phased_made c.queue d world
  parted := ⟨[], [], rfl, rfl⟩
  sound := nofun
  barren _ := by
    refine ⟨⟨rfl, rfl, rfl⟩, ?_, rfl, rfl⟩
    simp [made, isConsuming, hsent, setupMethods]

/-- A subscription that has not called the server had not done so before. -/
theorem Moves.barren (hmove : Moves setup s label t) (h : s.Regular) (hunattached : t.Unattached) :
    t.Barren := by
  have hphase := h.phased.phase
  have hframe (hs : s.Unattached) (hpool : t.pool = s.pool)
      (hconsuming : t.isConsuming = s.isConsuming) (hdelivered : t.delivered = s.delivered)
      (harrived : t.arrived = s.arrived) : t.Barren := by
    obtain ⟨hidle, hnone, hzero, hempty⟩ := h.barren hs
    refine ⟨?_, hconsuming.trans hnone, hdelivered.trans hzero, harrived.trans hempty⟩
    rw [Idle, hpool]
    exact hidle
  have hnot {pool : Pool τ ω} {inner : Pool.Label}
      (hpool : Pool.Moves setup.processor s.pool inner pool)
      (hsame : t.attachment = s.attachment) : False := by
    simp only [Unattached, hsame, hphase.running_of_moves hpool] at hunattached
  cases hmove with
  | subscribed hconnected =>
      have hlives := h.phased.lives
      simp only [Lives, hconnected] at hlives
      exact hframe (by simp only [Unattached, hlives]) rfl rfl rfl rfl
  | messageArrived hconsuming | failureArrived hconsuming =>
      simp [(h.barren hunattached).not_consuming] at hconsuming
  | delivered _ _ _ hpool | drained _ hpool | worked hpool | finished hpool
  | acknowledged _ hpool | unacknowledged _ hpool | released hpool => exact (hnot hpool rfl).elim
  | built hbuilding | buildFailed hbuilding =>
      exact hframe (by simp only [Unattached, hbuilding]) rfl rfl rfl rfl
  | attached | called | agreed | launched => simp [Unattached] at hunattached
  | callFailed => exact absurd rfl (hunattached _)
  | joined => simp [Unattached] at hunattached
  | @left result hleaving =>
      refine hframe ?_ rfl rfl rfl rfl
      cases result <;> simp only [Unattached, hleaving] <;> exact hunattached
  | @parting i m rest hfarewell =>
      refine hframe hunattached rfl (isConsuming_append m ?_) rfl rfl
      obtain ⟨rfl, later, hcons, -⟩ := h.phased.tearing.advance hfarewell (by simp)
      obtain ⟨exchanges, parting, hparted⟩ := h.parted
      simp only [Parted, hcons] at hparted
      have hmem : m ∈ closingMethods s.keepsChannel := hparted.suffix.subset (by simp)
      rintro queue tag quiet rfl
      cases hkeeps : s.keepsChannel <;> simp [hkeeps, closingMethods] at hmem
  | _ => exact hframe hunattached rfl rfl rfl rfl

/-- What is left for the calls of `close` to do. -/
theorem Moves.sound (hmove : Moves setup s label t) (h : ∀ f ∈ s.farewells, f.Sound) :
    ∀ f ∈ t.farewells, f.Sound := by
  have hset {i : Nat} {g : Farewell} (hg : g.Sound) : ∀ f ∈ s.farewells.set i g, f.Sound := by
    intro f hf
    rcases List.mem_or_eq_of_mem_set hf with hf | rfl
    · exact h f hf
    · exact hg
  cases hmove with
  | closed | closedAgain =>
      intro f hf
      rcases List.mem_append.1 hf with hf | hf
      · exact h f hf
      · obtain rfl := List.mem_singleton.1 hf
        trivial
  | stopped => exact hset trivial
  | stoppedAlone | waited => exact hset (closingMethods_ne_nil _)
  | parting => exact hset (List.cons_ne_nil _ _)
  | parted _ _ hnext =>
      refine hset ?_
      rcases hnext with ⟨-, rfl⟩ | ⟨hrest, rfl⟩
      · trivial
      · exact hrest
  | _ => exact h

theorem Moves.regular (hmove : Moves setup s label t) (h : s.Regular) : t.Regular where
  phased := hmove.phased h.phased
  parted := by
    obtain ⟨exchanges, parting, hparted⟩ := h.parted
    exact ⟨_, _, hmove.keeps_parted h.phased hparted⟩
  sound := hmove.sound h.sound
  barren := hmove.barren h

theorem Reaches.regular {c : QueueConfig} (hsent : d.sent = setupMethods c)
    (run : Reaches setup (made c.queue d world) labels s) : s.Regular :=
  run.invariant (regular_made hsent) fun _ _ _ _ hmove h => hmove.regular h

/-! ## A subscription -/

/-- The workers for which a step calls the factory. -/
def creates (s : Session τ ω) : Label → List Nat
  | .build =>
    match s.attachment with
    | .building workers next => if next < workers then [next] else []
    | _ => []
  | _ => []

/-- The workers for which the factory is called in a run. -/
def created (setup : Setup τ ω) (s : Session τ ω) (labels : List Label) : List Nat :=
  gather (fun a label => a.step setup label) creates s labels

/-- A subscription that passed the check of the lifecycle: what it has come to, and what its session
must be like. -/
structure Attempt (setup : Setup τ ω) (workers : Nat) (s : Session τ ω) : Prop where
  regular : s.Regular
  explained : s.Explained setup workers

theorem Moves.attempt (hmove : Moves setup s label t) (h : s.Attempt setup workers) :
    t.Attempt setup workers :=
  ⟨hmove.regular h.regular, hmove.explained h.regular.phased h.explained⟩

theorem Reaches.attempt (run : Reaches setup s labels t) (h : s.Attempt setup workers) :
    t.Attempt setup workers :=
  run.invariant h fun _ _ _ _ hmove h => hmove.attempt h

/-- A call of `subscribe` on a connected session passes the check of the lifecycle. -/
theorem attempt_of_connected (hregular : s.Regular) (hconnected : s.lifecycle = .connected)
    (hstep : s.step setup (.subscribe workers) = some t) :
    t.Attempt setup workers ∧ t.attachment.asked workers = 0 ∧ t.pool = s.pool := by
  have hpasses := Queue.canBecome_subscribed_iff.2 hconnected
  have hmove := moves_of_step hstep
  simp only [step, subscribe, if_pos hpasses, Except.toOption, Option.getD_some,
    Option.some.injEq] at hstep
  refine ⟨⟨hmove.regular hregular, explained_subscribe (s := s) hregular.phased ?_⟩, ?_⟩
  · rw [subscribe, if_pos hpasses, hstep]
  · subst hstep
    refine ⟨?_, rfl⟩
    show Attachment.asked workers (if workers = 0 then _ else _) = 0
    split <;> rfl

/-- The factory is called for one worker after the other. -/
theorem Attempt.asked_step (h : s.Attempt setup workers) (hmove : Moves setup s label t) :
    List.range (t.attachment.asked workers) =
      List.range (s.attachment.asked workers) ++ s.creates label := by
  have hexplained := h.explained
  have hquiet (hnone : s.creates label = [])
      (hsame : t.attachment.asked workers = s.attachment.asked workers) :
      List.range (t.attachment.asked workers) =
        List.range (s.attachment.asked workers) ++ s.creates label := by
    rw [hnone, hsame, List.append_nil]
  cases hmove with
  | subscribed hconnected =>
      have hlives := h.regular.phased.lives
      simp only [Lives, hconnected] at hlives
      simp only [Explained, hlives] at hexplained
  | built hbuilding hnext | buildFailed hbuilding hnext =>
      simp only [creates, hbuilding, if_pos hnext]
      exact List.range_succ
  | @attached count next hbuilding hnext =>
      simp only [Explained, hbuilding] at hexplained
      obtain ⟨rfl, -, hle, -⟩ := hexplained
      refine hquiet rfl ?_
      rw [hbuilding]
      exact Nat.le_antisymm hnext hle
  | called hpresent | agreed hpresent | launched hpresent | callFailed hpresent | joined hpresent
  | left hpresent =>
      refine hquiet rfl ?_
      rw [hpresent]
      rfl
  | _ => exact hquiet rfl rfl

/-- In a run the factory is called for the first workers, in their order. -/
theorem Attempt.range_asked (h : s.Attempt setup workers) (run : Reaches setup s labels t) :
    List.range (t.attachment.asked workers) =
      List.range (s.attachment.asked workers) ++ s.created setup labels :=
  (seen_eq_append_gather (P := Attempt setup workers)
    (fun hstep h => ⟨(moves_of_step hstep).attempt h, h.asked_step (moves_of_step hstep)⟩)
    (reaches_iff_foldlM.1 run) h).2

/-- What a subscription that is about to return or has returned says. -/
theorem Attempt.canReturn (h : s.Attempt setup workers) {result : Except BrokerError Unit}
    (hended : s.attachment = .leaving result ∨ s.attachment = .returned result) :
    CanReturn setup true workers result := by
  have hexplained := h.explained
  cases result with
  | ok =>
      rcases hended with hended | hended <;> simp only [Explained, hended] at hexplained <;>
        exact ⟨hexplained.2.1, hexplained.2.2.2⟩
  | error cause =>
      have hcause : Fails setup workers cause ∨ ∃ reason, cause = .session reason ∧ 0 < workers ∧
          s.built = workers ∧ ∀ i < workers, setup.factory i = .ok () := by
        rcases hended with hended | hended <;> simpa only [Explained, hended] using hexplained
      rcases hcause with hfails | ⟨reason, heq, hpos, -, hbuilt⟩
      · exact .inl hfails
      · exact .inr ⟨reason, rfl, heq, hpos, hbuilt⟩

/-- A subscription that fails for want of processors has not called the server. -/
theorem ne_session_of_fails (h : Fails setup workers cause) (reason : SessionError) :
    cause ≠ .session reason := by
  rintro rfl
  cases h

/-- Nothing was consumed, or all processors are built. -/
theorem Attempt.barren_or_built (h : s.Attempt setup workers) :
    s.Barren ∨ s.attachment.asked workers = workers ∧
      ∀ i < workers, setup.factory i = .ok () := by
  have hexplained := h.explained
  have hbarren := h.regular.barren
  unfold Unattached at hbarren
  unfold Explained at hexplained
  split at hexplained <;> rename_i hattachment <;> simp only [hattachment] at hbarren ⊢
  · exact hexplained.elim
  · exact .inl (hbarren trivial)
  · exact .inr ⟨rfl, hexplained.2.2.2⟩
  · exact .inr ⟨rfl, hexplained.2.2.2⟩
  · exact .inr ⟨rfl, hexplained.2.2.2⟩
  · exact .inr ⟨rfl, hexplained.2.2.2⟩
  · rcases hexplained with hfails | ⟨reason, rfl, -, -, hbuilt⟩
    · exact .inl (hbarren (ne_session_of_fails hfails))
    · exact .inr ⟨rfl, hbuilt⟩
  · rcases hexplained with hfails | ⟨reason, rfl, -, -, hbuilt⟩
    · exact .inl (hbarren (ne_session_of_fails hfails))
    · exact .inr ⟨rfl, hbuilt⟩

/-- What a subscription has asked of its factory by now. -/
theorem Attempt.factoryCalls (h : s.Attempt setup workers) :
    FactoryCalls setup workers (List.range (s.attachment.asked workers)) s.Barren
      fun result => s.attachment = .returned result := by
  have hfar : s.attachment.asked workers ≤ workers ∧
      ∀ i, i + 1 < s.attachment.asked workers → setup.factory i = .ok () := by
    have hexplained := h.explained
    cases hattachment : s.attachment with
    | absent => simp only [Explained, hattachment] at hexplained
    | building count next =>
        simp only [Explained, hattachment] at hexplained
        obtain ⟨rfl, -, hle, -, hbefore⟩ := hexplained
        exact ⟨hle, fun i hi => hbefore i (Nat.lt_of_succ_lt hi)⟩
    | calling | running =>
        simp only [Explained, hattachment] at hexplained
        exact ⟨Nat.le_refl _, fun i hi => hexplained.2.2.2 i (Nat.lt_of_succ_lt hi)⟩
    | leaving result =>
        have hcan := h.canReturn (.inl hattachment)
        exact ⟨hcan.asked_le, fun i hi => hcan.succeeded hi⟩
    | returned result =>
        have hcan := h.canReturn (.inr hattachment)
        exact ⟨hcan.asked_le, fun i hi => hcan.succeeded hi⟩
  have hresult (result : Except BrokerError Unit) (hreturned : s.attachment = .returned result) :
      s.attachment.asked workers = Broker.asked workers result ∧
        CanReturn setup true workers result :=
    ⟨by rw [hreturned]; rfl, h.canReturn (.inr hreturned)⟩
  exact factoryCalls_of_range hfar.1 hfar.2 h.barren_or_built hresult

/-! ## A subscription that fails -/

/-- A subscription that is bound to fail builds processors, or it has failed. -/
theorem Attempt.failing (h : s.Attempt setup workers) (hfails : Fails setup workers cause) :
    (∃ next, s.attachment = .building workers next ∧ next < asked workers (.error cause)) ∨
      s.attachment = .leaving (.error cause) ∨ s.attachment = .returned (.error cause) := by
  have hexplained := h.explained
  unfold Explained at hexplained
  split at hexplained <;> rename_i hattachment
  · exact hexplained.elim
  · obtain ⟨rfl, hpos, -, -, hbefore⟩ := hexplained
    exact .inl ⟨_, hattachment, hfails.lt_asked hpos hbefore⟩
  · exact (hfails.not_built hexplained.2.1 hexplained.2.2.2).elim
  · exact (hfails.not_built hexplained.2.1 hexplained.2.2.2).elim
  · exact (hfails.not_built hexplained.2.1 hexplained.2.2.2).elim
  · exact (hfails.not_built hexplained.2.1 hexplained.2.2.2).elim
  · rcases hexplained with hsame | ⟨-, -, hpos, -, hbuilt⟩
    · rw [hsame.unique hfails] at hattachment
      exact .inr (.inl hattachment)
    · exact (hfails.not_built hpos hbuilt).elim
  · rcases hexplained with hsame | ⟨-, -, hpos, -, hbuilt⟩
    · rw [hsame.unique hfails] at hattachment
      exact .inr (.inr hattachment)
    · exact (hfails.not_built hpos hbuilt).elim

theorem Attempt.barren (h : s.Attempt setup workers) (hfails : Fails setup workers cause) :
    s.Barren := by
  refine h.regular.barren ?_
  rcases h.failing hfails with ⟨next, hattachment, -⟩ | hattachment | hattachment <;>
    simp only [Unattached, hattachment] <;> exact ne_session_of_fails hfails

/-- While a subscription is bound to fail, no step starts or moves a worker. -/
theorem Attempt.spares (h : s.Attempt setup workers) (hfails : Fails setup workers cause)
    (hmove : Moves setup s label t) : t.pool = s.pool := by
  have hnone := (h.barren hfails).idle.1
  cases hmove with
  | delivered _ _ _ hpool | drained _ hpool | worked hpool | finished hpool | acknowledged _ hpool
  | unacknowledged _ hpool | released hpool => exact absurd hnone hpool.workers_ne_nil
  | launched hcalling =>
      rcases h.failing hfails with ⟨next, hother, -⟩ | hother | hother <;>
        rw [hcalling] at hother <;> cases hother
  | _ => rfl

theorem Attempt.pool_eq (h : s.Attempt setup workers) (hfails : Fails setup workers cause)
    (run : Reaches setup s labels t) : t.pool = s.pool := by
  induction run with
  | refl => rfl
  | step run move ih => exact ((run.attempt h).spares hfails (moves_of_step move)).trans ih

/-- A subscription that is bound to fail can go on until it has returned. -/
theorem Attempt.goes_on (h : s.Attempt setup workers) (hfails : Fails setup workers cause)
    (hbusy : s.attachment ≠ .returned (.error cause)) :
    ∃ label t, (label = .build ∨ label = .leave) ∧ s.step setup label = some t ∧
      t.Attempt setup workers ∧ t.attachment.untilFailed (asked workers (.error cause)) <
        s.attachment.untilFailed (asked workers (.error cause)) := by
  rcases h.failing hfails with ⟨next, hbuilding, hlt⟩ | hleaving | hreturned
  · obtain ⟨t, hstep, hcloser⟩ : ∃ t, s.step setup .build = some t ∧
        t.attachment.untilFailed (asked workers (.error cause)) <
          s.attachment.untilFailed (asked workers (.error cause)) := by
      have hnext : next < workers := Nat.lt_of_lt_of_le hlt hfails.asked_le
      simp only [step, attachmentStep, hbuilding, if_pos hnext]
      cases setup.factory next with
      | ok | error =>
          refine ⟨_, rfl, ?_⟩
          simp only [Attachment.untilFailed]
          omega
    exact ⟨.build, t, .inl rfl, hstep, (moves_of_step hstep).attempt h, hcloser⟩
  · have hstep : s.step setup .leave = some
        { s with drained := true, attachment := .returned (.error cause) } := by
      simp only [step, attachmentStep, hleaving]
    refine ⟨.leave, _, .inr rfl, hstep, (moves_of_step hstep).attempt h, ?_⟩
    rw [hleaving]
    exact Nat.zero_lt_one
  · exact absurd hreturned hbusy

/-- A subscription that fails returns by steps of its own: further calls of the factory and its
return. -/
theorem Attempt.returns (h : s.Attempt setup workers) (hfails : Fails setup workers cause) :
    ∃ rest t, (∀ label ∈ rest, label = .build ∨ label = .leave) ∧
      rest.length + s.attachment.asked workers ≤ asked workers (.error cause) + 1 ∧
      Reaches setup s rest t ∧ t.attachment = .returned (.error cause) := by
  have hcloser (a : Session τ ω) (n : Nat) (ha : a.Attempt setup workers ∧
      a.attachment.untilFailed (asked workers (.error cause)) = n)
      (hbusy : a.attachment ≠ .returned (.error cause)) :
      ∃ label b m, (label = .build ∨ label = .leave) ∧ a.step setup label = some b ∧
        (b.Attempt setup workers ∧
          b.attachment.untilFailed (asked workers (.error cause)) = m) ∧ m < n := by
    obtain ⟨hattempt, rfl⟩ := ha
    obtain ⟨label, b, hown, hstep, hb, hlt⟩ := hattempt.goes_on hfails hbusy
    exact ⟨label, b, _, hown, hstep, ⟨hb, rfl⟩, hlt⟩
  obtain ⟨rest, t, hown, hlength, hrun, hreturned⟩ := exists_run_of_closer _ hcloser ⟨h, rfl⟩
  refine ⟨rest, t, hown, ?_, reaches_iff_foldlM.2 hrun, hreturned⟩
  rcases h.failing hfails with ⟨next, hattachment, hlt⟩ | hattachment | hattachment <;>
    simp only [hattachment, Attachment.untilFailed, Attachment.asked] at hlength ⊢ <;> omega

/-! ## Calls of `close` -/

/-- A step that belongs to a call of `close`: its own, or the server's answer to it. -/
def Label.IsPart (answers : Method → Except SessionError Unit) (i : Nat) (label : Label) : Prop :=
  label = .proceed i ∨ label = .part i .send ∨ ∃ m, label = .part i (.answer (answers m))

/-- A step of the calls that end a session is a step of the session. -/
theorem step_part (setup : Setup τ ω) {i : Nat} {calls : Calls} {exchange : Exchange} {p : Progress}
    (hfarewell : s.farewells[i]? = some (.calling calls)) (hstep : calls.step exchange = some p) :
    ∃ t, s.step setup (.part i exchange) = some t ∧ t.drained = s.drained ∧
      t.farewells[i]? = some (if p.calls.methods = [] then .returned else .calling p.calls) := by
  have hi : i < s.farewells.length := (List.getElem?_eq_some_iff.1 hfarewell).1
  simp only [step, farewellStep, hfarewell, hstep, Option.map_some]
  refine ⟨_, rfl, ?_⟩
  by_cases hlast : p.calls.methods = [] <;> simp only [hlast, if_true, if_false] <;> split <;>
    exact ⟨rfl, List.getElem?_set_self hi⟩

/-- When the workers have drained, a call of `close` waits for nobody but the server, whatever that
answers. -/
theorem proceeds_of_drained (answers : Method → Except SessionError Unit)
    (hdrained : s.drained = true) {i : Nat} {f : Farewell} (hfarewell : s.farewells[i]? = some f)
    (hsound : f.Sound) (hbusy : f ≠ .returned) :
    ∃ label t g, label.IsPart answers i ∧ s.step setup label = some t ∧ t.drained = true ∧
      t.farewells[i]? = some g ∧ g.Sound ∧ g.ahead < f.ahead := by
  have hi : i < s.farewells.length := (List.getElem?_eq_some_iff.1 hfarewell).1
  have hset (g : Farewell) : (s.farewells.set i g)[i]? = some g := List.getElem?_set_self hi
  have hclosing : (Farewell.calling (.of (closingMethods s.keepsChannel))).ahead < 5 := by
    have hle := length_closingMethods_le s.keepsChannel
    simp only [Farewell.ahead, Calls.of]
    omega
  cases f with
  | stopping waits =>
      cases waits with
      | true =>
          refine ⟨.proceed i, { s.setFarewell i .waiting with stopped := true }, .waiting, .inl rfl,
            ?_, hdrained, hset _, trivial, by decide⟩
          simp only [step, farewellStep, hfarewell]
      | false =>
          refine ⟨.proceed i, { s.beginClosing i with stopped := true }, _, .inl rfl, ?_, hdrained,
            hset _, closingMethods_ne_nil _, hclosing.trans (by decide)⟩
          simp only [step, farewellStep, hfarewell]
  | waiting =>
      refine ⟨.proceed i, s.beginClosing i, _, .inl rfl, ?_, hdrained, hset _,
        closingMethods_ne_nil _, hclosing⟩
      simp only [step, farewellStep, hfarewell, hdrained, if_true]
  | calling calls =>
      obtain ⟨methods, sent⟩ := calls
      cases methods with
      | nil => exact absurd rfl hsound
      | cons m rest =>
          cases sent with
          | false =>
              have hcalls : (⟨m :: rest, false⟩ : Calls).step .send =
                  some ⟨⟨m :: rest, true⟩, some m, none⟩ := rfl
              obtain ⟨t, hstep, ht, hnext⟩ := step_part setup hfarewell hcalls
              refine ⟨.part i .send, t, _, .inr (.inl rfl), hstep, ht.trans hdrained, hnext, ?_, ?_⟩
              · exact List.cons_ne_nil m rest
              · show 2 * (rest.length + 1) - 1 < 2 * (rest.length + 1) - 0
                omega
          | true =>
              have hcalls : (⟨m :: rest, true⟩ : Calls).step (.answer (answers m)) =
                  some ⟨.of rest, none, some (m, answers m)⟩ := rfl
              obtain ⟨t, hstep, ht, hnext⟩ := step_part setup hfarewell hcalls
              refine ⟨.part i (.answer (answers m)), t, _, .inr (.inr ⟨m, rfl⟩), hstep,
                ht.trans hdrained, hnext, ?_, ?_⟩
              · split
                · trivial
                · assumption
              · cases rest <;> simp [Farewell.ahead, Calls.of]
                omega
  | returned => exact absurd rfl hbusy

/-- When the workers have drained, a call of `close` returns by steps of its own and the server's
answers, whatever they are. -/
theorem close_returns (setup : Setup τ ω) (answers : Method → Except SessionError Unit)
    (hdrained : s.drained = true) {i : Nat} {f : Farewell} (hfarewell : s.farewells[i]? = some f)
    (hsound : f.Sound) :
    ∃ rest t, (∀ label ∈ rest, label.IsPart answers i) ∧ rest.length ≤ f.ahead ∧
      Reaches setup s rest t ∧ t.farewells[i]? = some .returned := by
  have hcloser (a : Session τ ω) (n : Nat)
      (ha : a.drained = true ∧ ∃ f, a.farewells[i]? = some f ∧ f.Sound ∧ f.ahead = n)
      (hbusy : a.farewells[i]? ≠ some .returned) :
      ∃ label b m, Label.IsPart answers i label ∧ a.step setup label = some b ∧
        (b.drained = true ∧ ∃ f, b.farewells[i]? = some f ∧ f.Sound ∧ f.ahead = m) ∧ m < n := by
    obtain ⟨ha, f, hf, hfsound, rfl⟩ := ha
    obtain ⟨label, b, g, hpart, hstep, hb, hg, hgsound, hlt⟩ :=
      proceeds_of_drained answers ha hf hfsound fun hdone => hbusy (hdone ▸ hf)
    exact ⟨label, b, _, hpart, hstep, ⟨hb, g, hg, hgsound, rfl⟩, hlt⟩
  obtain ⟨rest, t, hparts, hlength, hrun, hreturned⟩ :=
    exists_run_of_closer _ hcloser ⟨hdrained, f, hfarewell, hsound, rfl⟩
  exact ⟨rest, t, hparts, hlength, reaches_iff_foldlM.2 hrun, hreturned⟩

theorem Regular.ahead_le (h : s.Regular) {i : Nat} {f : Farewell}
    (hfarewell : s.farewells[i]? = some f) : f.ahead ≤ 6 := by
  cases f with
  | stopping | waiting | returned => simp [Farewell.ahead]
  | calling calls =>
      obtain ⟨exchanges, parting, hparted⟩ := h.parted
      obtain ⟨-, later, hcons, -⟩ := h.phased.tearing.advance hfarewell nofun
      simp only [Parted, hcons] at hparted
      have hlength := hparted.suffix.length_le.trans (length_closingMethods_le _)
      simp only [Farewell.ahead]
      omega

/-! ## All together -/

/-- How a call of `subscribe` for so many workers goes on from `s`, in a run of these steps to `t`:
the factory comes first; if it fails, no consumer is started and the call returns by itself; and when
it has returned, a call of `close` waits for nobody but the server, whenever it was made. -/
structure BuildsFirst (setup : Setup τ ω) (workers : Nat) (s : Session τ ω) (labels : List Label)
    (t : Session τ ω) : Prop where
  factory : FactoryCalls setup workers (s.created setup labels) t.Barren
    fun result => t.attachment = .returned result
  spared : workers = 0 ∨ setup.FailsBelow workers → t.Barren ∧ t.pool = s.pool
  returns : ∀ cause, Fails setup workers cause → ∃ rest u,
    (∀ label ∈ rest, label = .build ∨ label = .leave) ∧
      rest.length + (s.created setup labels).length ≤ asked workers (.error cause) + 1 ∧
      Reaches setup t rest u ∧ u.attachment = .returned (.error cause)
  closes : ∀ result, t.attachment = .returned result → ∀ answers, ∀ i < t.farewells.length,
    ∃ rest u, (∀ label ∈ rest, label.IsPart answers i) ∧ rest.length ≤ 6 ∧
      Reaches setup t rest u ∧ u.farewells[i]? = some .returned

/-- A run starts with its first step. -/
theorem reaches_cons_iff : Reaches setup s (label :: labels) u ↔
    ∃ t, s.step setup label = some t ∧ Reaches setup t labels u := by
  simp only [reaches_iff_foldlM, List.foldlM_cons]
  exact Option.bind_eq_some_iff

/-- A call of `subscribe` on a connected session, whatever else goes on. -/
theorem Reaches.buildsFirst {c : QueueConfig} (hsent : d.sent = setupMethods c)
    (opening : Reaches setup (made c.queue d world) before s) (hconnected : s.lifecycle = .connected)
    (run : Reaches setup s (.subscribe workers :: after) t) :
    BuildsFirst setup workers s (.subscribe workers :: after) t := by
  obtain ⟨r, hsubscribe, rest⟩ := reaches_cons_iff.1 run
  obtain ⟨hr, hasked, hpool⟩ :=
    attempt_of_connected (opening.regular hsent) hconnected hsubscribe
  have ht := rest.attempt hr
  have hcreated : s.created setup (.subscribe workers :: after) =
      List.range (t.attachment.asked workers) := by
    rw [hr.range_asked rest, hasked]
    simp [created, gather, creates, hsubscribe]
  refine {
    factory := hcreated ▸ ht.factoryCalls
    spared := fun hbound => ?_
    returns := fun cause hfails => ?_
    closes := fun result hreturned answers i hi => ?_ }
  · obtain ⟨cause, hfails⟩ := exists_fails_iff.2 hbound
    exact ⟨ht.barren hfails, (hr.pool_eq hfails rest).trans hpool⟩
  · rw [hcreated, List.length_range]
    exact ht.returns hfails
  · have hdrained : t.drained = true := by
      have hphase := ht.regular.phased.phase
      simp only [InPhase, hreturned] at hphase
      cases result <;> exact hphase.2
    have hfarewell := List.getElem?_eq_getElem hi
    obtain ⟨rest, u, hparts, hle, hruns, hclosed⟩ := close_returns setup answers hdrained
      hfarewell (ht.regular.sound _ (List.getElem_mem hi))
    exact ⟨rest, u, hparts, hle.trans (ht.regular.ahead_le hfarewell), hruns, hclosed⟩

end Session

/-- A subscription whose factory fails consumes nothing, on a broker in memory and in a session alike.
Whatever goes on besides a call of `subscribe` that finds its broker connected, the factory is called
for one worker after the other, before anything is taken, and not beyond its first failure. The
result says that there are no workers if and only if there are none, and names the first worker for
which the factory fails if and only if it fails for one. In both cases nothing was taken, counted or
processed, and the subscription returns; when it has, every call of `close` returns too. -/
theorem builds_first (setup : Setup τ ω) (workers : Nat) :
    (∀ (world : ω) (before after : List Queue.Label) (p q : Queue τ ω),
      Queue.Reaches setup (.new world) before p → p.lifecycle = .connected →
      Queue.Reaches setup p (.subscribe workers :: after) q →
      Queue.BuildsFirst setup workers p (.subscribe workers :: after) q) ∧
    ∀ (c : QueueConfig) (exchanges : List Exchange) (d : Dialing) (world : ω)
      (before after : List Session.Label) (s t : Session τ ω),
      exchanges.foldlM Dialing.step (.start c) = some d → d.result? = some (.ok ()) →
      Session.Reaches setup (.made c.queue d world) before s → s.lifecycle = .connected →
      Session.Reaches setup s (.subscribe workers :: after) t →
      Session.BuildsFirst setup workers s (.subscribe workers :: after) t := by
  refine ⟨fun world before after p q opening hconnected run => opening.buildsFirst hconnected run,
    fun c exchanges d world before after s t dialed hmade opening hconnected run => ?_⟩
  exact opening.buildsFirst ((Dialing.spoken dialed).eq_of_ok hmade) hconnected run

/-- Subscriptions with three workers whose factory fails for the second, on a broker with one message
and in a session, each closed while the factory is being called. -/
theorem builds_first_failing :
    ∃ (setup : Setup Bool Nat) (p q : Queue Bool Nat) (s t : Session Bool Nat)
      (after : List Queue.Label) (later : List Session.Label),
      p.waiting = [⟨0, [1]⟩] ∧ p.created setup (.subscribe 3 :: after) = [0, 1] ∧
      q.subscription = .returned (.error (.factory 1 "exhausted")) ∧ q.closings = [.stopping true] ∧
      Queue.BuildsFirst setup 3 p (.subscribe 3 :: after) q ∧
      t.attachment = .returned (.error (.factory 1 "exhausted")) ∧ t.farewells = [.stopping true] ∧
      Session.BuildsFirst setup 3 s (.subscribe 3 :: later) t := by
  let c : QueueConfig := ⟨"amqp://localhost", "parts", "jobs", 2⟩
  let setup : Setup Bool Nat :=
    ⟨2, .failing, fun i => if i = 1 then .error "exhausted" else .ok ()⟩
  let exchanges : List Exchange := [.send, .answer (.ok ()), .send, .answer (.ok ()), .send,
    .answer (.ok ()), .send, .answer (.ok ()), .send, .answer (.ok ())]
  let after : List Queue.Label := [.build, .close, .proceed 0, .build, .leave]
  let later : List Session.Label := [.build, .close, .build, .leave]
  obtain ⟨hqueue, hsession⟩ := builds_first setup 3
  obtain ⟨p, q, opening, hconnected, run, hwaiting, hcreated, hreturned, hclosings⟩ :
      ∃ p q, Queue.Reaches setup (.new 0) [.publish [1]] p ∧ p.lifecycle = .connected ∧
        Queue.Reaches setup p (.subscribe 3 :: after) q ∧ p.waiting = [⟨0, [1]⟩] ∧
        p.created setup (.subscribe 3 :: after) = [0, 1] ∧
        q.subscription = .returned (.error (.factory 1 "exhausted")) ∧
        q.closings = [.stopping true] :=
    ⟨_, _, Queue.reaches_of_foldlM rfl, rfl, Queue.reaches_of_foldlM rfl, rfl, rfl, rfl, rfl⟩
  let d : Dialing := ⟨.of [], setupMethods c, none⟩
  obtain ⟨t, hlater, hattachment, hfarewells⟩ :
      ∃ t, Session.Reaches setup (.made c.queue d 0) (.subscribe 3 :: later) t ∧
        t.attachment = .returned (.error (.factory 1 "exhausted")) ∧
        t.farewells = [.stopping true] :=
    ⟨_, Session.reaches_iff_foldlM.2 rfl, rfl, rfl⟩
  exact ⟨setup, p, q, .made c.queue d 0, t, after, later, hwaiting, hcreated, hreturned, hclosings,
    hqueue 0 _ after p q opening hconnected run, hattachment, hfarewells,
    hsession c exchanges d 0 [] later _ t rfl rfl (.refl _) rfl hlater⟩

end JobLog.Broker
