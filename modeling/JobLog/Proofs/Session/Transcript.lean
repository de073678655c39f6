import JobLog.Proofs.Pool.Ledger
import JobLog.Proofs.Session.Phases

/-!
# What a session says

What a session sends to its server comes in parts, one after the other: the methods that declare
what is needed, those that start the consumer, acknowledgments, and those that end the session.
`Session.Spoken` says how far each part has got, given where the calls of `subscribe` and `close`
are, and `Reaches.spoken` that this holds in every state that a session can reach.
-/

namespace JobLog.Broker

/-! ## Calling several methods -/

/-- `Called methods exchanges sent` says that by these exchanges the methods are called one after the
other: each is sent and answered, with whatever result, or turns out not to be sendable. Those in
`sent` were sent. -/
inductive Called : List Method → List Exchange → List Method → Prop where
  | none : Called [] [] []
  | answered {methods sent : List Method} {exchanges : List Exchange} (m : Method)
      (result : Except SessionError Unit) (before : Called methods exchanges sent) :
      Called (methods ++ [m]) (exchanges ++ [.send, .answer result]) (sent ++ [m])
  | refused {methods sent : List Method} {exchanges : List Exchange} (m : Method)
      (cause : SessionError) (before : Called methods exchanges sent) :
      Called (methods ++ [m]) (exchanges ++ [.refuse cause]) sent

/-- `Calling all exchanges sent calls` says that the exchanges have come to `calls` in calling all of
these methods. -/
inductive Calling (all : List Method) : List Exchange → List Method → Calls → Prop where
  | waiting {past sent rest : List Method} {exchanges : List Exchange}
      (before : Called past exchanges sent) (hall : past ++ rest = all) :
      Calling all exchanges sent (.of rest)
  | asking {past sent rest : List Method} {exchanges : List Exchange} {m : Method}
      (before : Called past exchanges sent) (hall : past ++ m :: rest = all) :
      Calling all (exchanges ++ [.send]) (sent ++ [m]) ⟨m :: rest, true⟩

theorem Called.sublist {methods sent : List Method} {exchanges : List Exchange}
    (h : Called methods exchanges sent) : sent.Sublist methods := by
  induction h with
  | none => exact List.Sublist.refl _
  | answered m result before ih => exact ih.append (List.Sublist.refl _)
  | refused m cause before ih => exact ih.trans (List.sublist_append_left _ _)

namespace Calling

variable {all sent rest : List Method} {exchanges : List Exchange} {m : Method} {calls : Calls}

theorem sublist (h : Calling all exchanges sent calls) : sent.Sublist all := by
  cases h with
  | waiting before hall => exact hall ▸ before.sublist.trans (List.sublist_append_left _ _)
  | asking before hall => exact hall ▸ before.sublist.append (List.sublist_append_left [_] _)

theorem suffix (h : Calling all exchanges sent calls) : calls.methods <:+ all := by
  cases h with
  | waiting before hall | asking before hall => exact ⟨_, hall⟩

theorem called (h : Calling all exchanges sent (.of [])) : Called all exchanges sent := by
  cases h with
  | waiting before hall =>
      rw [List.append_nil] at hall
      exact hall ▸ before

theorem send (h : Calling all exchanges sent ⟨m :: rest, false⟩) :
    Calling all (exchanges ++ [.send]) (sent ++ [m]) ⟨m :: rest, true⟩ := by
  cases h with
  | waiting before hall => exact .asking before hall

/-- After an answer or a refusal the next method is called. -/
theorem ended {asked : Bool} {exchange : Exchange}
    (h : Calling all exchanges sent ⟨m :: rest, asked⟩)
    (hexchange : exchange.Ends asked) : Calling all (exchanges ++ [exchange]) sent (.of rest) := by
  cases hexchange with
  | answer result =>
      cases h with
      | asking before hall =>
          rw [List.append_assoc]
          exact .waiting (before.answered m result) (by rw [List.append_assoc]; exact hall)
  | refuse cause =>
      cases h with
      | waiting before hall =>
          exact .waiting (before.refused m cause) (by rw [List.append_assoc]; exact hall)

end Calling

/-! ## Making a session -/

namespace Dialing

variable {c : QueueConfig} {d e : Dialing}

/-- What has been sent and what has not are the methods that are needed; after a failure the rest is
left out. -/
def Spoken (c : QueueConfig) (d : Dialing) : Prop :=
  match d.failure with
  | none => d.sent ++ d.calls.unsent = setupMethods c
  | some _ => d.sent <+: setupMethods c

theorem step_spoken {exchange : Exchange} (h : d.Spoken c) (hstep : d.step exchange = some e) :
    e.Spoken c := by
  unfold step at hstep
  split at hstep
  · cases hstep
  · rename_i hnone
    obtain ⟨p, hcalls, rfl⟩ := Option.map_eq_some_iff.1 hstep
    simp only [Spoken, hnone] at h
    generalize hbefore : d.calls = calls at h hcalls
    cases Calls.moves_of_step hcalls with
    | @sent m rest =>
        show d.sent ++ [m] ++ rest = setupMethods c
        rw [List.append_assoc]
        exact h
    | @answered m rest result =>
        cases result with
        | ok =>
            show d.sent ++ [] ++ rest = setupMethods c
            rw [List.append_nil]
            exact h
        | error cause =>
            show d.sent ++ [] <+: setupMethods c
            rw [List.append_nil]
            exact ⟨rest, h⟩
    | @refused m rest cause =>
        show d.sent ++ [] <+: setupMethods c
        rw [List.append_nil]
        exact ⟨m :: rest, h⟩

/-- While a session is made, the methods are sent in order. -/
theorem spoken {exchanges : List Exchange} (hrun : exchanges.foldlM step (start c) = some d) :
    d.Spoken c := by
  induction exchanges using List.reverseRecOn generalizing d with
  | nil =>
      cases hrun
      rfl
  | append_singleton exchanges exchange ih =>
      rw [List.foldlM_append] at hrun
      obtain ⟨before, hinit, hlast⟩ := Option.bind_eq_some_iff.1 hrun
      exact step_spoken (ih hinit) (by simpa using hlast)

theorem Spoken.isPrefix (h : d.Spoken c) : d.sent <+: setupMethods c := by
  unfold Spoken at h
  split at h
  · exact ⟨_, h⟩
  · exact h

/-- A session that was made has sent them all. -/
theorem Spoken.eq_of_ok (h : d.Spoken c) (hmade : d.result? = some (.ok ())) :
    d.sent = setupMethods c := by
  unfold result? at hmade
  split at hmade
  · cases hmade
  · rename_i hnone hmethods
    have hunsent : d.calls.unsent = [] := by
      rw [Calls.unsent, hmethods]
      split <;> rfl
    simpa only [Spoken, hnone, hunsent, List.append_nil] using h
  · cases hmade

/-- After a failure nothing is done. -/
theorem step_eq_none {cause : BrokerError} (hfailed : d.result? = some (.error cause))
    (exchange : Exchange) : d.step exchange = none := by
  unfold result? at hfailed
  unfold step
  split at hfailed
  · rename_i hfailure
    rw [hfailure]
  · cases hfailed
  · cases hfailed

end Dialing

namespace Session

variable {τ ω : Type} {setup : Setup τ ω} {s t : Session τ ω} {labels : List Label}

/-! ## Acknowledgments -/

/-- The success of an acknowledgment that is tried in a step. -/
def Label.result? : Label → Option (Except SessionError Unit)
  | .acknowledge _ result => some result
  | _ => none

/-- Who tried to acknowledge which message, with what success, in a run that leads to `s`. -/
def attempts (labels : List Label) (s : Session τ ω) :
    List ((Nat × Message) × Except SessionError Unit) :=
  s.pool.acknowledged.zip (labels.filterMap Label.result?)

/-- The method by which a message is acknowledged, if that could be sent. -/
def acknowledgment? : (Nat × Message) × Except SessionError Unit → Option Method
  | ((_, m), .ok _) => some (.acknowledge (m.index + 1) false)
  | (_, .error _) => none

/-- The acknowledgments that were sent in a run that leads to `s`. -/
def acknowledgments (labels : List Label) (s : Session τ ω) : List Method :=
  (s.attempts labels).filterMap acknowledgment?

/-- What a step acknowledges. -/
def settles (s : Session τ ω) : Label → List ((Nat × Message) × Except SessionError Unit)
  | .acknowledge i result =>
    match s.pool.workers[i]? with
    | some (.acknowledging m) => [((i, m), result)]
    | _ => []
  | _ => []

/-- A step adds what it acknowledges. -/
theorem Moves.acknowledged_eq {label : Label} (hmove : Moves setup s label t) (hphase : s.InPhase) :
    t.pool.acknowledged = s.pool.acknowledged ++ (s.settles label).map Prod.fst ∧
      label.result?.toList = (s.settles label).map Prod.snd := by
  cases hmove with
  | delivered _ _ _ hpool | drained _ hpool | worked hpool | finished hpool | released hpool =>
      refine ⟨?_, rfl⟩
      cases hpool <;> exact (List.append_nil _).symm
  | acknowledged hworker hpool | unacknowledged hworker hpool =>
      simp only [settles, hworker]
      cases hpool with
      | acknowledged hdone =>
          obtain ⟨rfl⟩ : Worker.acknowledging _ = Worker.acknowledging _ :=
            Option.some.inj (hworker.symm.trans hdone)
          exact ⟨rfl, rfl⟩
  | launched hcalling =>
      simp only [InPhase, hcalling] at hphase
      refine ⟨?_, rfl⟩
      rw [hphase.1.2.2]
      rfl
  | _ => exact ⟨(List.append_nil _).symm, rfl⟩

/-- Every acknowledgment that is tried is tried for one message. -/
theorem Reaches.acknowledged_length {queue : String} {d : Dialing} {world : ω}
    (run : Reaches setup (made queue d world) labels s) :
    s.pool.acknowledged.length = (labels.filterMap Label.result?).length := by
  induction run with
  | refl => rfl
  | @step a b labels label run move ih =>
      obtain ⟨hacknowledged, hresult⟩ := (moves_of_step move).acknowledged_eq run.phased.phase
      have hlast : [label].filterMap Label.result? = label.result?.toList := by
        cases label <;> rfl
      rw [hacknowledged, List.filterMap_append, hlast, hresult, List.length_append,
        List.length_append, ih, List.length_map, List.length_map]

/-- The attempts of a longer run. -/
theorem attempts_concat {queue : String} {d : Dialing} {world : ω} {label : Label}
    (run : Reaches setup (made queue d world) labels s) (hmove : Moves setup s label t) :
    t.attempts (labels ++ [label]) = s.attempts labels ++ s.settles label := by
  obtain ⟨hacknowledged, hresult⟩ := hmove.acknowledged_eq run.phased.phase
  have hlast : [label].filterMap Label.result? = label.result?.toList := by
    cases label <;> rfl
  rw [attempts, hacknowledged, List.filterMap_append, hlast, hresult,
    List.zip_append run.acknowledged_length, List.zip_map', List.map_id']
  rfl

/-! ## Starting the consumer -/

/-- What a step sends to start the consumer. -/
def opens (s : Session τ ω) : Label → List Method
  | .call .send =>
    match s.attachment with
    | .calling _ calls => calls.unsent.take 1
    | _ => []
  | _ => []

/-- How much of `all`, the methods that start the consumer, has been sent and agreed to. A subscription
that fails before it calls the server has sent none of them. -/
def Opened (all opening : List Method) (s : Session τ ω) : Prop :=
  match s.attachment with
  | .absent | .building .. => opening = []
  | .calling _ calls =>
    opening ++ calls.unsent = all ∧ ∀ m ∈ all, m ∈ calls.methods ∨ m ∈ s.confirmed
  | .running | .leaving (.ok _) | .returned (.ok _) => opening = all ∧ ∀ m ∈ all, m ∈ s.confirmed
  | .leaving (.error e) | .returned (.error e) =>
    opening <+: all ∧ ((∃ cause, e = .session cause) ∨ opening = [])

theorem Opened.isPrefix {all opening : List Method} (h : s.Opened all opening) :
    opening <+: all := by
  unfold Opened at h
  split at h
  · exact h ▸ List.nil_prefix
  · exact h ▸ List.nil_prefix
  · exact ⟨_, h.1⟩
  · exact h.1 ▸ List.prefix_rfl
  · exact h.1 ▸ List.prefix_rfl
  · exact h.1 ▸ List.prefix_rfl
  · exact h.1
  · exact h.1

/-- The server has agreed to all of them before anything is taken from the stream. -/
theorem Opened.agreed {all opening : List Method} (h : s.Opened all opening) (hphase : s.InPhase)
    (hsome : s.pool.pulled ≠ []) : ∀ m ∈ all, m ∈ s.confirmed := by
  unfold Opened at h
  unfold InPhase at hphase
  split at h <;> rename_i hattachment <;> simp only [hattachment] at hphase
  · exact absurd hphase.1.2.1 hsome
  · exact absurd hphase.1.2.1 hsome
  · exact absurd hphase.1.2.1 hsome
  · exact h.2
  · exact h.2
  · exact h.2
  · exact absurd hphase.1.2.1 hsome
  · exact absurd hphase.1.2.1 hsome

/-- None of them is sent before the factory has built all processors. -/
theorem Opened.built {all opening : List Method} {workers : Nat} (h : s.Opened all opening)
    (hexplained : s.attachment = .absent ∨ s.Explained setup workers) (hsome : opening ≠ []) :
    s.built = workers ∧ ∀ i < workers, setup.factory i = .ok () := by
  have hpresent : s.attachment ≠ .absent := by
    intro habsent
    simp only [Opened, habsent] at h
    exact hsome h
  have hexplained := hexplained.resolve_left hpresent
  unfold Opened at h
  unfold Explained at hexplained
  split at h <;> rename_i hattachment <;> simp only [hattachment] at hexplained
  · exact absurd h hsome
  · exact hexplained.2.2
  · exact hexplained.2.2
  · exact hexplained.2.2
  · exact hexplained.2.2
  · obtain ⟨cause, rfl⟩ := h.2.resolve_right hsome
    obtain hfails | ⟨-, -, -, hbuilt⟩ := hexplained
    · cases hfails
    · exact hbuilt
  · obtain ⟨cause, rfl⟩ := h.2.resolve_right hsome
    obtain hfails | ⟨-, -, -, hbuilt⟩ := hexplained
    · cases hfails
    · exact hbuilt

/-- A step that leaves the subscription alone and forgets no agreement of the server. -/
theorem Opened.frame {all opening : List Method} (h : s.Opened all opening)
    (hattachment : t.attachment = s.attachment) (hconfirmed : s.confirmed ⊆ t.confirmed) :
    t.Opened all opening := by
  unfold Opened at h ⊢
  rw [hattachment]
  split at h
  · exact h
  · exact h
  · exact ⟨h.1, fun m hm => (h.2 m hm).imp_right fun hm => hconfirmed hm⟩
  · exact ⟨h.1, fun m hm => hconfirmed (h.2 m hm)⟩
  · exact ⟨h.1, fun m hm => hconfirmed (h.2 m hm)⟩
  · exact ⟨h.1, fun m hm => hconfirmed (h.2 m hm)⟩
  · exact h
  · exact h

/-- With an answer the server agrees to the method that was sent, and the others are still to come. -/
theorem agreed_of_answered {m other : Method} {rest confirmed : List Method}
    (h : other ∈ m :: rest ∨ other ∈ confirmed) : other ∈ rest ∨ other ∈ confirmed ++ [m] := by
  rcases h with hasked | hbefore
  · rcases List.mem_cons.1 hasked with rfl | hlater
    · exact .inr (List.mem_append_right _ (List.mem_singleton_self _))
    · exact .inl hlater
  · exact .inr (List.mem_append_left _ hbefore)

/-- A step sends the methods that start the consumer in order, and the next one only when the server
has agreed to the one before. -/
theorem Moves.keeps_opened {workers : Nat} {opening : List Method} {label : Label}
    (hmove : Moves setup s label t) (hphased : s.Phased)
    (hexplained : s.attachment = .absent ∨ s.Explained setup workers)
    (h : s.Opened (consumerMethods s.queue (prefetch workers setup.multiplier)) opening) :
    t.Opened (consumerMethods t.queue (prefetch workers setup.multiplier))
      (opening ++ s.opens label) := by
  have hpresent (hattachment : s.attachment ≠ .absent) : s.Explained setup workers :=
    hexplained.resolve_left hattachment
  have hsilent {all : List Method} (hnone : s.opens label = []) (ht : t.Opened all opening) :
      t.Opened all (opening ++ s.opens label) := by
    rwa [hnone, List.append_nil]
  cases hmove with
  | @subscribed count hconnected =>
      have hlives := hphased.lives
      simp only [Lives, hconnected] at hlives
      simp only [Opened, hlives] at h
      subst h
      by_cases hzero : count = 0
      · simp only [Opened, if_pos hzero]
        exact ⟨List.nil_prefix, .inr rfl⟩
      · simp only [Opened, if_neg hzero]
        rfl
  | built hbuilding =>
      simp only [Opened, hbuilding] at h
      exact hsilent rfl h
  | buildFailed hbuilding =>
      simp only [Opened, hbuilding] at h
      subst h
      exact ⟨List.nil_prefix, .inr rfl⟩
  | @attached count next hbuilding =>
      simp only [Opened, hbuilding] at h
      subst h
      have hcount := hpresent (by simp [hbuilding])
      simp only [Explained, hbuilding] at hcount
      obtain ⟨rfl, -⟩ := hcount
      exact ⟨rfl, fun m hm => .inl hm⟩
  | @called count m rest hcalling =>
      simp only [Opened, hcalling] at h
      simp only [opens, hcalling]
      refine ⟨?_, h.2⟩
      show opening ++ [m] ++ rest = _
      rw [List.append_assoc]
      exact h.1
  | agreed hcalling =>
      simp only [Opened, hcalling] at h
      exact hsilent rfl ⟨h.1, fun other hother => agreed_of_answered (h.2 other hother)⟩
  | @launched count m events hcalling =>
      simp only [Opened, hcalling] at h
      refine hsilent rfl ⟨?_, fun other hother => ?_⟩
      · rw [← h.1]
        exact (List.append_nil _).symm
      · exact (agreed_of_answered (h.2 other hother)).resolve_left List.not_mem_nil
  | @callFailed count calls exchange cause hcalling hfailed =>
      simp only [Opened, hcalling] at h
      refine hsilent ?_ ⟨⟨_, h.1⟩, .inl ⟨cause, rfl⟩⟩
      rcases hfailed with rfl | rfl <;> rfl
  | joined hrunning =>
      simp only [Opened, hrunning] at h
      exact hsilent rfl h
  | @left result hleaving =>
      refine hsilent rfl ?_
      cases result <;> simp only [Opened, hleaving] at h <;> exact h
  | parted hfarewell _ hnext hconfirmed =>
      refine hsilent rfl (h.frame rfl fun other hother => ?_)
      rcases hconfirmed with rfl | rfl
      · exact hother
      · exact List.mem_append_left _ hother
  | _ => exact hsilent rfl (h.frame rfl fun _ hm => hm)

/-! ## Ending the session -/

/-- What a step sends to end the session. -/
def parts (s : Session τ ω) : Label → List Method
  | .part i .send =>
    match s.farewells[i]? with
    | some (.calling calls) => calls.unsent.take 1
    | _ => []
  | _ => []

/-- The exchange of a step of the methods that end the session. -/
def Label.parting? : Label → Option Exchange
  | .part _ exchange => some exchange
  | _ => none

/-- The exchanges of a run in which the methods are called that end the session. -/
def partings (labels : List Label) : List Exchange :=
  labels.filterMap Label.parting?

theorem partings_concat (labels : List Label) (label : Label) :
    partings (labels ++ [label]) = partings labels ++ label.parting?.toList := by
  have hlast : [label].filterMap Label.parting? = label.parting?.toList := by
    cases label <;> rfl
  rw [partings, List.filterMap_append, hlast, partings]

/-- How far the methods that end the session have been called by these exchanges; `parting` are
those that were sent. -/
def Parted (exchanges : List Exchange) (parting : List Method) (s : Session τ ω) : Prop :=
  match s.farewells with
  | [] | .stopping _ :: _ | .waiting :: _ => exchanges = [] ∧ parting = []
  | .calling calls :: _ => Calling (closingMethods s.keepsChannel) exchanges parting calls
  | .returned :: _ => Called (closingMethods s.keepsChannel) exchanges parting

variable {exchanges : List Exchange} {parting : List Method}

theorem Parted.sublist (h : s.Parted exchanges parting) :
    parting.Sublist (closingMethods s.keepsChannel) := by
  unfold Parted at h
  split at h
  · exact h.2 ▸ List.nil_sublist _
  · exact h.2 ▸ List.nil_sublist _
  · exact h.2 ▸ List.nil_sublist _
  · exact h.sublist
  · exact h.sublist

/-- A first call of `close` that has returned has called them all. -/
theorem Parted.called (h : s.Parted exchanges parting)
    (hreturned : s.farewells.head? = some .returned) :
    Called (closingMethods s.keepsChannel) exchanges parting := by
  obtain ⟨later, hcons⟩ := List.head?_eq_some_iff.1 hreturned
  simpa only [Parted, hcons] using h

/-- A step that leaves the calls of `close` alone and agrees to nothing. -/
theorem Parted.frame (h : s.Parted exchanges parting)
    (hfarewells : t.farewells = s.farewells) (hconfirmed : t.confirmed = s.confirmed) :
    t.Parted exchanges parting := by
  unfold Parted keepsChannel at h ⊢
  rw [hfarewells, hconfirmed]
  exact h

/-- As long as a subscription goes on, no call of `close` has come to closing the channel. -/
theorem Tearing.parted_iff (h : s.Tearing) (hpresent : s.attachment ≠ .absent)
    (hdrained : s.drained = false) :
    s.Parted exchanges parting ↔ exchanges = [] ∧ parting = [] := by
  unfold Tearing at h
  unfold Parted
  split at h
  · rename_i hnil
    rw [hnil]
  · rename_i first later hcons
    obtain ⟨-, -, hfirst⟩ := h
    rw [hcons]
    cases first with
    | stopping | waiting => rfl
    | calling | returned =>
        rw [hfirst.2 hpresent] at hdrained
        cases hdrained

/-- What the methods are that end a session: none of them asks for a bound. -/
theorem not_limit_of_mem_closingMethods {consumer : Bool} {m : Method}
    (hm : m ∈ closingMethods consumer) (count : Nat) : m ≠ .limit count := by
  rintro rfl
  cases consumer <;> simp [closingMethods] at hm

theorem keepsChannel_append {m : Method} (hm : ∀ count, m ≠ .limit count) :
    ({ s with confirmed := s.confirmed ++ [m] } : Session τ ω).keepsChannel = s.keepsChannel := by
  rw [keepsChannel, keepsChannel, List.any_append]
  cases m with
  | limit count => exact absurd rfl (hm count)
  | _ => exact Bool.or_false _

/-- An answer ends one of the calls, whichever it is, and the next method is about to be sent. What is
agreed to does not tell whether there is a channel. -/
theorem Parted.answered {rest confirmed : List Method} {m : Method} {sent : Bool}
    {exchange : Exchange} {next : Farewell} {later : List Farewell} {events : List Event}
    (h : s.Parted exchanges parting)
    (hcons : s.farewells = .calling ⟨m :: rest, sent⟩ :: later) (hexchange : exchange.Ends sent)
    (hnext : rest = [] ∧ next = .returned ∨ rest ≠ [] ∧ next = .calling (.of rest))
    (hconfirmed : confirmed = s.confirmed ∨ confirmed = s.confirmed ++ [m]) :
    ({ s.setFarewell 0 next with confirmed, events } : Session τ ω).Parted
      (exchanges ++ [exchange]) parting := by
  simp only [Parted, hcons] at h
  have hkept : ({ s.setFarewell 0 next with confirmed, events } : Session τ ω).keepsChannel =
      s.keepsChannel := by
    rcases hconfirmed with rfl | rfl
    · rfl
    · exact keepsChannel_append (not_limit_of_mem_closingMethods (h.suffix.subset (by simp)))
  have hrest := h.ended hexchange
  rcases hnext with ⟨rfl, rfl⟩ | ⟨-, rfl⟩
  · simp only [Parted, hkept]
    simp only [setFarewell, hcons, List.set_cons_zero]
    exact hrest.called
  · simp only [Parted, hkept]
    simp only [setFarewell, hcons, List.set_cons_zero]
    exact hrest

/-- A step of a call of `close` calls the methods that end the session in order. -/
theorem Moves.keeps_parted {label : Label} (hmove : Moves setup s label t) (hphased : s.Phased)
    (h : s.Parted exchanges parting) :
    t.Parted (exchanges ++ label.parting?.toList) (parting ++ s.parts label) := by
  have hsilent (hother : label.parting? = none) (hnone : s.parts label = [])
      (ht : t.Parted exchanges parting) :
      t.Parted (exchanges ++ label.parting?.toList) (parting ++ s.parts label) := by
    rw [hother, hnone, List.append_nil]
    exact (List.append_nil exchanges).symm ▸ ht
  have htearing := hphased.tearing
  have hafter := hmove.tearing hphased
  have hphase := hphased.phase
  cases hmove with
  | closed hopen =>
      have hnil := htearing.farewells_eq_nil hopen
      simp only [Parted, hnil] at h
      obtain ⟨rfl, rfl⟩ := h
      simp only [Parted, hnil]
      exact ⟨rfl, rfl⟩
  | closedAgain hclosed =>
      refine hsilent rfl rfl ?_
      unfold Tearing at htearing
      split at htearing
      · exact absurd hclosed htearing.1
      · rename_i first later hcons
        simp only [Parted, hcons] at h
        simp only [Parted, hcons, List.cons_append]
        cases first <;> exact h
  | agreed hcalling | launched hcalling =>
      simp only [InPhase, hcalling] at hphase
      obtain ⟨rfl, rfl⟩ := (htearing.parted_iff (by simp [hcalling]) hphase.2).1 h
      exact (hafter.parted_iff (by simp) hphase.2).2 ⟨rfl, rfl⟩
  | stopped hfarewell =>
      obtain ⟨rfl, later, hcons, -⟩ := htearing.advance hfarewell (by simp)
      simp only [Parted, hcons] at h
      obtain ⟨rfl, rfl⟩ := h
      simp only [Parted, setFarewell, hcons, List.set_cons_zero]
      exact ⟨rfl, rfl⟩
  | stoppedAlone hfarewell | waited hfarewell =>
      obtain ⟨rfl, later, hcons, -⟩ := htearing.advance hfarewell (by simp)
      simp only [Parted, hcons] at h
      obtain ⟨rfl, rfl⟩ := h
      simp only [Parted, beginClosing, setFarewell, hcons, List.set_cons_zero]
      exact .waiting .none rfl
  | @parting _ m rest hfarewell =>
      obtain ⟨rfl, later, hcons, -⟩ := htearing.advance hfarewell (by simp)
      simp only [Parted, hcons] at h
      simp only [parts, hfarewell]
      simp only [Parted, setFarewell, hcons, List.set_cons_zero]
      exact h.send
  | @parted i m rest sent exchange next confirmed events hfarewell hexchange hnext hconfirmed =>
      obtain ⟨rfl, later, hcons, -⟩ := htearing.advance hfarewell (by simp)
      have hnone : s.parts (.part 0 exchange) = [] := by cases hexchange <;> rfl
      rw [hnone, List.append_nil]
      exact h.answered hcons hexchange hnext hconfirmed
  | _ => exact hsilent rfl rfl (h.frame rfl rfl)

/-! ## All that is sent -/

/-- A step sends one of these. -/
theorem Moves.sent_eq {label : Label} (hmove : Moves setup s label t) :
    t.sent = s.sent ++ s.opens label ++ (s.settles label).filterMap acknowledgment? ++
      s.parts label := by
  have hnone : s.sent = s.sent ++ [] ++ List.filterMap acknowledgment? [] ++ [] := by
    rw [List.filterMap_nil, List.append_nil, List.append_nil, List.append_nil]
  cases hmove with
  | called hcalling => simp [opens, settles, parts, hcalling]
  | acknowledged hworker | unacknowledged hworker =>
      simp [opens, settles, parts, hworker, acknowledgment?]
  | parting hfarewell => simp [opens, settles, parts, hfarewell]
  | parted _ hexchange => cases hexchange <;> exact hnone
  | callFailed _ hfailed => rcases hfailed with rfl | rfl <;> exact hnone
  | _ => exact hnone

/-- Before the workers run, nothing is acknowledged. -/
theorem Idle.attempts_eq (h : s.Idle) (labels : List Label) : s.attempts labels = [] := by
  rw [attempts, h.2.2, List.zip_nil_left]

/-- A session that was made by sending `base` has sent, one after the other, `opening` for a
consumer of `workers` workers, acknowledgments, and `parting`. -/
structure Spoken (setup : Setup τ ω) (base : List Method) (workers : Nat) (labels : List Label)
    (opening parting : List Method) (s : Session τ ω) : Prop where
  sent : s.sent = base ++ opening ++ s.acknowledgments labels ++ parting
  opened : s.Opened (consumerMethods s.queue (prefetch workers setup.multiplier)) opening
  parted : s.Parted (partings labels) parting

/-- A step goes on with one of the parts, after which there is no other yet. -/
theorem Moves.spoken {queue : String} {d : Dialing} {world : ω} {base opening parting : List Method}
    {workers : Nat} {label : Label} (run : Reaches setup (made queue d world) labels s)
    (hmove : Moves setup s label t)
    (hexplained : s.attachment = .absent ∨ s.Explained setup workers)
    (h : s.Spoken setup base workers labels opening parting) :
    t.Spoken setup base workers (labels ++ [label]) (opening ++ s.opens label)
      (parting ++ s.parts label) := by
  have hphase := run.phased.phase
  have htearing := run.phased.tearing
  refine ⟨?_, hmove.keeps_opened run.phased hexplained h.opened,
    partings_concat labels label ▸ hmove.keeps_parted run.phased h.parted⟩
  have hopens (hsome : s.opens label ≠ []) : s.attempts labels = [] ∧ parting = [] := by
    cases hmove with
    | called hcalling =>
        simp only [InPhase, hcalling] at hphase
        exact ⟨hphase.1.attempts_eq labels,
          ((htearing.parted_iff (by simp [hcalling]) hphase.2).1 h.parted).2⟩
    | callFailed _ hfailed => rcases hfailed with rfl | rfl <;> exact absurd rfl hsome
    | _ => exact absurd rfl hsome
  have hsettles (hsome : s.settles label ≠ []) : parting = [] := by
    cases hmove with
    | acknowledged _ hpool | unacknowledged _ hpool =>
        have hrunning := hphase.running_of_moves hpool
        simp only [InPhase, hrunning] at hphase
        exact ((htearing.parted_iff (by simp [hrunning]) hphase).1 h.parted).2
    | _ => exact absurd rfl hsome
  rw [hmove.sent_eq, h.sent, acknowledgments, acknowledgments, attempts_concat run hmove,
    List.filterMap_append]
  by_cases ho : s.opens label = []
  · by_cases hk : s.settles label = []
    · simp [ho, hk]
    · simp [ho, hsettles hk]
  · obtain ⟨hattempts, hparting⟩ := hopens ho
    have hnone : s.settles label = [] := by
      cases label with
      | acknowledge => exact absurd rfl ho
      | _ => rfl
    simp [hattempts, hparting, hnone]

/-- A subscription with a known number of workers is explained by it. -/
theorem Reaches.explained {queue : String} {d : Dialing} {world : ω} {workers : Nat}
    (run : Reaches setup (made queue d world) labels s)
    (honly : ∀ count, .subscribe count ∈ labels → count = workers) :
    s.attachment = .absent ∨ s.Explained setup workers := by
  induction run with
  | refl => exact .inl rfl
  | @step a b labels label run move ih =>
      have hmove := moves_of_step move
      rcases ih fun count hmem => honly count (List.mem_append_left _ hmem) with habsent | h
      · cases hmove with
        | @subscribed count hconnected =>
            obtain rfl := honly count (by simp)
            refine .inr (explained_subscribe (s := a) run.phased ?_)
            rw [subscribe, if_pos (Queue.canBecome_subscribed_iff.2 hconnected)]
        | built hpresent | buildFailed hpresent | attached hpresent | called hpresent
        | agreed hpresent | launched hpresent | callFailed hpresent | joined hpresent
        | left hpresent =>
            rw [habsent] at hpresent
            cases hpresent
        | _ => exact .inl habsent
      · exact .inr (hmove.explained run.phased h)

/-- In every state that a session can reach, it has sent the parts that its subscription and its
calls of `close` have come to. -/
theorem Reaches.spoken {queue : String} {d : Dialing} {world : ω} {workers : Nat}
    (run : Reaches setup (made queue d world) labels s)
    (honly : ∀ count, .subscribe count ∈ labels → count = workers) :
    ∃ opening parting, s.Spoken setup d.sent workers labels opening parting := by
  induction run with
  | refl =>
      refine ⟨[], [], ⟨?_, rfl, rfl, rfl⟩⟩
      show d.sent = d.sent ++ [] ++ [] ++ []
      simp
  | @step a b labels label run move ih =>
      have hbefore : ∀ count, .subscribe count ∈ labels → count = workers := fun count hmem =>
        honly count (List.mem_append_left _ hmem)
      obtain ⟨opening, parting, h⟩ := ih hbefore
      exact ⟨_, _, (moves_of_step move).spoken run (run.explained hbefore) h⟩

end Session

end JobLog.Broker
