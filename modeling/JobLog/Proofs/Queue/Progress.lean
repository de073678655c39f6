import JobLog.Proofs.Queue.Termination

/-!
# A broker never gets stuck

A broker that accepts no more messages, or is being closed, can go on until its subscription and all
calls of `close` have returned: `Phased.progress`. The subscription waits for the workers, a worker
for its call or for the stream, the stream for the pump, and the pump for a slot or for a message; a
call of `close` waits for the subscription. No circle arises, since a slot is free whenever the
buffer is empty and no worker has a message.
-/

namespace JobLog.Broker.Queue

variable {τ ω : Type} {setup : Setup τ ω} {q r : Queue τ ω}

/-- No task of a broker can take a step. -/
def Quiet (setup : Setup τ ω) (q : Queue τ ω) : Prop :=
  ∀ label : Label, label.isCall = false → q.step setup label = none

/-- Some task of a broker can take a step. -/
def CanGoOn (setup : Setup τ ω) (q : Queue τ ω) : Prop :=
  ∃ label : Label, label.isCall = false ∧ (q.step setup label).isSome = true

/-- No more messages are accepted, or somebody has begun to close the broker. -/
def Ending (q : Queue τ ω) : Prop :=
  q.accepting = false ∨ q.closings ≠ []

/-- The subscription, if there is one, and all calls of `close` have returned. -/
def AtRest (q : Queue τ ω) : Prop :=
  (q.subscription = .absent ∨ ∃ result, q.subscription = .returned result) ∧
    ∀ c ∈ q.closings, c = .returned

/-- In a quiet broker every call of `close` has returned or waits. -/
theorem Quiet.closing (h : q.Quiet setup) {c : Closing} (hc : c ∈ q.closings) :
    c = .returned ∨ c = .waiting ∧ q.drained = false := by
  obtain ⟨i, hi⟩ := List.getElem?_of_mem hc
  have hstep : q.closingStep i = none := h (.proceed i) rfl
  cases c with
  | ending | stopping => simp [closingStep, hi] at hstep
  | waiting => exact .inr ⟨rfl, by simpa [closingStep, hi] using hstep⟩
  | returned => exact .inl rfl

/-- In a quiet broker every worker waits for an item or has ended. -/
theorem Quiet.worker (h : q.Quiet setup) {i : Nat} {w : Worker τ}
    (hw : q.pool.workers[i]? = some w) : w = .waiting ∨ ∃ lost, w = .ended lost := by
  have hnone (label : Label) (inner : Pool.Label) (hcall : label.isCall = false)
      (hlabel : q.step setup label = (q.inPool setup inner).map fun r => r) :
      q.pool.step setup.processor inner = none := by
    have hstep := h label hcall
    rw [hlabel] at hstep
    simpa [inPool] using hstep
  cases w with
  | waiting => exact .inl rfl
  | ended lost => exact .inr ⟨lost, rfl⟩
  | busy m task =>
      have hwork := hnone (.work i) (.work i) rfl (by simp [step, workerStep])
      have hfinish := hnone (.finish i) (.finish i) rfl (by simp [step, workerStep])
      simp only [Pool.step, hw] at hwork hfinish
      cases hout : setup.processor.outcome? task with
      | none => simp [hout] at hwork
      | some outcome => cases outcome <;> simp [hout] at hfinish
  | acknowledging m =>
      have hstep : q.step setup (.acknowledge i) = none := h _ rfl
      simp [step, workerStep, inPool, Pool.step, hw] at hstep
  | releasing m lost =>
      have hstep : q.step setup (.release i) = none := h _ rfl
      simp [step, workerStep, inPool, Pool.step, hw] at hstep

/-- In a quiet broker a worker waits only as long as the stream has nothing for it. -/
theorem Quiet.next?_eq_none (h : q.Quiet setup) {i : Nat}
    (hw : q.pool.workers[i]? = some .waiting) : q.next? = none := by
  have hstep : q.workerStep setup (.pull i) = none := h (.pull i) rfl
  cases hnext : q.next? with
  | none => rfl
  | some item =>
      cases item <;> simp [workerStep, hnext, inPool, Pool.step, hw] at hstep

/-- When no worker has a message, no worker occupies a slot. -/
theorem holding_eq_zero {p : Pool τ ω} (h : ∀ {i : Nat} {w : Worker τ}, p.workers[i]? = some w →
    w = .waiting ∨ ∃ lost, w = .ended lost) : p.holding = 0 := by
  refine List.sum_eq_zero fun n hn => ?_
  obtain ⟨w, hw, rfl⟩ := List.mem_map.1 hn
  obtain ⟨i, hi⟩ := List.getElem?_of_mem hw
  obtain rfl | ⟨lost, rfl⟩ := h hi <;> rfl

/-- In a quiet broker that accepts no more messages and whose stream has nothing to give and is not
stopped, the pump would be able to go on. -/
theorem Quiet.not_starved (h : q.Quiet setup) (hbalanced : q.Balanced)
    (hlaunched : q.Launched setup) (haccepting : q.accepting = false) (hnext : q.next? = none) :
    False := by
  obtain ⟨hpresent, -, hbound⟩ := hlaunched
  have hempty : q.buffer = [] ∧ q.pump ≠ .finished := by
    unfold next? at hnext
    split at hnext
    · cases hnext
    · split at hnext
      · cases hnext
      · split at hnext
        · cases hnext
        · exact ⟨‹_›, ‹_›⟩
  cases hpump : q.pump with
  | absent => exact hpresent hpump
  | finished => exact hempty.2 hpump
  | seeking =>
      have hslots := hbalanced.slots
      have hfree : q.pumpStep .takeSlot = none := h .takeSlot rfl
      have hpos := prefetch_pos q.pool.workers.length setup.multiplier
      simp only [held, hpump, Pump.holds, Bool.toNat_false, hempty.1, List.length_nil,
        holding_eq_zero h.worker] at hslots
      simp [pumpStep, hpump] at hfree
      omega
  | holding =>
      have hend : q.pumpStep .endPump = none := h .endPump rfl
      have htake : q.pumpStep .takeMessage = none := h .takeMessage rfl
      cases hwaiting : q.waiting with
      | nil => simp [pumpStep, hpump, hwaiting, haccepting] at hend
      | cons m waiting => simp [pumpStep, hpump, hwaiting] at htake
  | taken m =>
      have hcount : q.pumpStep .countMessage = none := h .countMessage rfl
      simp [pumpStep, hpump] at hcount
  | counted m =>
      have hbuffer : q.pumpStep .bufferMessage = none := h .bufferMessage rfl
      simp only [pumpStep, hpump] at hbuffer
      split at hbuffer <;> cases hbuffer

/-- In a quiet broker that accepts no more messages the subscription has returned. -/
theorem Quiet.subscription (h : q.Quiet setup) (hphase : q.InPhase setup) (hbalanced : q.Balanced)
    (haccepting : q.accepting = false) :
    q.subscription = .absent ∨ ∃ result, q.subscription = .returned result := by
  cases hsubscription : q.subscription with
  | absent => exact .inl rfl
  | returned result => exact .inr ⟨result, rfl⟩
  | building workers next =>
      have hbuild : q.subscriptionStep setup .build = none := h .build rfl
      have hlaunch : q.subscriptionStep setup .launch = none := h .launch rfl
      simp only [subscriptionStep, hsubscription] at hbuild hlaunch
      split at hlaunch
      · rename_i hnext
        rw [if_pos hnext] at hbuild
        split at hbuild <;> cases hbuild
      · cases hlaunch
  | leaving result =>
      have hleave : q.subscriptionStep setup .leave = none := h .leave rfl
      simp [subscriptionStep, hsubscription] at hleave
  | dropping =>
      have hclose : q.subscriptionStep setup .closeBuffer = none := h .closeBuffer rfl
      have hdrop : q.subscriptionStep setup .dropBuffered = none := h .dropBuffered rfl
      have habort : q.subscriptionStep setup .abort = none := h .abort rfl
      simp only [subscriptionStep, hsubscription] at hclose hdrop habort
      cases hbuffering : q.buffering with
      | true => simp [hbuffering] at hclose
      | false =>
          cases hbuffer : q.buffer with
          | nil => simp [hbuffering, hbuffer] at habort
          | cons m buffer => simp [hbuffering, hbuffer] at hdrop
  | running =>
      have hjoin : q.subscriptionStep setup .join = none := h .join rfl
      simp only [InPhase, hsubscription] at hphase
      simp only [subscriptionStep, hsubscription] at hjoin
      split at hjoin
      · cases hjoin
      · rename_i hopen
        -- A worker that has not ended waits, so the stream must have nothing for it.
        obtain ⟨w, hw, hended⟩ := List.all_eq_false.1 (Bool.eq_false_iff.2 hopen)
        obtain ⟨i, hi⟩ := List.getElem?_of_mem hw
        obtain rfl | ⟨lost, rfl⟩ := h.worker hi
        · exact (h.not_starved hbalanced hphase.1 haccepting (h.next?_eq_none hi)).elim
        · exact absurd rfl hended

/-- A broker that is ending is at rest or can go on. -/
theorem Phased.progress (h : q.Phased setup) (hbalanced : q.Balanced) (hend : q.Ending) :
    q.AtRest ∨ q.CanGoOn setup := by
  by_cases hquiet : q.Quiet setup
  · left
    have htearing := h.tearing
    have haccepting : q.accepting = false := by
      unfold Tearing at htearing
      split at htearing
      · rename_i hnil
        exact hend.resolve_right (not_not_intro hnil)
      · rename_i first later hcons
        obtain rfl | ⟨rfl, -⟩ := hquiet.closing (c := first) (by simp [hcons])
        · exact htearing.2.2.1
        · exact htearing.2.2.1
    have hsubscription := hquiet.subscription h.phase hbalanced haccepting
    refine ⟨hsubscription, fun c hc => ?_⟩
    obtain rfl | ⟨rfl, hdrained⟩ := hquiet.closing hc
    · rfl
    · -- A call of `close` waits for a subscription, which has returned and so has drained.
      obtain ⟨i, hi⟩ := List.getElem?_of_mem hc
      obtain ⟨later, hcons, -, -, -⟩ := htearing.advance (d := .waiting) hi nofun
      simp only [Tearing, hcons] at htearing
      obtain ⟨result, hresult⟩ := hsubscription.resolve_left htearing.2.2.2.2
      have hphase := h.phase
      cases result <;> simp [InPhase, hresult, hdrained] at hphase
  · right
    simp only [Quiet, not_forall] at hquiet
    obtain ⟨label, hlabel, hstep⟩ := hquiet
    exact ⟨label, hlabel, Option.isSome_iff_ne_none.2 hstep⟩

theorem Reaches.progress {world : ω} {labels : List Label}
    (run : Reaches setup (new world) labels q) (hend : q.Ending) :
    q.AtRest ∨ q.CanGoOn setup :=
  run.phased.progress run.balanced hend

theorem Moves.ending {label : Label} (hmove : Moves setup q label r) (h : q.Ending) :
    r.Ending := by
  cases hmove with
  | streamEnded | acceptingEnded => exact .inl rfl
  | closed | closedAgain => exact .inr (by simp)
  | stopped hclosing | waited hclosing =>
      refine .inr fun hnil => ?_
      have hempty := (List.set_eq_nil_iff _ _).1 hnil
      simp [hempty] at hclosing
  | launched =>
      unfold launch
      split <;> exact h
  | _ => exact h

/-- A broker that is ending can be brought to rest by its own tasks. -/
theorem Reaches.exists_rest {world : ω} {labels : List Label}
    (run : Reaches setup (new world) labels q) (hend : q.Ending) :
    ∃ rest r, (∀ label ∈ rest, Label.isCall label = false) ∧ Reaches setup q rest r ∧
      r.AtRest := by
  induction q using (closer_wellFounded setup).induction generalizing labels with
  | h q ih =>
      obtain hrest | ⟨label, hlabel, hstep⟩ := run.progress hend
      · exact ⟨[], q, nofun, .refl q, hrest⟩
      · obtain ⟨s, hs⟩ := Option.isSome_iff_exists.1 hstep
        have hmove := moves_of_step hs
        obtain ⟨rest, r, hrest, hruns, hdone⟩ :=
          ih s (hmove.closer hlabel) (run.step hs) (hmove.ending hend)
        refine ⟨label :: rest, r, fun other hother => ?_, reaches_cons_iff.2 ⟨s, hs, hruns⟩, hdone⟩
        rcases List.mem_cons.1 hother with rfl | hother
        · exact hlabel
        · exact hrest other hother

end JobLog.Broker.Queue
