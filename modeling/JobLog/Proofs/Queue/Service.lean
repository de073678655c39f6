import JobLog.Proofs.Queue.Counting

/-!
# One subscription that succeeds

When every call of `subscribe` asks for the same positive number of workers and the factory builds a
processor for each of them, the subscription has that many workers and can only end well: `Serves`.
As long as nobody closes the broker, it also accepts all messages up to the end of the stream and
loses none of them, so that the messages it has accepted are the published bodies with their
numbers: `Reaches.sent_eq`.
-/

namespace JobLog.Broker

/-- The messages that a new queue makes of bodies. -/
def numbered (bodies : List (List UInt8)) : List Message :=
  bodies.mapIdx Message.mk

theorem numbered_concat (bodies : List (List UInt8)) (body : List UInt8) :
    numbered (bodies ++ [body]) = numbered bodies ++ [⟨bodies.length, body⟩] := by
  simp [numbered, List.mapIdx_append]

theorem map_body_numbered (bodies : List (List UInt8)) :
    (numbered bodies).map Message.body = bodies := by
  refine List.ext_getElem? fun i => ?_
  simp [numbered, Function.comp_def]

theorem length_numbered (bodies : List (List UInt8)) : (numbered bodies).length = bodies.length :=
  List.length_mapIdx

namespace Queue

variable {τ ω : Type} {setup : Setup τ ω} {q r : Queue τ ω} {world : ω} {labels : List Label}

/-- Who took and who acknowledged which message agrees in every state that a new broker can reach.
-/
theorem Reaches.ledger (run : Reaches setup (new world) labels q) : q.pool.Ledger := by
  obtain ⟨workers, hruns⟩ := run.runs
  exact hruns.ledger

/-- Every message is taken at most once, only by a worker that has acknowledged all it has taken
before, and acknowledged only by the worker that took it and after the call on it has ended. -/
structure Orderly (q : Queue τ ω) : Prop where
  ledger : q.pool.Ledger
  once : (q.pool.pulled.map Prod.snd).Nodup
  open_call : ∀ {i : Nat} {m : Message} {task : τ}, q.pool.workers[i]? = some (.busy m task) →
    ∀ j, (j, m) ∉ q.pool.acknowledged

/-- Messages are handled in good order in every state that a new broker can reach. -/
theorem Reaches.orderly (run : Reaches setup (new world) labels q) : q.Orderly := by
  have hnodup : ((new world).sent setup labels).Nodup :=
    List.Nodup.of_map Message.index (run.sent_index ▸ List.nodup_range)
  have honce := hnodup.sublist run.flowing.taken.sublist
  exact ⟨run.ledger, honce, fun hbusy => run.ledger.not_acknowledged honce hbusy⟩

/-! ## The subscription -/

/-- The subscription, if there is one, has `workers` workers and has not failed. -/
def Serves (workers : Nat) (q : Queue τ ω) : Prop :=
  match q.subscription with
  | .absent => True
  | .building count _ => count = workers
  | .running | .dropping => q.pool.workers.length = workers
  | .leaving result | .returned result => result = .ok () ∧ q.pool.workers.length = workers

/-- A step that leaves the subscription and the number of workers alone. -/
theorem Serves.of_eq {workers : Nat} (h : q.Serves workers)
    (hsubscription : r.subscription = q.subscription)
    (hworkers : r.pool.workers.length = q.pool.workers.length) : r.Serves workers := by
  simpa only [Serves, hsubscription, hworkers] using h

/-- Where the factory succeeds, no step makes a subscription fail. -/
theorem Moves.serves {workers : Nat} {label : Label} (hmove : Moves setup q label r)
    (hworkers : 0 < workers) (hfactory : ∀ i < workers, setup.factory i = .ok ())
    (hlabel : ∀ count, label = .subscribe count → count = workers) (hphase : q.InPhase setup)
    (h : q.Serves workers) : r.Serves workers := by
  cases hmove with
  | @subscribed count _ =>
      obtain rfl := hlabel count rfl
      simp only [Serves, if_neg (Nat.pos_iff_ne_zero.1 hworkers)]
  | built hbuilding =>
      simp only [Serves, hbuilding] at h
      exact h
  | buildFailed hbuilding hnext herror =>
      simp only [Serves, hbuilding] at h
      obtain rfl := h
      rw [hfactory _ hnext] at herror
      cases herror
  | launched hbuilding =>
      simp only [Serves, hbuilding] at h
      simp only [InPhase, hbuilding] at hphase
      rw [launch, hphase.1.2.1, if_neg (by decide)]
      simp [Serves, Pool.start, h]
  | joined hbefore =>
      simp only [Serves, hbefore] at h
      exact h
  | aborted hbefore =>
      simp only [Serves, hbefore] at h
      exact ⟨rfl, h⟩
  | left hbefore =>
      simp only [Serves, hbefore] at h
      exact h
  | delivered _ _ hpool | drained _ hpool | worked hpool | finished hpool | acknowledged hpool
  | released hpool => exact h.of_eq rfl hpool.length_eq
  | _ => exact h.of_eq rfl rfl

theorem Reaches.serves {workers : Nat} (run : Reaches setup (new world) labels q)
    (hworkers : 0 < workers) (hfactory : ∀ i < workers, setup.factory i = .ok ())
    (hlabels : ∀ count, .subscribe count ∈ labels → count = workers) : q.Serves workers := by
  have hboth : q.Phased setup ∧ q.Serves workers :=
    run.invariant (P := fun q => q.Phased setup ∧ q.Serves workers) ⟨phased_new world, trivial⟩
      fun label hlabel _ _ hmove h =>
        ⟨hmove.phased h.1, hmove.serves hworkers hfactory (fun count hcount =>
          hlabels count (hcount ▸ hlabel)) h.1.phase h.2⟩
  exact hboth.2

/-- Once `subscribe` has been called on a connected broker, the lifecycle has moved on. -/
theorem Reaches.not_connected {count : Nat} (run : Reaches setup (new world) labels q)
    (hlabels : .subscribe count ∈ labels) : q.lifecycle ≠ .connected := by
  induction run with
  | refl => cases hlabels
  | @step a b labels label run move ih =>
      intro hconnected
      have hmove := moves_of_step move
      have hkept (hold : b.lifecycle = a.lifecycle) : a.lifecycle = .connected :=
        hold.symm.trans hconnected
      rcases List.mem_append.1 hlabels with hearlier | hlast
      · cases hmove with
        | subscribed | closed => cases hconnected
        | launched => exact ih hearlier (hkept (launch_lifecycle _))
        | _ => exact ih hearlier (hkept rfl)
      · obtain rfl := List.mem_singleton.1 hlast
        cases hmove with
        | subscribed => cases hconnected
        | refused hother => exact hother hconnected

/-- The prefetch bound is not set yet, or it is that of `workers` workers. -/
theorem Serves.prefetch_eq {workers : Nat} (h : q.Serves workers) (hphase : q.InPhase setup) :
    q.stats.prefetch = 0 ∨ q.stats.prefetch = prefetch workers setup.multiplier := by
  have huntouched (hu : q.Untouched) : q.stats.prefetch = 0 := by
    rw [hu.2.2.2.2.2.2.1]
    rfl
  unfold InPhase at hphase
  unfold Serves at h
  split at hphase <;> simp only [‹q.subscription = _›] at h
  · exact .inl (huntouched hphase.1)
  · exact .inl (huntouched hphase.1)
  · exact .inr (h ▸ hphase.1.2.2)
  · exact .inr (h ▸ hphase.1.2.2)
  · exact .inr (h.2 ▸ hphase.1.2.2)
  · exact .inl (huntouched hphase.1)
  · exact .inr (h.2 ▸ hphase.1.2.2)
  · exact .inl (huntouched hphase.1)

/-- What is in flight occupies slots, and there are at most `bound` of them. -/
structure Limited (bound : Nat) (q : Queue τ ω) : Prop where
  inFlight_le : q.stats.inFlight ≤ q.held
  held_le : q.held ≤ q.stats.prefetch
  maxInFlight_le : q.stats.maxInFlight ≤ q.stats.prefetch
  prefetch_eq : q.stats.prefetch = 0 ∨ q.stats.prefetch = bound

/-- As long as no message has been lost, the bound of the subscription is respected. -/
theorem Reaches.limited {workers : Nat} (run : Reaches setup (new world) labels q)
    (hsteady : setup.processor.Steady) (hserves : q.Serves workers) (hintact : q.Intact) :
    q.Limited (prefetch workers setup.multiplier) where
  inFlight_le := (run.counting hsteady).inFlight hintact ▸ outstanding_le_held q
  held_le := run.balanced.slots ▸ Nat.le_add_left _ _
  maxInFlight_le := (run.counting hsteady).bounded hintact
  prefetch_eq := hserves.prefetch_eq run.phased.phase

/-! ## Without a call of `close` -/

/-- A broker knows all calls of `close`. -/
theorem Reaches.closings_length (run : Reaches setup (new world) labels q) :
    q.closings.length = labels.count .close := by
  induction run with
  | refl => rfl
  | @step a b labels label run move ih =>
      cases moves_of_step move with
      | closed | closedAgain => simp [ih]
      | launched =>
          unfold launch
          split <;> simp [ih]
      | _ => simp [ih, endStream, stopPump, setClosing]

theorem Reaches.closings_eq_nil (run : Reaches setup (new world) labels q)
    (hclose : .close ∉ labels) : q.closings = [] :=
  List.length_eq_zero_iff.1 (run.closings_length.trans (List.count_eq_zero.2 hclose))

theorem Reaches.not_stopped (run : Reaches setup (new world) labels q) (hclose : .close ∉ labels) :
    q.stopped = false := by
  have htearing := run.phased.tearing
  simp only [Tearing, run.closings_eq_nil hclose] at htearing
  exact htearing.2

/-- A subscribed broker stays subscribed until somebody closes it. -/
theorem Reaches.subscription_ne_absent {count : Nat} (run : Reaches setup (new world) labels q)
    (hclose : .close ∉ labels) (hlabels : .subscribe count ∈ labels) :
    q.subscription ≠ .absent := by
  have htearing := run.phased.tearing
  have hlives := run.phased.lives
  have hconnected := run.not_connected hlabels
  simp only [Tearing, run.closings_eq_nil hclose] at htearing
  unfold Lives at hlives
  split at hlives
  · exact hlives.elim
  · exact absurd ‹_› hconnected
  · exact hlives
  · exact absurd ‹_› htearing.1

/-- When the workers have ended and none is lost, at least one has found the stream at its end. -/
theorem Launched.ended_mem (h : q.Launched setup) (hwhole : q.pool.Whole)
    (hdone : q.pool.isDone = true) : .ended false ∈ q.pool.workers := by
  obtain ⟨w, hw⟩ := List.exists_mem_of_ne_nil _ h.2.1
  have hended := List.all_eq_true.1 hdone w hw
  have hlost := hwhole w hw
  cases w with
  | ended lost =>
      simp only [Worker.isLost] at hlost
      exact hlost ▸ hw
  | waiting | busy | acknowledging | releasing => simp [Worker.isEnded] at hended

/-- A broker that nobody closes loses no message. -/
theorem InPhase.intact (h : q.InPhase setup) (hwhole : q.pool.Whole) (hgoing : q.stopped = false) :
    q.Intact := by
  have hended (hlaunched : q.Launched setup) (hdone : q.pool.isDone = true) : q.Intact :=
    .inr (.inr ⟨hgoing, hlaunched.ended_mem hwhole hdone⟩)
  unfold InPhase at h
  split at h
  · exact .inr (.inl h.1.pump_eq)
  · exact .inr (.inl h.1.pump_eq)
  · exact .inl h.2.2.1
  · exact hended h.1 h.2.2.1
  · exact hended h.1 h.2.2.1
  · exact .inr (.inl h.1.pump_eq)
  · exact hended h.1 h.2.2.1
  · exact .inr (.inl h.1.pump_eq)

/-- The queue does not begin to accept messages again. -/
theorem Moves.not_accepting {label : Label} (hmove : Moves setup q label r)
    (h : q.accepting = false) : r.accepting = false := by
  cases hmove with
  | streamEnded | acceptingEnded => rfl
  | launched =>
      unfold launch
      split <;> exact h
  | _ => exact h

/-- The pump stops only when no more messages are accepted. -/
theorem Reaches.not_accepting (run : Reaches setup (new world) labels q)
    (hsteady : setup.processor.Steady) (hpump : q.pump = .finished) : q.accepting = false := by
  induction run with
  | refl => cases hpump
  | @step a b labels label run move ih =>
      have hmove := moves_of_step move
      have hstays (hbefore : a.pump = .finished) : b.accepting = false :=
        hmove.not_accepting (ih hbefore)
      by_cases hstopped : a.stopped = true
      · exact hmove.not_accepting (run.phased.tearing.not_accepting hstopped)
      have hintact : a.Intact := run.phased.phase.intact (run.counting hsteady).whole
        (Bool.eq_false_iff.2 hstopped)
      -- A closed buffer means that the stream is at its end, and then the pump has stopped before.
      have hbusy (hopen : a.pump ≠ .finished) (hpresent : a.pump ≠ .absent)
          (hclosed : a.buffering = false) : False := by
        rcases hintact with hbuffering | habsent | ⟨hgoing, hended⟩
        · simp [hclosed] at hbuffering
        · exact hpresent habsent
        · exact hopen (run.flowing.ended hgoing hended).1
      cases hmove with
      | streamEnded | acceptingEnded => rfl
      | slotTaken | messageTaken | messageCounted | messageBuffered => cases hpump
      | messageLost hcounted hbuffering =>
          exact (hbusy (by simp [hcounted]) (by simp [hcounted]) hbuffering).elim
      | pumpEnded _ _ haccepting => exact haccepting
      | pumpCancelled haborted hcancelled =>
          refine (hbusy ?_ ?_ (run.phased.phase.buffering_of_aborted haborted)).elim <;>
            rcases hcancelled with h | h <;> simp [h]
      | launched =>
          revert hpump
          unfold launch
          split
          · exact ih
          · nofun
      | _ => exact hstays hpump

/-- Without a call of `close` messages are accepted until the stream is ended. -/
theorem Reaches.accepting_iff (run : Reaches setup (new world) labels q)
    (hclose : .close ∉ labels) : q.accepting = true ↔ .endStream ∉ labels := by
  induction run with
  | refl => simp [new]
  | @step a b labels label run move ih =>
      have hearlier : .close ∉ labels := fun hmem => hclose (List.mem_append_left _ hmem)
      have hbefore := ih hearlier
      have hnil := run.closings_eq_nil hearlier
      cases moves_of_step move with
      | streamEnded => simp [endStream]
      | acceptingEnded hclosing => simp [hnil] at hclosing
      | launched =>
          unfold launch
          split <;> simpa using hbefore
      | _ => simpa [stopPump, setClosing] using hbefore

/-- The bodies that a schedule publishes before it ends the stream. -/
def offered : List Label → List (List UInt8)
  | [] | .endStream :: _ => []
  | .publish body :: labels => body :: offered labels
  | _ :: labels => offered labels

theorem offered_concat_publish (labels : List Label) (body : List UInt8) :
    offered (labels ++ [.publish body]) =
      if .endStream ∈ labels then offered labels else offered labels ++ [body] := by
  induction labels with
  | nil => rfl
  | cons label labels ih =>
      cases label with
      | publish other =>
          simp only [List.cons_append, offered, ih, List.mem_cons, reduceCtorEq, false_or]
          split <;> rfl
      | endStream => simp [offered]
      | _ => simpa [offered] using ih

theorem offered_concat_of_ne (labels : List Label) {label : Label}
    (hlabel : ∀ body, label ≠ .publish body) : offered (labels ++ [label]) = offered labels := by
  induction labels with
  | nil => cases label <;> first | rfl | exact absurd rfl (hlabel _)
  | cons first labels ih => cases first <;> simp [offered, ih]

/-- Without a call of `close` all bodies published before the end of the stream are accepted. -/
theorem Reaches.sent_eq (run : Reaches setup (new world) labels q)
    (hsteady : setup.processor.Steady) (hclose : .close ∉ labels) :
    (new world).sent setup labels = numbered (offered labels) := by
  induction run with
  | refl => rfl
  | @step a b labels label run move ih =>
      have hearlier : .close ∉ labels := fun hmem => hclose (List.mem_append_left _ hmem)
      have hbefore := ih hearlier
      rw [run.sent_concat, hbefore]
      obtain ⟨body, rfl⟩ | hother :
          (∃ body, label = .publish body) ∨ ∀ body, label ≠ .publish body := by
        cases label <;> simp
      · have hcount : a.published = (offered labels).length := by
          have hlength := congrArg List.length run.sent_index
          simpa [hbefore, length_numbered] using hlength.symm
        have hopen := run.accepting_iff hearlier
        rw [offered_concat_publish]
        by_cases hended : .endStream ∈ labels
        · have hrefused : ¬(a.accepting = true ∧ a.pump ≠ .finished) :=
            fun h => hopen.1 h.1 hended
          rw [if_pos hended, sends, if_neg hrefused, List.append_nil]
        · have haccepting := hopen.2 hended
          have hpump : a.pump ≠ .finished := fun hfinished => by
            simp [run.not_accepting hsteady hfinished] at haccepting
          rw [if_neg hended, sends, if_pos ⟨haccepting, hpump⟩, numbered_concat, hcount]
      · rw [offered_concat_of_ne labels hother, sends, List.append_nil]
        exact hother

end Queue

end JobLog.Broker
