import JobLog.Proofs.Queue.Phases

/-!
# How a subscription can end

A subscription fails for one of two reasons, a number of workers that is zero or a factory that
fails, and then for the first worker for which it does; otherwise it ends well.
`Queue.Explained` follows a subscription with a known number of workers from the check of the
lifecycle to its return, and `Moves.explained` says that every step keeps it.
-/

namespace JobLog.Broker

variable {τ ω : Type} {setup : Setup τ ω} {workers : Nat}

/-- `Fails setup workers e` says that a subscription with so many workers fails with `e` before it
takes anything from the queue. -/
inductive Fails (setup : Setup τ ω) (workers : Nat) : BrokerError → Prop where
  | noWorkers (hnone : workers = 0) : Fails setup workers .noWorkers
  | factory {i : Nat} {reason : String} (hi : i < workers)
      (hfails : setup.factory i = .error reason) (hfirst : ∀ j < i, setup.factory j = .ok ()) :
      Fails setup workers (.factory i reason)

/-- One reason at most explains why a subscription has failed. -/
theorem Fails.unique {e f : BrokerError} (h : Fails setup workers e) (hf : Fails setup workers f) :
    e = f := by
  cases h with
  | noWorkers hnone =>
      cases hf with
      | noWorkers => rfl
      | factory hi => omega
  | @factory i reason hi hfails hfirst =>
      cases hf with
      | noWorkers hnone => omega
      | @factory j other hj hother hbefore =>
          rcases Nat.lt_trichotomy i j with hlt | rfl | hlt
          · rw [hbefore i hlt] at hfails
            cases hfails
          · rw [hfails] at hother
            cases hother
            rfl
          · rw [hfirst j hlt] at hother
            cases hother

namespace Queue

variable {q r : Queue τ ω}

/-- A subscription with so many workers has come to the point where it is. -/
def Explained (setup : Setup τ ω) (workers : Nat) (q : Queue τ ω) : Prop :=
  match q.subscription with
  | .absent => False
  | .building count next =>
    count = workers ∧ 0 < workers ∧ ∀ i < next, setup.factory i = .ok ()
  | .running | .dropping | .leaving (.ok _) | .returned (.ok _) =>
    q.pool.workers.length = workers ∧ 0 < workers ∧ ∀ i < workers, setup.factory i = .ok ()
  | .leaving (.error e) | .returned (.error e) => Fails setup workers e

/-- The check of the lifecycle is where a subscription begins. -/
theorem explained_subscribe (hconnected : q.subscribe workers = .ok r) :
    r.Explained setup workers := by
  unfold subscribe at hconnected
  split at hconnected
  · cases hconnected
    by_cases hnone : workers = 0
    · simp only [Explained, if_pos hnone]
      exact .noWorkers hnone
    · simp only [Explained, if_neg hnone]
      exact ⟨trivial, Nat.pos_of_ne_zero hnone, nofun⟩
  · cases hconnected

/-- A step that leaves the subscription and the number of workers alone. -/
theorem Explained.of_eq (h : q.Explained setup workers)
    (hsubscription : r.subscription = q.subscription)
    (hworkers : r.pool.workers.length = q.pool.workers.length) : r.Explained setup workers := by
  simpa only [Explained, hsubscription, hworkers] using h

/-- Every step of a broker keeps what is known of its subscription. -/
theorem Moves.explained {label : Label} (hmove : Moves setup q label r) (hphased : q.Phased setup)
    (h : q.Explained setup workers) : r.Explained setup workers := by
  have hphase := hphased.phase
  cases hmove with
  | subscribed hconnected =>
      have hlives := hphased.lives
      simp only [Lives, hconnected] at hlives
      simp only [Explained, hlives] at h
  | @built count next hbuilding _ hfactory =>
      simp only [Explained, hbuilding] at h
      obtain ⟨hcount, hpos, hbefore⟩ := h
      refine ⟨hcount, hpos, fun i hi => ?_⟩
      rcases Nat.lt_succ_iff_lt_or_eq.1 hi with hlt | rfl
      · exact hbefore i hlt
      · exact hfactory
  | @buildFailed count next reason hbuilding hnext hfactory =>
      simp only [Explained, hbuilding] at h
      obtain ⟨rfl, -, hbefore⟩ := h
      exact .factory hnext hfactory hbefore
  | @launched count next hbuilding hnext =>
      simp only [Explained, hbuilding] at h
      simp only [InPhase, hbuilding] at hphase
      obtain ⟨rfl, hpos, hbefore⟩ := h
      rw [launch, hphase.1.2.1, if_neg (by decide)]
      refine ⟨?_, hpos, fun i hi => hbefore i (Nat.lt_of_lt_of_le hi hnext)⟩
      simp only [Pool.start, List.length_replicate]
  | joined hrunning =>
      simp only [Explained, hrunning] at h
      exact h
  | aborted hdropping =>
      simp only [Explained, hdropping] at h
      exact h
  | @left result hleaving =>
      cases result <;> simp only [Explained, hleaving] at h <;> exact h
  | delivered _ _ hpool | drained _ hpool | worked hpool | finished hpool | acknowledged hpool
  | released hpool => exact h.of_eq rfl hpool.length_eq
  | _ => exact h.of_eq rfl rfl

/-- In every state that a new broker can reach, its subscription is explained by some number of
workers. -/
theorem Reaches.explained {world : ω} {labels : List Label}
    (run : Reaches setup (new world) labels q) :
    q.subscription = .absent ∨ ∃ workers, q.Explained setup workers := by
  induction run with
  | refl => exact .inl rfl
  | @step a b labels label run move ih =>
      have hmove := moves_of_step move
      rcases ih with habsent | ⟨workers, h⟩
      · cases hmove with
        | @subscribed workers hconnected =>
            refine .inr ⟨workers, explained_subscribe (q := a) ?_⟩
            rw [subscribe, if_pos (canBecome_subscribed_iff.2 hconnected)]
        | built hpresent | buildFailed hpresent | launched hpresent | joined hpresent
        | bufferClosed hpresent | bufferedLost hpresent | aborted hpresent | left hpresent =>
            rw [habsent] at hpresent
            cases hpresent
        | _ => exact .inl habsent
      · exact .inr ⟨workers, hmove.explained run.phased h⟩

end Queue

end JobLog.Broker
