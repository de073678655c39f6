import JobLog.Broker.Simulation
import JobLog.Proofs.Queue.Service
import JobLog.Proofs.Session.Protocol

/-!
# What has been done when a broker is closed

A broker is closed from the first call of `close` on, and that call returns when the workers have
ended: no message is being processed then, and all that were taken have been acknowledged, except
one for each worker that has crashed. In a session an acknowledgment is tried, and may fail. Both
brokers are treated alike: `close_drains`.
-/

namespace JobLog.Broker

variable {τ ω : Type}

namespace Pool

variable {p : Pool τ ω}

/-- A message is lost with the worker that took it: it is the worker's last, and the call on it has
crashed. -/
def LostOn (p : Pool τ ω) (i : Nat) (m : Message) : Prop :=
  p.workers[i]? = some (.ended true) ∧ entriesOf i p.pulled = entriesOf i p.acknowledged ++ [m]

/-- No worker processes a message, and what was taken is acknowledged if it is not lost. -/
structure Drained (p : Pool τ ω) : Prop where
  not_busy : ∀ w ∈ p.workers, w.isBusy = false
  acknowledged : ∀ {i : Nat} {m : Message}, (i, m) ∈ p.pulled →
    (i, m) ∈ p.acknowledged ∨ p.LostOn i m

/-- A pool whose workers have ended is drained. -/
theorem Ledger.drained (h : p.Ledger) (hdone : p.isDone = true) : p.Drained where
  not_busy w hw := by
    have hended := List.all_eq_true.1 hdone w hw
    cases w with
    | ended => rfl
    | waiting | busy | acknowledging | releasing => cases hended
  acknowledged := by
    intro i m hpulled
    have htaken : m ∈ entriesOf i p.pulled := mem_entriesOf.2 hpulled
    cases hw : p.workers[i]? with
    | none =>
        rw [(h.none_else hw).1] at htaken
        cases htaken
    | some w =>
        have hended := List.all_eq_true.1 hdone w (List.mem_of_getElem? hw)
        have hagrees := h.agrees hw
        cases w with
        | waiting | busy | acknowledging | releasing => cases hended
        | ended lost =>
            cases lost with
            | false =>
                have hsame : entriesOf i p.pulled = entriesOf i p.acknowledged := hagrees
                exact .inl (mem_entriesOf.1 (hsame ▸ htaken))
            | true =>
                obtain ⟨last, hlast⟩ := hagrees
                rw [hlast] at htaken
                rcases List.mem_append.1 htaken with hmem | hmem
                · exact .inl (mem_entriesOf.1 hmem)
                · rw [List.mem_singleton.1 hmem]
                  exact .inr ⟨hw, hlast⟩

end Pool

namespace Queue

variable {setup : Setup τ ω} {q : Queue τ ω}

/-- A broker on which `close` has been called is closed. -/
theorem Tearing.lifecycle_eq (h : q.Tearing) {i : Nat} {c : Closing}
    (hclosing : q.closings[i]? = some c) : q.lifecycle = .closed := by
  unfold Tearing at h
  split at h
  · rename_i hnil
    rw [hnil] at hclosing
    cases hclosing
  · exact h.1

/-- When the first call of `close` has returned, the workers have ended. -/
theorem Phased.isDone (h : q.Phased setup) (hreturned : q.closings[0]? = some .returned) :
    q.pool.isDone = true := by
  have hphase := h.phase
  have htearing := h.tearing
  unfold Tearing at htearing
  split at htearing
  · rename_i hnil
    rw [hnil] at hreturned
    cases hreturned
  · rename_i first later hcons
    obtain rfl : first = .returned := by simpa [hcons] using hreturned
    obtain ⟨-, -, -, -, hdrained⟩ := htearing
    by_cases habsent : q.subscription = .absent
    · simp only [InPhase, habsent] at hphase
      rw [Pool.isDone, hphase.1.workers_eq]
      rfl
    · exact hphase.isDone_of_drained (hdrained habsent)

end Queue

namespace Session

variable {setup : Setup τ ω} {s : Session τ ω} {labels : List Label} {queue : String} {d : Dialing}
  {world : ω}

/-- A session on which `close` has been called is closed. -/
theorem Tearing.lifecycle_eq (h : s.Tearing) {i : Nat} {f : Farewell}
    (hfarewell : s.farewells[i]? = some f) : s.lifecycle = .closed := by
  unfold Tearing at h
  split at h
  · rename_i hnil
    rw [hnil] at hfarewell
    cases hfarewell
  · exact h.1

/-- A message counts as acknowledged if an acknowledgment was tried for it: it was sent, or it could
not be. -/
theorem Reaches.sent_or_failed (run : Reaches setup (made queue d world) labels s) {i : Nat}
    {m : Message} (hacknowledged : (i, m) ∈ s.pool.acknowledged) :
    .acknowledge (m.index + 1) false ∈ s.acknowledgments labels ∨
      ∃ cause, ((i, m), .error cause) ∈ s.attempts labels := by
  rw [← run.map_fst_attempts] at hacknowledged
  obtain ⟨⟨entry, result⟩, hmem, rfl⟩ := List.mem_map.1 hacknowledged
  cases result with
  | ok => exact .inl (List.mem_filterMap.2 ⟨_, hmem, rfl⟩)
  | error cause => exact .inr ⟨cause, hmem⟩

end Session

/-- What has been done when a broker is closed, however many calls of `close` are made and whenever.
When any of them has returned, the broker is closed. When the first one has, which has the broker to
tear down, no message is being processed and all that were taken have been acknowledged, unless the
call on a message has crashed or the acknowledgment could not be sent. -/
theorem close_drains (setup : Setup τ ω) (world : ω) :
    (∀ (labels : List Queue.Label) (q : Queue τ ω), Queue.Reaches setup (.new world) labels q →
      (∀ i : Nat, q.closings[i]? = some Closing.returned → q.lifecycle = .closed) ∧
      (q.closings[0]? = some Closing.returned → q.pool.Drained)) ∧
    ∀ (queue : String) (d : Dialing) (labels : List Session.Label) (s : Session τ ω),
      Session.Reaches setup (.made queue d world) labels s →
      (∀ i : Nat, s.farewells[i]? = some Farewell.returned → s.lifecycle = .closed) ∧
      (s.farewells[0]? = some Farewell.returned → s.pool.Drained ∧
        ∀ i m, (i, m) ∈ s.pool.acknowledged →
          .acknowledge (m.index + 1) false ∈ s.acknowledgments labels ∨
            ∃ cause, ((i, m), .error cause) ∈ s.attempts labels) := by
  refine ⟨fun labels q run => ⟨fun i hreturned => ?_, fun hreturned => ?_⟩,
    fun queue d labels s run => ⟨fun i hreturned => ?_, fun hreturned => ⟨?_, ?_⟩⟩⟩
  · exact run.phased.tearing.lifecycle_eq hreturned
  · exact run.ledger.drained (run.phased.isDone hreturned)
  · exact run.phased.tearing.lifecycle_eq hreturned
  · cases hfarewells : s.farewells with
    | nil =>
        rw [hfarewells] at hreturned
        cases hreturned
    | cons first later =>
        obtain rfl : first = .returned := by simpa [hfarewells] using hreturned
        exact run.ledger.drained (run.phased.isDone hfarewells (.inl rfl))
  · exact fun i m hacknowledged => run.sent_or_failed hacknowledged

/-- A broker whose only worker crashes, and a session whose only acknowledgment cannot be sent, both
closed by one call while the worker has the message. -/
theorem close_drains_fault :
    ∃ (q : Queue (Scripted Bool) Nat) (s : Session (Scripted Bool) Nat),
      q.closings = [.returned] ∧ q.lifecycle = .closed ∧ q.pool.pulled = [(0, ⟨0, [1]⟩)] ∧
      q.pool.LostOn 0 ⟨0, [1]⟩ ∧ s.farewells = [.returned] ∧ s.pool.Drained := by
  let setup (crashes : Bool) : Setup (Scripted Bool) Nat :=
    ⟨1, .scripted (fun _ => ⟨0, true, crashes⟩) .failing, fun _ => .ok ()⟩
  let labels : List Queue.Label := [.publish [1], .subscribe 1, .build, .launch, .takeSlot,
    .takeMessage, .countMessage, .bufferMessage, .pull 0, .close, .proceed 0, .proceed 0, .finish 0,
    .release 0, .join, .closeBuffer, .abort, .leave, .proceed 0]
  let agree : List Session.Label := [.call .send, .call (.answer (.ok ()))]
  let steps : List Session.Label := [.subscribe 1, .build, .attach] ++ agree ++ agree ++ agree ++
    [.deliver [1], .pull 0, .close, .proceed 0, .work 0, .finish 0,
      .acknowledge 0 (.error (.state "closed")), .release 0, .pull 0, .join, .leave, .proceed 0,
      .part 0 (.refuse (.state "closed")), .part 0 .send, .part 0 (.answer (.ok ()))]
  let d : Dialing := ⟨.of [], [], none⟩
  obtain ⟨q, hq, hclosings, hpulled, hnone⟩ : ∃ q, Queue.Reaches (setup true) (.new 0) labels q ∧
      q.closings = [.returned] ∧ q.pool.pulled = [(0, ⟨0, [1]⟩)] ∧ q.pool.acknowledged = [] :=
    ⟨_, Queue.reaches_of_foldlM rfl, rfl, rfl, rfl⟩
  obtain ⟨s, hs, hfarewells⟩ : ∃ s, Session.Reaches (setup false) (.made "parts" d 0) steps s ∧
      s.farewells = [.returned] := ⟨_, Session.reaches_iff_foldlM.2 rfl, rfl⟩
  obtain ⟨hqueue, -⟩ := close_drains (setup true) 0
  obtain ⟨-, hsession⟩ := close_drains (setup false) 0
  obtain ⟨hclosed, hdrained⟩ := hqueue labels q hq
  obtain ⟨-, hsettled⟩ := hsession "parts" d steps s hs
  have hlost := (hdrained (by rw [hclosings]; rfl)).acknowledged (i := 0) (m := ⟨0, [1]⟩)
    (by simp [hpulled])
  rw [hnone] at hlost
  exact ⟨q, s, hclosings, hclosed 0 (by rw [hclosings]; rfl), hpulled,
    hlost.resolve_left (by simp), hfarewells, (hsettled (by rw [hfarewells]; rfl)).1⟩

/-- Three runs in which a call of `close` has returned and yet something is left undone: a message
whose worker has crashed, a message that a worker is still processing while the first call of `close`
waits for it, and a message of a session that could not be acknowledged. -/
theorem close_leaves_undone :
    (∃ (setup : Setup (Scripted Bool) Nat) (labels : List Queue.Label)
      (q : Queue (Scripted Bool) Nat), Queue.Reaches setup (.new 0) labels q ∧
        q.closings = [.returned] ∧ q.pool.pulled = [(0, ⟨0, [1]⟩)] ∧ q.pool.acknowledged = []) ∧
    (∃ (setup : Setup Bool Nat) (labels : List Queue.Label) (q : Queue Bool Nat),
      Queue.Reaches setup (.new 0) labels q ∧ q.closings = [.waiting, .returned] ∧
        q.pool.workers = [.busy ⟨0, [1]⟩ false]) ∧
    ∃ (setup : Setup Bool Nat) (d : Dialing) (labels : List Session.Label) (s : Session Bool Nat),
      Session.Reaches setup (.made "parts" d 0) labels s ∧ s.farewells = [.returned] ∧
        s.pool.pulled = [(0, ⟨0, [1]⟩)] ∧ s.acknowledgments labels = [] := by
  let steady : Setup Bool Nat := ⟨1, .failing, fun _ => .ok ()⟩
  let taking : List Queue.Label := [.publish [1], .subscribe 1, .build, .launch, .takeSlot,
    .takeMessage, .countMessage, .bufferMessage, .pull 0, .close, .proceed 0, .proceed 0]
  let agree : List Session.Label := [.call .send, .call (.answer (.ok ()))]
  refine ⟨⟨⟨1, .scripted (fun _ => ⟨0, true, true⟩) .failing, fun _ => .ok ()⟩, taking ++
      [.finish 0, .release 0, .join, .closeBuffer, .abort, .leave, .proceed 0], _,
      Queue.reaches_of_foldlM rfl, rfl, rfl, rfl⟩,
    ⟨steady, taking ++ [.close], _, Queue.reaches_of_foldlM rfl, rfl, rfl⟩,
    ⟨steady, ⟨.of [], [], none⟩, [.subscribe 1, .build, .attach] ++ agree ++ agree ++ agree ++
      [.deliver [1], .pull 0, .close, .proceed 0, .work 0, .finish 0,
        .acknowledge 0 (.error (.state "closed")), .release 0, .pull 0, .join, .leave, .proceed 0,
        .part 0 (.refuse (.state "closed")), .part 0 .send, .part 0 (.answer (.ok ()))], _,
      Session.reaches_iff_foldlM.2 rfl, rfl, rfl, rfl⟩⟩

end JobLog.Broker
