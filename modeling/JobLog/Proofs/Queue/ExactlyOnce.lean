import JobLog.Proofs.Queue.Progress
import JobLog.Proofs.Queue.Service

/-!
# Exactly-once consumption

A broker that nobody closes passes every published message to exactly one call of one worker, in the
order of publication, and the subscription returns when all of them are acknowledged:
`exactly_once`. This holds for every number of workers, every prefetch multiplier and every
schedule, as long as the factory succeeds and no call crashes; whether a call fails makes no
difference.
-/

namespace JobLog.Broker.Queue

variable {τ ω : Type} {setup : Setup τ ω} {q r : Queue τ ω} {world : ω} {labels : List Label}

/-- Apart from calls of `subscribe` with `workers`, of which there is at least one, the calls of a
schedule are those that publish `bodies` in this order and then end the stream. -/
structure Feeds (bodies : List (List UInt8)) (workers : Nat) (labels : List Label) : Prop where
  calls : labels.filter (fun label => label.isCall ∧ label ≠ .subscribe workers) =
    bodies.map .publish ++ [.endStream]
  subscribes : .subscribe workers ∈ labels

namespace Feeds

variable {bodies : List (List UInt8)} {workers : Nat}

theorem mem_iff (h : Feeds bodies workers labels) (label : Label) (hcall : label.isCall = true)
    (hother : label ≠ .subscribe workers) :
    label ∈ labels ↔ label = .endStream ∨ ∃ body ∈ bodies, label = .publish body := by
  have hmem : label ∈ labels ↔ label ∈ bodies.map Label.publish ++ [.endStream] := by
    rw [← h.calls, List.mem_filter]
    simp [hcall, hother]
  rw [hmem]
  simp [or_comm, eq_comm]

theorem close_not_mem (h : Feeds bodies workers labels) : .close ∉ labels := by
  rw [h.mem_iff .close rfl nofun]
  simp

theorem endStream_mem (h : Feeds bodies workers labels) : .endStream ∈ labels :=
  (h.mem_iff .endStream rfl nofun).2 (.inl rfl)

/-- A broker that is fed gets no more messages. -/
theorem ending (h : Feeds bodies workers labels) (run : Reaches setup (new world) labels q) :
    q.Ending :=
  .inl <| Bool.eq_false_iff.2 fun haccepting =>
    (run.accepting_iff h.close_not_mem).1 haccepting h.endStream_mem

theorem subscribe_eq (h : Feeds bodies workers labels) {count : Nat}
    (hmem : .subscribe count ∈ labels) : count = workers := by
  by_contra hne
  rw [h.mem_iff (.subscribe count) rfl (by simpa using hne)] at hmem
  simp at hmem

/-- The bodies are what the schedule publishes before it ends the stream. -/
theorem offered_eq (h : Feeds bodies workers labels) : offered labels = bodies := by
  have hcalls := h.calls
  clear h
  induction labels generalizing bodies with
  | nil => simp at hcalls
  | cons label labels ih =>
      cases label with
      | publish body =>
          cases bodies with
          | nil => simp [Label.isCall] at hcalls
          | cons first bodies =>
              simp only [Label.isCall, ne_eq, reduceCtorEq, not_false_eq_true, and_self,
                decide_true, List.filter_cons_of_pos, List.map_cons, List.cons_append,
                List.cons.injEq, Label.publish.injEq] at hcalls
              rw [offered, hcalls.1, ih hcalls.2]
      | endStream =>
          cases bodies with
          | nil => rfl
          | cons first bodies => simp [Label.isCall] at hcalls
      | subscribe count =>
          by_cases hcount : count = workers
          · subst hcount
            exact ih (by simpa [Label.isCall] using hcalls)
          · cases bodies <;> simp [Label.isCall, hcount] at hcalls
      | close => cases bodies <;> simp [Label.isCall] at hcalls
      | _ => exact ih (by simpa [Label.isCall] using hcalls)

/-- Steps of the broker's tasks do not change what it is fed. -/
theorem append (h : Feeds bodies workers labels) {rest : List Label}
    (hrest : ∀ label ∈ rest, Label.isCall label = false) :
    Feeds bodies workers (labels ++ rest) where
  calls := by
    have hnone : rest.filter (fun label => label.isCall ∧ label ≠ .subscribe workers) = [] :=
      List.filter_eq_nil_iff.2 fun label hlabel => by simp [hrest label hlabel]
    rw [List.filter_append, h.calls, hnone, List.append_nil]
  subscribes := List.mem_append_left _ h.subscribes

end Feeds

/-- The subscription has returned, its workers have taken all messages in their order, and each of
them has been acknowledged by the worker that took it. -/
structure Consumed (workers : Nat) (messages : List Message) (q : Queue τ ω) : Prop where
  result : q.subscription = .returned (.ok ())
  workers_length : q.pool.workers.length = workers
  ended : q.pool.isDone = true
  pulled : q.pool.pulled.map Prod.snd = messages
  acknowledged : q.pool.acknowledged.Perm q.pool.pulled
  delivered : q.stats.delivered = messages.length
  acked : q.stats.acked = messages.length
  inFlight : q.stats.inFlight = 0

/-- When all workers have ended, no message needs an acknowledgment. -/
theorem owing_eq_zero {p : Pool τ ω} (h : p.isDone = true) : p.owing = 0 := by
  refine List.sum_eq_zero fun n hn => ?_
  obtain ⟨w, hw, rfl⟩ := List.mem_map.1 hn
  have hended := List.all_eq_true.1 h w hw
  cases w <;> simp_all [Worker.isEnded, Worker.owes]

/-- A subscription that has returned although nobody has closed the broker has consumed all messages
that the broker has accepted. -/
theorem Reaches.consumed {workers : Nat} (run : Reaches setup (new world) labels q)
    (hsteady : setup.processor.Steady) (hserves : q.Serves workers) (hgoing : q.stopped = false)
    {result : Except BrokerError Unit} (hreturned : q.subscription = .returned result) :
    q.Consumed workers ((new world).sent setup labels) := by
  simp only [Serves, hreturned] at hserves
  obtain ⟨rfl, hlength⟩ := hserves
  have hphase := run.phased.phase
  have hwhole := (run.counting hsteady).whole
  simp only [InPhase, hreturned] at hphase
  obtain ⟨hlaunched, -, hdone, -, hempty, -⟩ := hphase
  have hended := hlaunched.ended_mem hwhole hdone
  obtain ⟨hpump, -, hpulled⟩ := run.flowing.ended hgoing hended
  have hperm := run.ledger.perm hwhole hdone
  have hacked : q.stats.acked = ((new world).sent setup labels).length := by
    rw [run.balanced.acked, hperm.length_eq, ← hpulled, List.length_map]
  have hinFlight : q.stats.inFlight = 0 := by
    rw [(run.counting hsteady).inFlight (.inr (.inr ⟨hgoing, hended⟩))]
    simp [outstanding, hpump, hempty, owing_eq_zero hdone, Pump.hasCounted]
  exact {
    result := hreturned
    workers_length := hlength
    ended := hdone
    pulled := hpulled
    acknowledged := hperm
    delivered := by rw [run.balanced.delivered, hacked, hinFlight, Nat.add_zero]
    acked := hacked
    inFlight := hinFlight }

/-- A schedule that feeds a broker: the subscription returns when all is consumed, and until then
some task can go on. -/
theorem Feeds.consumed {bodies : List (List UInt8)} {workers : Nat}
    (hfeeds : Feeds bodies workers labels) (hworkers : 0 < workers)
    (hfactory : ∀ i < workers, setup.factory i = .ok ()) (hsteady : setup.processor.Steady)
    (run : Reaches setup (new world) labels q) :
    (∀ result, q.subscription = .returned result → q.Consumed workers (numbered bodies)) ∧
      (q.Consumed workers (numbered bodies) ∨ q.CanGoOn setup) := by
  have hclose := hfeeds.close_not_mem
  have hsent : (new world).sent setup labels = numbered bodies := by
    rw [run.sent_eq hsteady hclose, hfeeds.offered_eq]
  have hconsumed (result : Except BrokerError Unit) (h : q.subscription = .returned result) :
      q.Consumed workers (numbered bodies) :=
    hsent ▸ run.consumed hsteady (run.serves hworkers hfactory fun _ => hfeeds.subscribe_eq)
      (run.not_stopped hclose) h
  obtain ⟨hrest, -⟩ | hgoing := run.progress (hfeeds.ending run)
  · obtain ⟨result, hresult⟩ :=
      hrest.resolve_left (run.subscription_ne_absent hclose hfeeds.subscribes)
    exact ⟨hconsumed, .inl (hconsumed result hresult)⟩
  · exact ⟨hconsumed, .inr hgoing⟩

/-- Exactly-once consumption: when `bodies` are published to a new broker, its stream is ended and
`workers` workers are subscribed, then every state `p` on the way is in good order and within the
prefetch bound, and the messages are taken in the order of their publication. Once the calls have
been made, the tasks cannot go on forever, and as long as they have not consumed everything, one of
them can go on. -/
theorem exactly_once {bodies : List (List UInt8)} {workers : Nat} {early late : List Label}
    {p : Queue τ ω} (hworkers : 0 < workers) (hfactory : ∀ i < workers, setup.factory i = .ok ())
    (hsteady : setup.processor.Steady) (hfeeds : Feeds bodies workers (early ++ late))
    (before : Reaches setup (new world) early p) (after : Reaches setup p late q) :
    p.Orderly ∧ p.Limited (prefetch workers setup.multiplier) ∧
      p.pool.pulled.map Prod.snd <+: numbered bodies ∧
      (∀ result, q.subscription = .returned result → q.Consumed workers (numbered bodies)) ∧
      (q.Consumed workers (numbered bodies) ∨ q.CanGoOn setup) ∧ q.Terminates setup := by
  have run := before.trans after
  -- What is said of `p` needs the early steps only: nobody has closed the broker yet.
  have hearly : .close ∉ early := fun hmem =>
    hfeeds.close_not_mem (List.mem_append_left _ hmem)
  have hserves : p.Serves workers := before.serves hworkers hfactory fun count hcount =>
    hfeeds.subscribe_eq (List.mem_append_left _ hcount)
  have hintact : p.Intact :=
    before.phased.phase.intact (before.counting hsteady).whole (before.not_stopped hearly)
  obtain ⟨hconsumed, hprogress⟩ := hfeeds.consumed hworkers hfactory hsteady run
  refine ⟨before.orderly, before.limited hsteady hserves hintact, ?_, hconsumed, hprogress,
    terminates setup q⟩
  rw [← hfeeds.offered_eq, ← run.sent_eq hsteady hfeeds.close_not_mem, before.sent_append]
  exact before.flowing.taken.trans (List.prefix_append _ _)

/-- Two bodies, two workers and a bound of two, with calls that fail: a schedule in which both
workers are busy at once. -/
theorem exactly_once_two :
    ∃ q : Queue Bool Nat, q.Consumed 2 (numbered [[1], [2]]) ∧ q.pool.world = 2 := by
  let setup : Setup Bool Nat := ⟨1, .failing, fun _ => .ok ()⟩
  let early : List Label := [.publish [1], .subscribe 2, .publish [2], .build, .build, .launch,
    .takeSlot, .takeMessage, .countMessage, .bufferMessage, .takeSlot, .takeMessage, .endStream]
  let late : List Label := [.countMessage, .bufferMessage, .pull 1, .pull 0, .work 0, .work 1,
    .finish 1, .acknowledge 1, .release 1, .finish 0, .acknowledge 0, .release 0, .takeSlot,
    .endPump, .pull 0, .pull 1, .join, .closeBuffer, .abort, .leave]
  obtain ⟨q, run, hworld, hreturned⟩ : ∃ q, Reaches setup (new 0) (early ++ late) q ∧
      q.pool.world = 2 ∧ q.subscription = .returned (.ok ()) :=
    ⟨_, reaches_of_foldlM rfl, rfl, rfl⟩
  obtain ⟨p, before, after⟩ := run.split
  have hfeeds : Feeds [[1], [2]] 2 (early ++ late) := ⟨by decide, by decide⟩
  have hwhole := exactly_once (by decide) (fun _ _ => rfl) Processor.failing_steady hfeeds before
    after
  exact ⟨q, hwhole.2.2.2.1 _ hreturned, hworld⟩

end JobLog.Broker.Queue
