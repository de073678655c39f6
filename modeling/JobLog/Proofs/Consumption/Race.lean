import JobLog.Proofs.Consumption.Factory
import JobLog.Proofs.Consumption.Outcome
import JobLog.Proofs.Consumption.Steps
import JobLog.Proofs.Queue.Progress

/-!
# The race between a subscription and a shutdown

A consumption can begin on a broker in memory in any state that earlier calls have left behind, and
the shutdown can be asked for at any moment, also before the subscription has taken its first step.
That step decides what comes out: on a connected broker the factory decides, on any other the call is
refused. Whoever wins the race, the consumption returns what its own call of `subscribe` has returned,
on a closed broker without workers, and it never gets stuck: `race_outcome`.
-/

namespace JobLog.Broker

variable {τ ω : Type} {setup former : Setup τ ω} {workers : Nat}

namespace Queue

variable {q r s : Queue τ ω} {label : Label}

/-! ## A broker without a subscription -/

/-- There is no subscription, or it is over. -/
def Dormant (q : Queue τ ω) : Prop :=
  q.subscription = .absent ∨ ∃ result, q.subscription = .returned result

/-- Nobody has subscribed to `q` on the way to `r`: no factory was called, no worker was started and
none took anything. Only a pump that an earlier subscription has left may have gone on. -/
structure Undisturbed (q r : Queue τ ω) : Prop where
  subscription : r.subscription = q.subscription
  built : r.built = q.built
  pool : r.pool = q.pool
  stats : q.pump = .absent ∨ q.pump = .finished → r.pump = q.pump ∧ r.stats = q.stats

theorem Undisturbed.refl (q : Queue τ ω) : Undisturbed q q :=
  ⟨rfl, rfl, rfl, fun _ => ⟨rfl, rfl⟩⟩

theorem Undisturbed.trans (h : Undisturbed q r) (hnext : Undisturbed r s) : Undisturbed q s where
  subscription := hnext.subscription.trans h.subscription
  built := hnext.built.trans h.built
  pool := hnext.pool.trans h.pool
  stats := by
    intro hidle
    obtain ⟨hpump, hstats⟩ := h.stats hidle
    obtain ⟨hpump', hstats'⟩ := hnext.stats (by rwa [hpump])
    exact ⟨hpump'.trans hpump, hstats'.trans hstats⟩

theorem Undisturbed.dormant (h : Undisturbed q r) (hdormant : q.Dormant) : r.Dormant := by
  rw [Dormant, h.subscription]
  exact hdormant

/-- Workers move only while a subscription runs. -/
theorem Dormant.not_moves (h : q.Dormant) (hphase : q.InPhase setup) {inner : Pool.Label}
    {pool : Pool τ ω} (hpool : Pool.Moves setup.processor q.pool inner pool) : False := by
  have hrunning := hphase.running_of_moves hpool
  rcases h with habsent | ⟨result, hreturned⟩
  · rw [habsent] at hrunning
    cases hrunning
  · rw [hreturned] at hrunning
    cases hrunning

/-- Without a subscription nothing goes on but the pump and the calls of `close`. -/
theorem Moves.undisturbed (hmove : Moves setup q label r) (hphase : q.InPhase setup)
    (hdormant : q.Dormant) (hother : ∀ workers, label ≠ .subscribe workers) : Undisturbed q r := by
  have habsurd {subscription : Subscription} (hpresent : q.subscription = subscription)
      (hbusy : subscription ≠ .absent ∧ ∀ result, subscription ≠ .returned result) :
      Undisturbed q r := by
    rcases hdormant with habsent | ⟨result, hreturned⟩
    · exact absurd (hpresent.symm.trans habsent) hbusy.1
    · exact absurd (hpresent.symm.trans hreturned) (hbusy.2 result)
  cases hmove with
  | published | rejected | streamEnded | closed | closedAgain | acceptingEnded | stopped | waited =>
      exact ⟨rfl, rfl, rfl, fun _ => ⟨rfl, rfl⟩⟩
  | subscribed | refused => exact absurd rfl (hother _)
  | slotTaken hpump | messageTaken hpump | messageCounted hpump | messageBuffered hpump
  | messageLost hpump | pumpEnded hpump =>
      exact ⟨rfl, rfl, rfl, fun hidle => by simp [hpump] at hidle⟩
  | pumpCancelled _ hpump =>
      refine ⟨rfl, rfl, rfl, fun hidle => ?_⟩
      rcases hpump with hpump | hpump <;> simp [hpump] at hidle
  | delivered _ _ hpool | drained _ hpool | worked hpool | finished hpool | acknowledged hpool
  | released hpool => exact (hdormant.not_moves hphase hpool).elim
  | built hpresent | buildFailed hpresent | launched hpresent | joined hpresent
  | bufferClosed hpresent | bufferedLost hpresent | aborted hpresent | left hpresent =>
      exact habsurd hpresent ⟨nofun, nofun⟩

/-- Without a subscription no worker is left, and if there was one, the workers count as drained. -/
theorem Dormant.drained (h : q.Dormant) (hphase : q.InPhase setup) :
    q.pool.isDone = true ∧ (q.subscription ≠ .absent → q.drained = true) := by
  rcases h with habsent | hreturned
  · simp only [InPhase, habsent] at hphase
    refine ⟨?_, fun hpresent => absurd habsent hpresent⟩
    rw [Pool.isDone, hphase.1.workers_eq]
    rfl
  · have hdrained := hphase.drained_iff.2 hreturned
    exact ⟨hphase.isDone_of_drained hdrained, fun _ => hdrained⟩

/-- The calls of `close` are never forgotten. -/
theorem Moves.closings_length_le (hmove : Moves setup q label r) :
    q.closings.length ≤ r.closings.length := by
  cases hmove with
  | closed | closedAgain => simp
  | launched =>
      unfold launch
      split <;> exact Nat.le_refl _
  | acceptingEnded | stopped | waited => simp [setClosing, endStream]
  | _ => exact Nat.le_refl _

/-- What a broker must be like at a point of its subscription depends on the bound that a new
subscription gets, and on nothing else that is used for it. -/
theorem Phased.of_multiplier (h : q.Phased former) (hsame : former.multiplier = setup.multiplier) :
    q.Phased setup := by
  obtain ⟨hphase, hlives, htearing⟩ := h
  refine ⟨?_, hlives, htearing⟩
  simpa only [InPhase, Launched, hsame] using hphase

end Queue

namespace Consumption

variable {q : Queue τ ω} {c d e : Consumption (Queue τ ω)} {label : Label Queue.Label}
  {labels : List (Label Queue.Label)} {world : ω} {earlier : List Queue.Label}

/-! ## The course of a consumption -/

/-- The subscription takes its first step when the consumption is as in `d`. -/
def BeginsAt (setup : Setup τ ω) (workers : Nat) (q : Queue τ ω)
    (labels : List (Label Queue.Label)) (d : Consumption (Queue τ ω)) : Prop :=
  ∃ before after, labels = before ++ .begin :: after ∧ .begin ∉ before ∧ .begin ∉ after ∧
    Reaches (Queue.interface setup) workers (start q) before d ∧
    (.shutdown ∈ before → d.broker.lifecycle = .closed)

theorem BeginsAt.concat (h : BeginsAt setup workers q labels d) (hlabel : label ≠ .begin) :
    BeginsAt setup workers q (labels ++ [label]) d := by
  obtain ⟨before, after, rfl, hbefore, hafter, run, hclosed⟩ := h
  refine ⟨before, after ++ [label], by simp, hbefore, fun hmem => ?_, run, hclosed⟩
  rcases List.mem_append.1 hmem with hmem | hmem
  · exact hafter hmem
  · exact hlabel (List.mem_singleton.1 hmem).symm

/-- What is known of a consumption by where its call of `subscribe` is. -/
def Course (setup : Setup τ ω) (workers : Nat) (q : Queue τ ω)
    (labels : List (Label Queue.Label)) (c : Consumption (Queue τ ω)) : Prop :=
  match c.call with
  | .unstarted =>
    .begin ∉ labels ∧ Queue.Undisturbed q c.broker ∧
      (c.race = .undecided ∨ ∃ i, c.race = .shutdownWon i)
  | .refused cause =>
    Queue.Undisturbed q c.broker ∧ ∃ d, BeginsAt setup workers q labels d ∧
      d.broker.lifecycle ≠ .connected ∧ cause = .invalidState d.broker.lifecycle .subscribed
  | .running =>
    c.broker.Explained setup workers ∧ ∃ d, BeginsAt setup workers q labels d ∧
      d.broker.lifecycle = .connected

/-- What every step of a consumption keeps, on a broker that was dormant at its start. -/
structure Followed (setup : Setup τ ω) (workers : Nat) (q : Queue τ ω)
    (labels : List (Label Queue.Label)) (c : Consumption (Queue τ ω)) : Prop where
  phased : c.broker.Phased setup
  balanced : c.broker.Balanced
  closed : c.race = .undecided ∨ c.broker.lifecycle = .closed
  decided : .shutdown ∈ labels → c.race ≠ .undecided
  closing : ∀ i, c.race = .subscriptionWon i ∨ c.race = .shutdownWon i →
    i < c.broker.closings.length
  ended : ∀ result, c.race = .ended result →
    c.returned? (Queue.interface setup) = some result
  course : Course setup workers q labels c

theorem followed_start (hphased : q.Phased setup) (hbalanced : q.Balanced) :
    Followed setup workers q [] (start q) where
  phased := hphased
  balanced := hbalanced
  closed := .inl rfl
  decided := nofun
  closing := by simp [start]
  ended := nofun
  course := ⟨nofun, .refl q, .inl rfl⟩

/-- A step of the broker that is no call of `subscribe`, the start of `close` included, goes on as
the call of `subscribe` demands. -/
theorem Course.of_moves {race : Race} {inner : Queue.Label} {broker : Queue τ ω}
    (h : Course setup workers q labels c) (hphased : c.broker.Phased setup) (hdormant : q.Dormant)
    (hmove : Queue.Moves setup c.broker inner broker)
    (hinner : ∀ count, inner ≠ .subscribe count) (hlabel : label ≠ .begin)
    (hrace : c.call = .unstarted → race = .undecided ∨ ∃ i, race = .shutdownWon i) :
    Course setup workers q (labels ++ [label]) ⟨broker, c.call, race⟩ := by
  have hundisturbed (hsame : Queue.Undisturbed q c.broker) : Queue.Undisturbed q broker :=
    hsame.trans (hmove.undisturbed hphased.phase (hsame.dormant hdormant) hinner)
  unfold Course at h ⊢
  split at h <;> rename_i hcall <;> simp only [hcall]
  · obtain ⟨hunbegun, hsame, -⟩ := h
    refine ⟨fun hmem => ?_, hundisturbed hsame, hrace hcall⟩
    rcases List.mem_append.1 hmem with hmem | hmem
    · exact hunbegun hmem
    · exact hlabel (List.mem_singleton.1 hmem).symm
  · obtain ⟨hsame, d, hbegins, hrest⟩ := h
    exact ⟨hundisturbed hsame, d, hbegins.concat hlabel, hrest⟩
  · obtain ⟨hexplained, d, hbegins, hconnected⟩ := h
    exact ⟨hmove.explained hphased hexplained, d, hbegins.concat hlabel, hconnected⟩

/-- The first step of the subscription. -/
theorem Followed.begin (h : Followed setup workers q labels c)
    (run : Reaches (Queue.interface setup) workers (start q) labels c)
    (hcall : c.call = .unstarted) (hrace : c.race = .undecided ∨ ∃ i, c.race = .shutdownWon i) :
    Followed setup workers q (labels ++ [.begin]) (c.begin (Queue.interface setup) workers) := by
  have hcourse := h.course
  simp only [Course, hcall] at hcourse
  obtain ⟨hunbegun, hsame, -⟩ := hcourse
  have hbegins : BeginsAt setup workers q (labels ++ [.begin]) c :=
    ⟨labels, [], rfl, hunbegun, nofun, run, fun hasked => h.closed.resolve_left (h.decided hasked)⟩
  have hdecided : .shutdown ∈ labels ++ [.begin] → c.race ≠ .undecided := fun hmem =>
    h.decided (by simpa using hmem)
  have hopen (result : Except BrokerError Unit) : c.race ≠ .ended result := by
    rcases hrace with hrace | ⟨i, hrace⟩ <;> simp [hrace]
  unfold Consumption.begin
  split
  · rename_i broker hpassed
    have hpassed : c.broker.subscribe workers = .ok broker := hpassed
    have hmove : Queue.Moves setup c.broker (.subscribe workers) broker :=
      Queue.moves_of_step (by rw [Queue.step, hpassed]; rfl)
    have hconnected : c.broker.lifecycle = .connected := by
      unfold Queue.subscribe at hpassed
      split at hpassed
      · exact Queue.canBecome_subscribed_iff.1 ‹_›
      · cases hpassed
    have hundecided : c.race = .undecided := h.closed.resolve_right (by simp [hconnected])
    exact {
      phased := hmove.phased h.phased
      balanced := hmove.balanced h.phased.phase h.balanced
      closed := .inl hundecided
      decided := hdecided
      closing := fun i hwon => (h.closing i hwon).trans_le hmove.closings_length_le
      ended := fun result hended => absurd hended (hopen result)
      course := ⟨Queue.explained_subscribe hpassed, c, hbegins, hconnected⟩ }
  · rename_i cause hrefused
    have hother : c.broker.lifecycle ≠ .connected := by
      intro hconnected
      have hpasses := Queue.canBecome_subscribed_iff.2 hconnected
      simp [Queue.interface, Queue.subscribe, hpasses] at hrefused
    obtain ⟨hcause, -⟩ : cause = .invalidState c.broker.lifecycle .subscribed ∧
        c.broker.step setup (.subscribe workers) = some c.broker :=
      Queue.subscribe_eq_error hrefused
    exact {
      phased := h.phased
      balanced := h.balanced
      closed := h.closed
      decided := hdecided
      closing := h.closing
      ended := fun result hended => absurd hended (hopen result)
      course := ⟨hsame, c, hbegins, hother, hcause⟩ }

/-- The start of `close`, which decides the race. -/
theorem Followed.close (h : Followed setup workers q labels c) (hdormant : q.Dormant) {race : Race}
    (hlabel : label ≠ .begin) (hdecided : race ≠ .undecided)
    (hwon : ∀ i, race = .subscriptionWon i ∨ race = .shutdownWon i → i = c.broker.closings.length)
    (hopen : ∀ result, race ≠ .ended result)
    (hrace : c.call = .unstarted → race = .undecided ∨ ∃ i, race = .shutdownWon i) :
    Followed setup workers q (labels ++ [label]) ⟨c.broker.close.2, c.call, race⟩ := by
  have hmove : Queue.Moves setup c.broker .close c.broker.close.2 := Queue.moves_of_step rfl
  have hlength : c.broker.close.2.closings.length = c.broker.closings.length + 1 := by
    unfold Queue.close
    split <;> simp
  exact {
    phased := hmove.phased h.phased
    balanced := hmove.balanced h.phased.phase h.balanced
    closed := .inr (Queue.close_eq c.broker).2.1
    decided := fun _ => hdecided
    closing := fun i hi => by
      obtain rfl := hwon i hi
      simp [hlength]
    ended := fun result hended => absurd hended (hopen result)
    course := h.course.of_moves h.phased hdormant hmove nofun hlabel hrace }

/-- Every step keeps what is known of a consumption. -/
theorem Moves.followed (hmove : Moves (Queue.interface setup) workers c label e)
    (hdormant : q.Dormant) (run : Reaches (Queue.interface setup) workers (start q) labels c)
    (h : Followed setup workers q labels c) :
    Followed setup workers q (labels ++ [label]) e := by
  cases hmove with
  | begun hcall hrace => exact h.begin run hcall hrace
  | @inner label broker hstep =>
      obtain ⟨hinner, hother⟩ := Queue.moves_of_interface hstep
      exact {
        phased := hinner.phased h.phased
        balanced := hinner.balanced h.phased.phase h.balanced
        closed := h.closed.imp_right hinner.closed_of_closed
        decided := fun hmem => h.decided (by simpa using hmem)
        closing := fun i hwon => (h.closing i hwon).trans_le hinner.closings_length_le
        ended := fun result hended => by
          have hreturned := h.ended result hended
          unfold returned? at hreturned ⊢
          split at hreturned <;> rename_i hcall <;> simp only [hcall]
          · cases hreturned
          · exact hreturned
          · rw [Queue.returned?_eq_some_iff] at hreturned ⊢
            exact hinner.returned hother hreturned
        course := h.course.of_moves h.phased hdormant hinner hother (by simp) fun hcall => by
          have hcourse := h.course
          simp only [Course, hcall] at hcourse
          exact hcourse.2.2 }
  | settled hrace hreturned =>
      refine h.close hdormant (by simp) (by simp) (fun i hi => ?_) (by simp) fun hcall => ?_
      · rcases hi with ⟨⟨⟩⟩ | ⟨⟨⟩⟩
        rfl
      · simp [returned?, hcall] at hreturned
  | shutDown hrace =>
      refine h.close hdormant (by simp) (by simp) (fun i hi => ?_) (by simp) fun _ => .inr ⟨_, rfl⟩
      rcases hi with ⟨⟨⟩⟩ | ⟨⟨⟩⟩
      rfl
  | @concluded i result hrace hclosed hreturned =>
      have hcourse := h.course
      exact {
        phased := h.phased
        balanced := h.balanced
        closed := .inr (h.closed.resolve_left (by rcases hrace with hrace | hrace <;> simp [hrace]))
        decided := by simp
        closing := by simp
        ended := by
          rintro other ⟨⟩
          exact hreturned
        course := by
          unfold Course at hcourse ⊢
          split at hcourse <;> rename_i hcall <;> simp only [hcall]
          · simp [returned?, hcall] at hreturned
          · obtain ⟨hsame, d, hbegins, hrest⟩ := hcourse
            exact ⟨hsame, d, hbegins.concat (by simp), hrest⟩
          · obtain ⟨hexplained, d, hbegins, hconnected⟩ := hcourse
            exact ⟨hexplained, d, hbegins.concat (by simp), hconnected⟩ }

theorem Reaches.followed (run : Reaches (Queue.interface setup) workers (start q) labels c)
    (hphased : q.Phased setup) (hbalanced : q.Balanced) (hdormant : q.Dormant) :
    Followed setup workers q labels c := by
  generalize hfirst : start q = first at run
  induction run with
  | refl =>
      subst hfirst
      exact followed_start hphased hbalanced
  | step run move ih =>
      subst hfirst
      exact (moves_of_step move).followed hdormant run ih

/-- At its end the consumption has the result of its call of `subscribe`, and nothing of the
subscription goes on. -/
theorem Followed.dormant (h : Followed setup workers q labels c) (hdormant : q.Dormant)
    {result : Except BrokerError Unit} (hended : c.race = .ended result) : c.broker.Dormant := by
  have hreturned := h.ended result hended
  have hcourse := h.course
  unfold returned? at hreturned
  unfold Course at hcourse
  split at hreturned <;> rename_i hcall <;> simp only [hcall] at hcourse
  · cases hreturned
  · exact hcourse.1.dormant hdormant
  · exact .inr ⟨result, Queue.returned?_eq_some_iff.1 hreturned⟩

/-! ## Neither stuck nor going on forever -/

/-- Whether a step is one of the consumption itself or of a task of its broker, and not a call from
outside or the request to shut down. -/
def Label.isOwn : Label Queue.Label → Bool
  | .begin | .settle | .conclude => true
  | .inner label => !label.isCall
  | .shutdown => false

/-- A consumption can take a step by itself. -/
def CanGoOn (setup : Setup τ ω) (workers : Nat) (c : Consumption (Queue τ ω)) : Prop :=
  ∃ label : Label Queue.Label, label.isOwn = true ∧
    (c.step (Queue.interface setup) workers label).isSome = true

/-- The subscription runs, and it is left to others whether it gets a message, its stream is ended or
the shutdown is asked for. -/
def Serving (c : Consumption (Queue τ ω)) : Prop :=
  c.race = .undecided ∧ c.call = .running ∧ c.broker.accepting = true

theorem CanGoOn.of_broker (h : c.broker.CanGoOn setup) : c.CanGoOn setup workers := by
  obtain ⟨label, hcall, hstep⟩ := h
  refine ⟨.inner label, by simp [Label.isOwn, hcall], ?_⟩
  have hinner : (Queue.interface setup).step c.broker label = c.broker.step setup label := by
    cases label <;> first | rfl | cases hcall
  rw [step, hinner, Option.isSome_map]
  exact hstep

/-- A call that has begun has returned, or the broker can go on, or it waits for somebody else. -/
theorem Followed.returned_or_goes_on (h : Followed setup workers q labels c)
    (hbegun : c.call ≠ .unstarted) :
    (∃ result, c.returned? (Queue.interface setup) = some result) ∨ c.broker.CanGoOn setup ∨
      c.call = .running ∧ c.broker.accepting = true ∧ c.broker.closings = [] := by
  have hcourse := h.course
  unfold Course at hcourse
  split at hcourse
  · exact absurd ‹_› hbegun
  · rename_i cause hcall
    exact .inl ⟨.error cause, by simp only [returned?, hcall]⟩
  · rename_i hcall
    by_cases hend : c.broker.Ending
    · rcases h.phased.progress h.balanced hend with hrest | hgoing
      · have hpresent : c.broker.subscription ≠ .absent := fun habsent => by
          simp [Queue.Explained, habsent] at hcourse
        obtain ⟨result, hreturned⟩ := hrest.1.resolve_left hpresent
        refine .inl ⟨result, ?_⟩
        simp only [returned?, hcall]
        exact Queue.returned?_eq_some_iff.2 hreturned
      · exact .inr (.inl hgoing)
    · simp only [Queue.Ending, not_or, not_not, Bool.not_eq_false] at hend
      exact .inr (.inr ⟨hcall, hend⟩)

/-- A consumption has returned, or it can go on, or it serves its queue. -/
theorem Followed.progress (h : Followed setup workers q labels c) :
    (∃ result, c.race = .ended result) ∨ c.CanGoOn setup workers ∨ c.Serving := by
  by_cases hcall : c.call = .unstarted
  · have hcourse := h.course
    simp only [Course, hcall] at hcourse
    refine .inr (.inl ⟨.begin, rfl, ?_⟩)
    rcases hcourse.2.2 with hrace | ⟨i, hrace⟩ <;> simp [step, hcall, hrace]
  · rcases h.returned_or_goes_on hcall with ⟨result, hreturned⟩ | hgoing | ⟨hrunning, hopen, hnil⟩
    · -- The call has returned, so what is left to wait for is at most a call of `close`.
      have hwon {i : Nat} (hrace : c.race = .subscriptionWon i ∨ c.race = .shutdownWon i) :
          c.CanGoOn setup workers := by
        have hi := h.closing i hrace
        have hend : c.broker.Ending := .inr (List.ne_nil_of_length_pos (by omega))
        rcases h.phased.progress h.balanced hend with hrest | hgoing
        · have hclosed : (Queue.interface setup).hasClosed c.broker i = true := by
            have hreturned := hrest.2 _ (List.getElem_mem hi)
            simp only [Queue.interface, List.getElem?_eq_getElem hi, hreturned]
          refine ⟨.conclude, rfl, ?_⟩
          rcases hrace with hrace | hrace <;> simp [step, conclude, hrace, hclosed, hreturned]
        · exact .of_broker hgoing
      cases hrace : c.race with
      | undecided => exact .inr (.inl ⟨.settle, rfl, by simp [step, hrace, hreturned]⟩)
      | subscriptionWon i => exact .inr (.inl (hwon (.inl hrace)))
      | shutdownWon i => exact .inr (.inl (hwon (.inr hrace)))
      | ended result => exact .inl ⟨result, rfl⟩
    · exact .inr (.inl (.of_broker hgoing))
    · refine .inr (.inr ⟨?_, hrunning, hopen⟩)
      cases hrace : c.race with
      | undecided => rfl
      | subscriptionWon i => simpa [hnil] using h.closing i (.inl hrace)
      | shutdownWon i => simpa [hnil] using h.closing i (.inr hrace)
      | ended result =>
          have hclosed := h.closed.resolve_left (by simp [hrace])
          have htearing := h.phased.tearing
          simp only [Queue.Tearing, hnil] at htearing
          exact absurd hclosed htearing.1

/-- How many steps of its own a consumption has before it, the request to shut down included. -/
def ahead (c : Consumption (Queue τ ω)) : Nat :=
  (match c.call with
    | .unstarted => 1
    | .running | .refused _ => 0) +
  match c.race with
  | .undecided => 2
  | .subscriptionWon _ | .shutdownWon _ => 1
  | .ended _ => 0

/-- A step brings a consumption closer to its end, or its broker closer to rest. -/
def Closer (setup : Setup τ ω) (e c : Consumption (Queue τ ω)) : Prop :=
  e.ahead < c.ahead ∨ e.ahead = c.ahead ∧ Queue.Closer setup e.broker c.broker

theorem Moves.closer (hmove : Moves (Queue.interface setup) workers c label e)
    (hlabel : label.isOwn = true ∨ label = .shutdown) : Closer setup e c := by
  cases hmove with
  | begun hcall =>
      left
      unfold Consumption.begin
      split <;> simp [ahead, hcall]
  | @inner label broker hstep =>
      have hown : label.isCall = false := by simpa [Label.isOwn] using hlabel
      exact .inr ⟨rfl, (Queue.moves_of_interface hstep).1.closer hown⟩
  | settled hrace | shutDown hrace =>
      left
      simp [ahead, hrace]
  | concluded hrace =>
      left
      rcases hrace with hrace | hrace <;> simp [ahead, hrace]

theorem closer_wellFounded (setup : Setup τ ω) :
    WellFounded (Closer setup : Consumption (Queue τ ω) → Consumption (Queue τ ω) → Prop) := by
  let rank (c : Consumption (Queue τ ω)) : Nat × Queue τ ω := (c.ahead, c.broker)
  have hlex : WellFounded (Prod.Lex (· < ·) (Queue.Closer setup)) :=
    WellFounded.prod_lex Nat.lt_wfRel.wf (Queue.closer_wellFounded setup)
  refine Subrelation.wf ?_ (InvImage.wf rank hlex)
  intro e c h
  rcases h with hlt | ⟨heq, hcloser⟩
  · exact .left _ _ hlt
  · simp only [InvImage, rank, heq]
    exact .right _ hcloser

/-- Without further calls from outside a consumption does not go on forever, whenever the shutdown is
asked for. -/
def Terminates (setup : Setup τ ω) (workers : Nat) (c : Consumption (Queue τ ω)) : Prop :=
  ¬∃ (states : Nat → Consumption (Queue τ ω)) (labels : Nat → Label Queue.Label), states 0 = c ∧
    ∀ k, ((labels k).isOwn = true ∨ labels k = .shutdown) ∧
      (states k).step (Queue.interface setup) workers (labels k) = some (states (k + 1))

theorem terminates (setup : Setup τ ω) (workers : Nat) (c : Consumption (Queue τ ω)) :
    c.Terminates setup workers := by
  rintro ⟨states, labels, -, hsteps⟩
  -- One of the states would be the closest to the end, but the next one is closer.
  obtain ⟨_, ⟨k, rfl⟩, hmin⟩ :=
    (closer_wellFounded setup).has_min (Set.range states) ⟨_, 0, rfl⟩
  exact hmin (states (k + 1)) ⟨k + 1, rfl⟩ ((moves_of_step (hsteps k).2).closer (hsteps k).1)

/-! ## The outcome -/

/-- What came out of a consumption that found the broker as in `d` at the first step of its
subscription. On a connected broker the result is that of the factory; on any other the call was
refused, and the broker went undisturbed. -/
structure Decided (setup : Setup τ ω) (workers : Nat) (q : Queue τ ω)
    (d c : Consumption (Queue τ ω)) (result : Except BrokerError Unit) : Prop where
  ok_iff : result = .ok () ↔ d.broker.lifecycle = .connected ∧ 0 < workers ∧
    ∀ i < workers, setup.factory i = .ok ()
  invalid_iff : (∃ found, result = .error (.invalidState found .subscribed)) ↔
    d.broker.lifecycle ≠ .connected
  refused : d.broker.lifecycle ≠ .connected →
    result = .error (.invalidState d.broker.lifecycle .subscribed) ∧
      Queue.Undisturbed q c.broker
  failed_iff : d.broker.lifecycle = .connected → ∀ cause,
    result = .error cause ↔ Fails setup workers cause

theorem decided_of_refused (hother : d.broker.lifecycle ≠ .connected)
    (hsame : Queue.Undisturbed q c.broker) :
    Decided setup workers q d c (.error (.invalidState d.broker.lifecycle .subscribed)) where
  ok_iff := ⟨nofun, fun h => absurd h.1 hother⟩
  invalid_iff := ⟨fun _ => hother, fun _ => ⟨_, rfl⟩⟩
  refused _ := ⟨rfl, hsame⟩
  failed_iff hconnected := absurd hconnected hother

theorem decided_of_explained (hconnected : d.broker.lifecycle = .connected)
    {result : Except BrokerError Unit} (hreturned : c.broker.subscription = .returned result)
    (hexplained : c.broker.Explained setup workers) : Decided setup workers q d c result := by
  simp only [Queue.Explained, hreturned] at hexplained
  cases result with
  | ok =>
      obtain ⟨-, hpos, hbuilt⟩ := hexplained
      exact {
        ok_iff := ⟨fun _ => ⟨hconnected, hpos, hbuilt⟩, fun _ => rfl⟩
        invalid_iff := iff_of_false (by rintro ⟨_, ⟨⟩⟩) (not_not_intro hconnected)
        refused := fun hother => absurd hconnected hother
        failed_iff := fun _ cause =>
          iff_of_false (by rintro ⟨⟩) fun hfails => hfails.not_built hpos hbuilt }
  | error cause =>
      exact {
        ok_iff := iff_of_false (by rintro ⟨⟩) fun hok => hexplained.not_built hok.2.1 hok.2.2
        invalid_iff := by
          refine iff_of_false ?_ (not_not_intro hconnected)
          rintro ⟨found, ⟨⟩⟩
          cases hexplained
        refused := fun hother => absurd hconnected hother
        failed_iff := fun _ other => by
          constructor
          · rintro ⟨⟩
            exact hexplained
          · intro hother
            rw [hexplained.unique hother] }

/-- A consumption of a broker in memory, which may be in any state of its life as long as no call is
under way on it, with any number of workers, any factory and any messages, when the shutdown may be
asked for at any moment. Once it has returned, its result is what its own call of `subscribe` has
returned, the broker is closed, its workers have drained and none is left. What that result is was
decided at the first step of the subscription, where the broker had been closed if the shutdown was
asked for before. Until it has returned it can go on by itself, unless it serves a queue that still
accepts messages and nobody has asked for the shutdown, and it does not go on forever. -/
theorem race_outcome (hsame : former.multiplier = setup.multiplier)
    (opening : Queue.Reaches former (.new world) earlier q) (hrest : q.AtRest)
    (run : Reaches (Queue.interface setup) workers (start q) labels c) :
    (∀ result, c.result? = some result →
      c.returned? (Queue.interface setup) = some result ∧ c.broker.lifecycle = .closed ∧
      c.broker.pool.isDone = true ∧
      (c.broker.subscription ≠ .absent → c.broker.drained = true) ∧
      ∃ d, BeginsAt setup workers q labels d ∧ Decided setup workers q d c result) ∧
    (c.result?.isSome = true ∨ c.CanGoOn setup workers ∨ c.Serving) ∧
    c.Terminates setup workers := by
  have h := run.followed (opening.phased.of_multiplier hsame) opening.balanced hrest.1
  refine ⟨fun result hresult => ?_, ?_, terminates setup workers c⟩
  · have hended := result?_eq_some_iff.1 hresult
    have hreturned := h.ended result hended
    obtain ⟨hdone, hdrained⟩ := (h.dormant hrest.1 hended).drained h.phased.phase
    refine ⟨hreturned, h.closed.resolve_left (by simp [hended]), hdone, hdrained, ?_⟩
    have hcourse := h.course
    unfold returned? at hreturned
    unfold Course at hcourse
    split at hreturned <;> rename_i hcall <;> simp only [hcall] at hcourse
    · cases hreturned
    · obtain ⟨hundisturbed, d, hbegins, hother, rfl⟩ := hcourse
      cases hreturned
      exact ⟨d, hbegins, decided_of_refused hother hundisturbed⟩
    · obtain ⟨hexplained, d, hbegins, hconnected⟩ := hcourse
      exact ⟨d, hbegins,
        decided_of_explained hconnected (Queue.returned?_eq_some_iff.1 hreturned) hexplained⟩
  · refine h.progress.imp_left ?_
    rintro ⟨result, hended⟩
    simp [result?, hended]

/-- Two consumptions of a broker with one message: in the first the shutdown is asked for before the
subscription has begun, in the second while a worker has the message. -/
theorem race_outcome_both :
    ∃ c e : Consumption (Queue Bool Nat),
      c.result? = some (.error (.invalidState .closed .subscribed)) ∧
      c.broker.lifecycle = .closed ∧ c.broker.pool.isDone = true ∧
      e.result? = some (.ok ()) ∧ e.broker.lifecycle = .closed ∧ e.broker.drained = true := by
  let setup : Setup Bool Nat := ⟨1, .failing, fun _ => .ok ()⟩
  let tasks (labels : List Queue.Label) : List (Label Queue.Label) := labels.map .inner
  let late : List (Label Queue.Label) :=
    [.shutdown] ++ tasks [.proceed 0, .proceed 0] ++ [.begin, .conclude]
  let midway : List (Label Queue.Label) :=
    [.begin] ++ tasks [.build, .launch, .takeSlot, .takeMessage, .countMessage, .bufferMessage,
      .pull 0] ++ [.shutdown] ++ tasks [.proceed 0, .work 0, .proceed 0, .finish 0, .acknowledge 0,
      .release 0, .pull 0, .join, .closeBuffer, .abort, .leave, .proceed 0] ++ [.conclude]
  obtain ⟨q, c, e, opening, hrest, hc, he, hrefused, hserved, hpresent⟩ :
      ∃ (q : Queue Bool Nat) (c e : Consumption (Queue Bool Nat)),
        Queue.Reaches setup (.new 0) [.publish [1]] q ∧ q.AtRest ∧
        Reaches (Queue.interface setup) 1 (start q) late c ∧
        Reaches (Queue.interface setup) 1 (start q) midway e ∧
        c.result? = some (.error (.invalidState .closed .subscribed)) ∧
        e.result? = some (.ok ()) ∧ e.broker.subscription ≠ .absent :=
    ⟨_, _, _, Queue.reaches_of_foldlM rfl, ⟨.inl rfl, nofun⟩, reaches_of_foldlM rfl,
      reaches_of_foldlM rfl, rfl, rfl, nofun⟩
  obtain ⟨hlate, -⟩ := race_outcome rfl opening hrest hc
  obtain ⟨hmidway, -⟩ := race_outcome rfl opening hrest he
  obtain ⟨-, hclosed, hdone, -⟩ := hlate _ hrefused
  obtain ⟨-, hclosed', -, hdrained, -⟩ := hmidway _ hserved
  exact ⟨c, e, hrefused, hclosed, hdone, hserved, hclosed', hdrained hpresent⟩

end Consumption

end JobLog.Broker
