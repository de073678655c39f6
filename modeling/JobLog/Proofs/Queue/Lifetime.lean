import JobLog.Proofs.Queue.Outcomes
import JobLog.Proofs.Queue.Service

/-!
# The one life of a broker

Anybody may call `publish`, `endStream`, `subscribe` and `close` at any time and any number of
times. Whatever the calls and however their steps mix with those of the broker's tasks, the
lifecycle only moves forward, one subscription at most is let in, one call of `close` at most tears
the broker down, and messages are accepted until somebody drops the queue's entrance: `one_life`.

Steps that are taken once in a life are counted by `tally`; `Reaches.tally_le_one` says that a kind
of step occurs once if it leads from where something does not hold yet to where it holds for good.
-/

namespace JobLog.Broker

/-- What somebody has seen of a lifecycle by the time it is in the last of these states: it was
connected for a while, then perhaps subscribed, then closed. -/
def Lifecycle.Seen (states : List Lifecycle) : Lifecycle → Prop
  | .disconnected => False
  | .connected => ∃ a, states = List.replicate (a + 1) .connected
  | .subscribed =>
    ∃ a b, states = List.replicate (a + 1) .connected ++ List.replicate (b + 1) .subscribed
  | .closed =>
    ∃ a b c, states = List.replicate (a + 1) .connected ++ List.replicate b .subscribed ++
      List.replicate (c + 1) .closed

/-- A lifecycle that stays or moves forward goes on in order. -/
theorem Lifecycle.Seen.concat {states : List Lifecycle} {before after : Lifecycle}
    (h : Seen states before) (hmove : after = before ∨ before.canBecome after = true) :
    Seen (states ++ [after]) after := by
  cases before with
  | disconnected => exact h.elim
  | connected =>
      obtain ⟨a, rfl⟩ := h
      cases after with
      | disconnected => simp [canBecome] at hmove
      | connected => exact ⟨a + 1, List.replicate_succ'.symm⟩
      | subscribed => exact ⟨a, 0, rfl⟩
      | closed => exact ⟨a, 0, 0, by simp⟩
  | subscribed =>
      obtain ⟨a, b, rfl⟩ := h
      cases after with
      | disconnected | connected => simp [canBecome] at hmove
      | subscribed =>
          refine ⟨a, b + 1, ?_⟩
          rw [List.append_assoc, ← List.replicate_succ']
      | closed => exact ⟨a, b + 1, 0, rfl⟩
  | closed =>
      obtain ⟨a, b, c, rfl⟩ := h
      obtain rfl : after = .closed := by
        cases after <;> simp [canBecome] at hmove ⊢
      refine ⟨a, b, c + 1, ?_⟩
      rw [List.append_assoc, ← List.replicate_succ']

namespace Queue

variable {τ ω : Type} {setup : Setup τ ω} {q r s : Queue τ ω} {world : ω} {labels : List Label}

/-! ## What is seen of a run -/

/-- The lifecycle before the first step of a run and after every step. -/
def lifecycles (setup : Setup τ ω) (q : Queue τ ω) : List Label → List Lifecycle
  | [] => [q.lifecycle]
  | label :: labels =>
    q.lifecycle ::
      match q.step setup label with
      | some r => r.lifecycles setup labels
      | none => []

theorem Reaches.lifecycles_concat {label : Label} (run : Reaches setup q labels r)
    (move : r.step setup label = some s) :
    q.lifecycles setup (labels ++ [label]) = q.lifecycles setup labels ++ [s.lifecycle] := by
  induction labels generalizing q with
  | nil =>
      obtain rfl := reaches_nil_iff.1 run
      simp only [List.nil_append, lifecycles, move, List.cons_append]
  | cons first labels ih =>
      obtain ⟨t, hfirst, hrest⟩ := reaches_cons_iff.1 run
      simp only [List.cons_append, lifecycles, hfirst, ih hrest]

/-- How many steps of a run are of some kind, which may depend on where they are taken. -/
def tally (setup : Setup τ ω) (kind : Queue τ ω → Label → Bool) (q : Queue τ ω) :
    List Label → Nat
  | [] => 0
  | label :: labels =>
    (kind q label).toNat +
      match q.step setup label with
      | some r => r.tally setup kind labels
      | none => 0

theorem Reaches.tally_concat (run : Reaches setup q labels r)
    (kind : Queue τ ω → Label → Bool) (label : Label) :
    q.tally setup kind (labels ++ [label]) =
      q.tally setup kind labels + (kind r label).toNat := by
  induction labels generalizing q with
  | nil =>
      obtain rfl := reaches_nil_iff.1 run
      simp only [List.nil_append, tally, Nat.zero_add]
      split <;> exact Nat.add_zero _
  | cons first labels ih =>
      obtain ⟨t, hfirst, hrest⟩ := reaches_cons_iff.1 run
      simp only [List.cons_append, tally, hfirst, ih hrest, Nat.add_assoc]

/-- Steps of a kind that lead from where something does not hold to where it holds for good. -/
structure Once (setup : Setup τ ω) (kind : Queue τ ω → Label → Bool) (done : Queue τ ω → Prop) :
    Prop where
  takes : ∀ {a b : Queue τ ω} {label : Label}, Moves setup a label b → kind a label = true →
    ¬done a ∧ done b
  keeps : ∀ {a b : Queue τ ω} {label : Label}, a.Lives → Moves setup a label b → done a → done b

/-- What leads from where something does not hold to where it holds for good happens once at most,
and has not happened where it does not hold. -/
theorem Reaches.tally_le_one {kind : Queue τ ω → Label → Bool} {done : Queue τ ω → Prop}
    (run : Reaches setup (new world) labels q) (honce : Once setup kind done) :
    (new world).tally setup kind labels ≤ 1 ∧
      (¬done q → (new world).tally setup kind labels = 0) := by
  induction run with
  | refl => exact ⟨Nat.zero_le 1, fun _ => rfl⟩
  | @step a b labels label run move ih =>
      obtain ⟨hle, hzero⟩ := ih
      have hmove := moves_of_step move
      rw [run.tally_concat]
      cases hkind : kind a label with
      | true =>
          obtain ⟨hbefore, hafter⟩ := honce.takes hmove hkind
          have hnone := hzero hbefore
          exact ⟨by simp [hnone], fun hnot => absurd hafter hnot⟩
      | false =>
          refine ⟨hle, fun hnot => hzero fun hdone => ?_⟩
          exact hnot (honce.keeps run.phased.lives hmove hdone)

/-! ## Lifecycle -/

/-- The lifecycle stays as it is or moves forward. -/
theorem Moves.lifecycle {label : Label} (hmove : Moves setup q label r) :
    r.lifecycle = q.lifecycle ∨ q.lifecycle.canBecome r.lifecycle = true := by
  cases hmove with
  | subscribed hconnected =>
      right
      rw [hconnected]
      rfl
  | closed hopen =>
      right
      cases hlifecycle : q.lifecycle with
      | closed => exact absurd hlifecycle hopen
      | disconnected | connected | subscribed => rfl
  | launched => exact .inl (launch_lifecycle _)
  | _ => exact .inl rfl

theorem Reaches.lifecycles_seen (run : Reaches setup (new world) labels q) :
    Lifecycle.Seen ((new world).lifecycles setup labels) q.lifecycle := by
  induction run with
  | refl => exact ⟨0, rfl⟩
  | step run move ih =>
      rw [run.lifecycles_concat move]
      exact ih.concat (moves_of_step move).lifecycle

/-- Whether a step is a call of `subscribe` that passes the check of the lifecycle. -/
def admits (q : Queue τ ω) : Label → Bool
  | .subscribe workers => (q.subscribe workers).isOk
  | _ => false

theorem once_admits (setup : Setup τ ω) :
    Once setup admits fun q : Queue τ ω => q.lifecycle ≠ .connected where
  takes := by
    intro a b label hmove hkind
    cases hmove with
    | subscribed hconnected => exact ⟨fun hnot => hnot hconnected, nofun⟩
    | refused hother =>
        have hrefused : ¬a.lifecycle.canBecome .subscribed = true :=
          fun h => hother (canBecome_subscribed_iff.1 h)
        rw [admits, subscribe, if_neg hrefused] at hkind
        cases hkind
    | _ => cases hkind
  keeps := by
    intro a b label hlives hmove hother hconnected
    rcases hmove.lifecycle with hsame | hforward
    · exact hother (hsame.symm.trans hconnected)
    · rw [hconnected] at hforward
      cases hlifecycle : a.lifecycle <;> simp_all [Lifecycle.canBecome, Lives]

/-- Whether a step is a call of `close` that has the broker to tear down: the others return at once.
-/
def tearsDown (q : Queue τ ω) : Label → Bool
  | .close => q.close.2.closings[q.close.1]? ≠ some .returned
  | _ => false

theorem once_tearsDown (setup : Setup τ ω) :
    Once setup tearsDown fun q : Queue τ ω => q.lifecycle = .closed where
  takes := by
    intro a b label hmove hkind
    cases hmove with
    | closed hopen => exact ⟨hopen, rfl⟩
    | closedAgain hclosed => simp [tearsDown, close, hclosed] at hkind
    | _ => cases hkind
  keeps := by
    intro a b label _ hmove hclosed
    rcases hmove.lifecycle with hsame | hforward
    · exact hsame.trans hclosed
    · rw [hclosed] at hforward
      cases b.lifecycle <;> simp [Lifecycle.canBecome] at hforward

/-! ## Messages -/

/-- Whether a step drops the queue's entrance. -/
def dropsEntrance (q : Queue τ ω) : Label → Bool
  | .endStream => true
  | .proceed i =>
    match q.closings[i]? with
    | some (.ending _) => true
    | _ => false
  | _ => false

theorem Moves.accepting_iff {label : Label} (hmove : Moves setup q label r) :
    r.accepting = true ↔ q.accepting = true ∧ q.dropsEntrance label = false := by
  cases hmove with
  | streamEnded => simp [endStream, dropsEntrance]
  | acceptingEnded hclosing => simp [endStream, setClosing, dropsEntrance, hclosing]
  | stopped hclosing | waited hclosing => simp [setClosing, dropsEntrance, hclosing]
  | launched =>
      unfold launch
      split <;> simp [dropsEntrance]
  | _ => simp [dropsEntrance, stopPump]

/-- Messages are accepted as long as nobody has dropped the queue's entrance. -/
theorem Reaches.accepting_iff_tally (run : Reaches setup (new world) labels q) :
    q.accepting = true ↔ (new world).tally setup dropsEntrance labels = 0 := by
  induction run with
  | refl => exact iff_of_true rfl rfl
  | @step a b labels label run move ih =>
      rw [(moves_of_step move).accepting_iff, run.tally_concat, ih, Nat.add_eq_zero_iff,
        Bool.toNat_eq_zero]

/-- Where calls do not crash, publishing succeeds as long as messages are accepted. -/
theorem Reaches.publish_eq (run : Reaches setup (new world) labels q)
    (hsteady : setup.processor.Steady) (body : List UInt8) :
    (q.publish body).1 = if q.accepting = true then .ok () else .error .closed := by
  by_cases haccepting : q.accepting = true
  · have hpump : q.pump ≠ .finished := fun hfinished => by
      simp [run.not_accepting hsteady hfinished] at haccepting
    rw [if_pos haccepting, publish, if_pos ⟨haccepting, hpump⟩]
  · have hclosed : ¬(q.accepting = true ∧ q.pump ≠ .finished) := fun h => haccepting h.1
    rw [if_neg haccepting, publish, if_neg hclosed]

/-- Once nobody is let in any more, nothing a call of `subscribe` does is seen by anybody. -/
theorem subscribe_eq_error {workers : Nat} {cause : BrokerError}
    (hrefused : q.subscribe workers = .error cause) :
    cause = .invalidState q.lifecycle .subscribed ∧
      q.step setup (.subscribe workers) = some q := by
  refine ⟨?_, by rw [step, hrefused]; rfl⟩
  unfold subscribe at hrefused
  split at hrefused <;> cases hrefused
  rfl

/-- The queue's end is there for the subscription that was let in. -/
theorem InPhase.launch_running (h : q.InPhase setup) (hlaunch : q.step setup .launch = some r) :
    r.subscription = .running := by
  cases moves_of_step hlaunch with
  | launched hbuilding =>
      simp only [InPhase, hbuilding] at h
      rw [Queue.launch, h.1.2.1, if_neg (by decide)]

/-- The one life of a broker, in every state that calls and tasks can lead to, where calls of the
processor do not crash. Its lifecycle was connected, then perhaps subscribed, then perhaps closed.
At most one call of `subscribe` was let in and at most one call of `close` had the broker to tear
down. A call of `subscribe` that is refused changes nothing at all; the workers count as drained
exactly when the subscription that was let in has returned, and a call of `close` that waits goes on
only then. Publishing succeeds exactly as long as nobody has dropped the queue's entrance, and never
again afterwards. A subscription that gets to starting its workers finds the queue's end, so none
fails because it is taken. -/
theorem one_life (run : Reaches setup (new world) labels q) (hsteady : setup.processor.Steady) :
    Lifecycle.Seen ((new world).lifecycles setup labels) q.lifecycle ∧
      (new world).tally setup admits labels ≤ 1 ∧ (new world).tally setup tearsDown labels ≤ 1 ∧
      (∀ workers cause, q.subscribe workers = .error cause →
        cause = .invalidState q.lifecycle .subscribed ∧
        q.step setup (.subscribe workers) = some q) ∧
      (q.drained = true ↔ ∃ result, q.subscription = .returned result) ∧
      (∀ i r, q.closings[i]? = some .waiting → q.step setup (.proceed i) = some r →
        ∃ result, q.subscription = .returned result) ∧
      (∀ body, (q.publish body).1 =
        if (new world).tally setup dropsEntrance labels = 0 then .ok () else .error .closed) ∧
      (∀ body, (q.publish body).1 = .error .closed → ∀ later r, Reaches setup q later r →
        ∀ body, (r.publish body).1 = .error .closed) ∧
      (∀ r, q.step setup .launch = some r → r.subscription = .running) ∧
      ∀ e, q.subscription = .leaving (.error e) ∨ q.subscription = .returned (.error e) →
        e ≠ .closed := by
  have hphase := run.phased.phase
  have hpublish (body : List UInt8) := run.publish_eq hsteady body
  refine ⟨run.lifecycles_seen, (run.tally_le_one (once_admits setup)).1,
    (run.tally_le_one (once_tearsDown setup)).1, fun _ _ => subscribe_eq_error, hphase.drained_iff,
    fun i r hwaiting hproceed => ?_, fun body => ?_, fun body hclosed later r run' other => ?_,
    fun _ => hphase.launch_running, ?_⟩
  · cases moves_of_step hproceed with
    | acceptingEnded hclosing | stopped hclosing =>
        rw [hwaiting] at hclosing
        cases hclosing
    | waited _ hdrained => exact hphase.drained_iff.1 hdrained
  · rw [hpublish body]
    exact if_congr run.accepting_iff_tally rfl rfl
  · have hbefore : q.accepting = false := by
      rw [hpublish body] at hclosed
      by_contra haccepting
      rw [if_pos (Bool.not_eq_false _ ▸ haccepting)] at hclosed
      cases hclosed
    have hafter : r.accepting = false :=
      run'.invariant (P := fun r => r.accepting = false) hbefore
        fun _ _ _ _ hmove h => hmove.not_accepting h
    rw [(run.trans run').publish_eq hsteady other, hafter]
    rfl
  · rintro e hfailed rfl
    rcases run.explained with habsent | ⟨workers, h⟩
    · rw [habsent] at hfailed
      rcases hfailed with hfailed | hfailed <;> cases hfailed
    · rcases hfailed with hfailed | hfailed <;>
        simp only [Explained, hfailed] at h <;> cases h

/-- Two subscriptions and two calls of `close` on one broker: the second subscription is refused
while the first is under way, and the second call of `close` has nothing to do. -/
theorem one_life_contested :
    ∃ (setup : Setup Bool Nat) (labels : List Label) (q : Queue Bool Nat),
      Reaches setup (new 0) labels q ∧ q.lifecycle = .closed ∧
      (new 0).tally setup admits labels ≤ 1 ∧ (new 0).tally setup tearsDown labels ≤ 1 ∧
      ∀ body, (q.publish body).1 = .error .closed := by
  let setup : Setup Bool Nat := ⟨1, .failing, fun _ => .ok ()⟩
  let labels : List Label := [.publish [1], .subscribe 1, .build, .subscribe 2, .launch, .close,
    .close, .proceed 0, .proceed 0, .pull 0, .join]
  obtain ⟨q, run, hclosed, hrefusing⟩ : ∃ q, Reaches setup (new 0) labels q ∧
      q.lifecycle = .closed ∧ q.accepting = false :=
    ⟨_, reaches_of_foldlM rfl, rfl, rfl⟩
  obtain ⟨-, hadmits, htears, -, -, -, hpublish, -⟩ := one_life run Processor.failing_steady
  refine ⟨setup, labels, q, run, hclosed, hadmits, htears, fun body => ?_⟩
  have hdropped : (new 0).tally setup dropsEntrance labels ≠ 0 := fun hnone => by
    simp [run.accepting_iff_tally.2 hnone] at hrefusing
  rw [hpublish body, if_neg hdropped]

end Queue

end JobLog.Broker
