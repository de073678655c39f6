import JobLog.Proofs.Broadcast.Secrecy
import JobLog.Proofs.Pipeline.Fidelity
import JobLog.Proofs.Pool.Lockstep

/-!
# Messages handled with another secret

Two runs of the pipeline are compared whose clients differ in the secret only, in networks that
answer alike. Their worlds stay `Resigned`: the same state, metrics and times, the same statements,
and requests and events that differ in the value of the signature only. One step of a task keeps
this (`Task.next_resigned`). So does the handling of any messages, one after another
(`World.handleEach_resigned`) or by the workers of a pool in any schedule
(`logPartProcessor_mirrors`). `Pusher.secret_in_signature_only` puts it together with the
construction of the client, its description and its announcements.
-/

namespace JobLog

open Pusher (Client)

variable {σ : Type} {c : Client} {secret : String}

/-- The same failure; the address in it may differ in the value of the signature. -/
inductive ProcessError.Resigned (c : Client) (secret : String) :
    ProcessError → ProcessError → Prop where
  | same (e : ProcessError) : Resigned c secret e e
  | publish (e f : BroadcastError) (h : c.ResignedError secret e f) :
      Resigned c secret (.publish e) (.publish f)

/-- The same value, or texts that differ in the value of the signature. -/
inductive Event.Value.Resigned (c : Client) (secret : String) :
    Event.Value → Event.Value → Prop where
  | same (v : Event.Value) : Resigned c secret v v
  | shown (s t : String) (h : c.Resigned secret s t) : Resigned c secret (.shown s) (.shown t)

/-- The same event, with fields of the same names whose texts may differ in the value of the
signature. -/
structure Event.Resigned (c : Client) (secret : String) (e f : Event) : Prop where
  level : e.level = f.level
  target : e.target = f.target
  message : e.message = f.message
  spans : e.spans = f.spans
  fields : List.Forall₂ (fun p q => p.1 = q.1 ∧ Event.Value.Resigned c secret p.2 q.2)
    e.fields f.fields

theorem Event.Resigned.within {e f : Event} (h : e.Resigned c secret f) (span : Event.Span) :
    (e.within span).Resigned c secret (f.within span) :=
  ⟨h.level, h.target, h.message, congrArg (span :: ·) h.spans, h.fields⟩

/-- The same world, but for the value of the signature in what was requested and reported. -/
structure World.Resigned (c : Client) (secret : String) (w v : World (Logged σ)) : Prop where
  state : w.systems.state = v.systems.state
  statements : w.systems.statements = v.systems.statements
  requests : List.Forall₂ (c.ResignedRequest secret) w.systems.requests v.systems.requests
  metrics : w.metrics = v.metrics
  events : List.Forall₂ (Event.Resigned c secret) w.events v.events
  clock : w.clock = v.clock
  wall : w.wall = v.wall

/-- Two networks that do the same, in particular with requests that differ in the value of the
signature only. -/
structure Network.Agree (c : Client) (secret : String) (n m : Network σ) : Prop where
  execute : n.execute = m.execute
  now : n.now = m.now
  post : ∀ r s state, c.ResignedRequest secret r s → n.post r state = m.post s state

theorem World.Resigned.refl (w : World (Logged σ)) : w.Resigned c secret w where
  state := rfl
  statements := rfl
  requests := List.forall₂_same.2 fun _ _ =>
    ⟨rfl, ⟨rfl, rfl⟩, ⟨rfl, rfl⟩, .same _, .same _, rfl, rfl⟩
  metrics := rfl
  events := List.forall₂_same.2 fun _ _ =>
    ⟨rfl, rfl, rfl, rfl, List.forall₂_same.2 fun _ _ => ⟨rfl, .same _⟩⟩
  clock := rfl
  wall := rfl

/-! ## Texts of failures -/

theorem ProcessError.Resigned.stage {e f : ProcessError} (h : e.Resigned c secret f) :
    e.stage = f.stage := by
  cases h <;> rfl

theorem ProcessError.Resigned.message {e f : ProcessError} (h : e.Resigned c secret f) :
    c.Resigned secret e.message f.message := by
  cases h with
  | same => exact .same _
  | publish e f h =>
      have hmessage := h.message.within "publish: " ""
      rw [String.append_empty, String.append_empty] at hmessage
      exact hmessage

theorem ProcessError.Resigned.chain {e f : ProcessError} (h : e.Resigned c secret f) :
    List.Forall₂ (c.Resigned secret) e.chain f.chain := by
  have hmessage := h.message
  cases h with
  | same => exact List.forall₂_same.2 fun text _ => .same text
  | publish e f h => exact .cons hmessage h.chain

/-- What is reported about a message. -/
theorem Task.event_resigned (worker : Nat) (part : Option Part)
    {result other : Except ProcessError Processed}
    (h : Alike (ProcessError.Resigned c secret) Eq result other) :
    (event worker part result).Resigned c secret (event worker part other) := by
  cases h with
  | ok done _ hdone =>
      subst hdone
      exact ⟨rfl, rfl, rfl, rfl, List.forall₂_same.2 fun field _ => ⟨rfl, .same _⟩⟩
  | error e f h =>
      refine ⟨rfl, rfl, rfl, rfl, .cons ⟨rfl, ?_⟩ (.cons ⟨rfl, .same _⟩ (.cons ⟨rfl, ?_⟩ .nil))⟩
      · rw [h.stage]
        exact .same _
      · exact .shown _ _ h.message

/-! ## One call -/

variable {n m : Network σ} {w v : World (Logged σ)}

theorem Network.Agree.find (hnet : n.Agree c secret m) (hworld : w.Resigned c secret v)
    (job : Int64) :
    ((n.logged.systems c).find job w.systems).result =
        ((m.logged.systems (c.keyed secret)).find job v.systems).result ∧
      (w.after ((n.logged.systems c).find job w.systems)).Resigned c secret
        (v.after ((m.logged.systems (c.keyed secret)).find job v.systems)) := by
  simp only [Network.systems, Network.logged, World.after, hnet.execute, hworld.state,
    hworld.statements, hworld.clock, hworld.wall]
  exact ⟨trivial, rfl, rfl, hworld.requests, hworld.metrics, hworld.events, rfl, rfl⟩

theorem Network.Agree.insert (hnet : n.Agree c secret m) (hworld : w.Resigned c secret v)
    (entry : Entry) :
    ((n.logged.systems c).insert entry w.systems).result =
        ((m.logged.systems (c.keyed secret)).insert entry v.systems).result ∧
      (w.after ((n.logged.systems c).insert entry w.systems)).Resigned c secret
        (v.after ((m.logged.systems (c.keyed secret)).insert entry v.systems)) := by
  simp only [Network.systems, Network.logged, World.after, hnet.execute, hworld.state,
    hworld.statements, hworld.clock, hworld.wall]
  exact ⟨trivial, rfl, rfl, hworld.requests, hworld.metrics, hworld.events, rfl, rfl⟩

theorem Network.Agree.publish (hnet : n.Agree c secret m) (hworld : w.Resigned c secret v)
    (announcement : Announcement) :
    Alike (c.ResignedError secret) Eq
        ((n.logged.systems c).publish announcement w.systems).result
        ((m.logged.systems (c.keyed secret)).publish announcement v.systems).result ∧
      ((n.logged.systems c).publish announcement w.systems).nanos =
        ((m.logged.systems (c.keyed secret)).publish announcement v.systems).nanos ∧
      (w.after ((n.logged.systems c).publish announcement w.systems)).Resigned c secret
        (v.after ((m.logged.systems (c.keyed secret)).publish announcement v.systems)) := by
  have hrequest := c.request_resigned secret (m.now v.systems.state) announcement
  simp only [Network.systems, Network.logged, World.after, hnet.now, hworld.state, hworld.clock,
    hworld.wall]
  generalize c.request (m.now v.systems.state) announcement = first at hrequest ⊢
  generalize (c.keyed secret).request (m.now v.systems.state) announcement = second at hrequest ⊢
  cases hrequest with
  | error e f hcause =>
      exact ⟨.error _ _ (.request e f hcause), rfl, hworld.state, hworld.statements,
        hworld.requests, hworld.metrics, hworld.events, rfl, rfl⟩
  | ok r s hsame =>
      simp only [hnet.post r s v.systems.state hsame]
      exact ⟨hsame.outcome _, trivial, rfl, hworld.statements,
        List.rel_append hworld.requests (.cons hsame .nil), hworld.metrics, hworld.events, rfl,
        rfl⟩

/-! ## One step -/

namespace Task

/-- The same phase of the handling of a message. -/
inductive Phase.Resigned (c : Client) (secret : String) : Phase → Phase → Prop where
  | received (body : Json.Bytes) : Resigned c secret (.received body) (.received body)
  | resolving (part : Part) : Resigned c secret (.resolving part) (.resolving part)
  | storing (part : Part) (log : Int64) : Resigned c secret (.storing part log) (.storing part log)
  | announcing (part : Part) (log : Int64) (row : Int) :
      Resigned c secret (.announcing part log row) (.announcing part log row)
  | ending (part : Option Part) (result other : Except ProcessError Processed)
      (h : Alike (ProcessError.Resigned c secret) Eq result other) :
      Resigned c secret (.ending part result) (.ending part other)
  | finished (result other : Except ProcessError Processed)
      (h : Alike (ProcessError.Resigned c secret) Eq result other) :
      Resigned c secret (.finished result) (.finished other)

/-- One step keeps both runs alike. -/
theorem next_resigned (hnet : n.Agree c secret m) (worker started : Nat)
    (hworld : w.Resigned c secret v) {phase other : Phase}
    (hphase : Phase.Resigned c secret phase other) :
    Phase.Resigned c secret (next (n.logged.systems c) worker started w phase).1
        (next (m.logged.systems (c.keyed secret)) worker started v other).1 ∧
      (next (n.logged.systems c) worker started w phase).2.Resigned c secret
        (next (m.logged.systems (c.keyed secret)) worker started v other).2 := by
  cases hphase with
  | received body =>
      simp only [next]
      split
      · exact ⟨.ending _ _ _ (.error _ _ (.same _)), hworld⟩
      · exact ⟨.resolving _, hworld⟩
  | resolving part =>
      obtain ⟨hresult, hafter⟩ := hnet.find hworld part.job
      simp only [next, hresult]
      split
      · exact ⟨.ending _ _ _ (.error _ _ (.same _)), hafter⟩
      · exact ⟨.storing part _, hafter⟩
  | storing part log =>
      have hentry : entry part log w.wall = entry part log v.wall := by rw [hworld.wall]
      obtain ⟨hresult, hafter⟩ := hnet.insert hworld (entry part log v.wall)
      simp only [next, hentry, hresult]
      split
      · exact ⟨.ending _ _ _ (.error _ _ (.same _)), hafter⟩
      · exact ⟨.announcing part log _, hafter⟩
  | announcing part log row =>
      obtain ⟨hresult, hnanos, hafter⟩ := hnet.publish hworld (announcement part)
      simp only [next]
      generalize (n.logged.systems c).publish (announcement part) w.systems = reply at *
      generalize (m.logged.systems (c.keyed secret)).publish (announcement part) v.systems =
        answer at *
      obtain ⟨result, nanos, wall, state⟩ := reply
      obtain ⟨result', nanos', wall', state'⟩ := answer
      obtain rfl : nanos = nanos' := hnanos
      cases hresult with
      | error e f herror =>
          refine ⟨.ending _ _ _ (.error _ _ (.publish e f herror)), hafter.state,
            hafter.statements, hafter.requests, ?_, hafter.events, hafter.clock, hafter.wall⟩
          simp only [countPublish, hworld.metrics]
      | ok a b _ =>
          refine ⟨.ending _ _ _ (.ok _ _ rfl), hafter.state, hafter.statements, hafter.requests,
            ?_, hafter.events, hafter.clock, hafter.wall⟩
          simp only [countPublish, hworld.metrics]
  | ending part result other h =>
      refine ⟨.finished _ _ h, hworld.state, hworld.statements, hworld.requests, ?_,
        List.rel_append hworld.events (.cons (event_resigned worker part h) .nil), hworld.clock,
        hworld.wall⟩
      cases h <;> simp only [next, countProcessing, hworld.metrics, hworld.clock]
  | finished result other h => exact ⟨.finished _ _ h, hworld⟩

/-! ## Whole runs -/

theorem Phase.Resigned.result {phase other : Phase} (h : Phase.Resigned c secret phase other)
    (hopen : phase.result? = none) : other.result? = none := by
  cases h with
  | finished => cases hopen
  | _ => rfl

/-- A task ends in the same way in both runs. -/
theorem finish_resigned (hnet : n.Agree c secret m) (worker started : Nat)
    (hworld : w.Resigned c secret v) {phase other : Phase}
    (hphase : Phase.Resigned c secret phase other) :
    Alike (ProcessError.Resigned c secret) Eq
        (finish (n.logged.systems c) worker started w phase).1
        (finish (m.logged.systems (c.keyed secret)) worker started v other).1 ∧
      (finish (n.logged.systems c) worker started w phase).2.Resigned c secret
        (finish (m.logged.systems (c.keyed secret)) worker started v other).2 := by
  induction hleft : phase.left using Nat.strongRecOn generalizing w v phase other with
  | ind left ih =>
      by_cases hopen : phase.result? = none
      · obtain ⟨hnext, hmoved⟩ := next_resigned hnet worker started hworld hphase
        rw [finish_of_open hopen, finish_of_open (hphase.result hopen)]
        exact ih _ (hleft ▸ next_left_lt _ _ _ _ _ (Phase.left_pos hopen)) hmoved hnext rfl
      · cases hphase with
        | finished result other h =>
            rw [finish_finished, finish_finished]
            exact ⟨h, hworld⟩
        | _ => exact absurd rfl hopen

end Task

namespace World

/-- One message is handled in the same way in both runs. -/
theorem handle_resigned (hnet : n.Agree c secret m) (worker : Nat) (body : Json.Bytes)
    (hworld : w.Resigned c secret v) :
    Alike (ProcessError.Resigned c secret) Eq (w.handle (n.logged.systems c) worker body).1
        (v.handle (m.logged.systems (c.keyed secret)) worker body).1 ∧
      (w.handle (n.logged.systems c) worker body).2.Resigned c secret
        (v.handle (m.logged.systems (c.keyed secret)) worker body).2 := by
  have hfinish := Task.finish_resigned hnet worker w.clock hworld (.received body)
  rw [handle, handle, Task.complete, Task.complete, ← hworld.clock]
  exact hfinish

/-- Handle messages one after another, and keep their results. -/
def handleEach {σ : Type} (systems : Collaborators σ) (worker : Nat) :
    List Json.Bytes → World σ → List (Except ProcessError Processed) × World σ
  | [], w => ([], w)
  | body :: bodies, w =>
    let handled := w.handle systems worker body
    let later := handleEach systems worker bodies handled.2
    (handled.1 :: later.1, later.2)

/-- Any messages are handled in the same way in both runs. -/
theorem handleEach_resigned (hnet : n.Agree c secret m) (worker : Nat) (bodies : List Json.Bytes)
    (hworld : w.Resigned c secret v) :
    List.Forall₂ (Alike (ProcessError.Resigned c secret) Eq)
        (handleEach (n.logged.systems c) worker bodies w).1
        (handleEach (m.logged.systems (c.keyed secret)) worker bodies v).1 ∧
      (handleEach (n.logged.systems c) worker bodies w).2.Resigned c secret
        (handleEach (m.logged.systems (c.keyed secret)) worker bodies v).2 := by
  induction bodies generalizing w v with
  | nil => exact ⟨.nil, hworld⟩
  | cons body bodies ih =>
      obtain ⟨hresult, hafter⟩ := handle_resigned hnet worker body hworld
      obtain ⟨hresults, hend⟩ := ih hafter
      exact ⟨.cons hresult hresults, hend⟩

end World

/-! ## Workers that take turns -/

/-- The same message in the hands of the same worker, handled alike so far. -/
structure Task.Resigned (c : Client) (secret : String) (t u : Task) : Prop where
  worker : t.worker = u.worker
  started : t.started = u.started
  phase : Phase.Resigned c secret t.phase u.phase

/-- One step of a task inside the span of its worker. -/
theorem Task.stepInSpan_resigned (hnet : n.Agree c secret m) (worker : Nat) {t u : Task}
    (ht : t.Resigned c secret u) (hworld : w.Resigned c secret v) :
    (stepInSpan (n.logged.systems c) worker t w).1.Resigned c secret
        (stepInSpan (m.logged.systems (c.keyed secret)) worker u v).1 ∧
      (stepInSpan (n.logged.systems c) worker t w).2.Resigned c secret
        (stepInSpan (m.logged.systems (c.keyed secret)) worker u v).2 := by
  have hsilent : World.Resigned c secret { w with events := [] } { v with events := [] } :=
    ⟨hworld.state, hworld.statements, hworld.requests, hworld.metrics, .nil, hworld.clock,
      hworld.wall⟩
  obtain ⟨hphase, hmoved⟩ := next_resigned hnet t.worker t.started hsilent ht.phase
  rw [ht.worker, ht.started] at hphase hmoved
  simp only [stepInSpan, step, ht.worker, ht.started]
  refine ⟨⟨rfl, rfl, hphase⟩, hmoved.state, hmoved.statements, hmoved.requests,
    hmoved.metrics, ?_, hmoved.clock, hmoved.wall⟩
  refine List.rel_append hworld.events ?_
  rw [List.forall₂_map_left_iff, List.forall₂_map_right_iff]
  exact hmoved.events.imp fun _ _ h => h.within _

/-- The processors of both clients do alike. -/
theorem logPartProcessor_mirrors (hnet : n.Agree c secret m) :
    (logPartProcessor (n.logged.systems c)).Mirrors
      (logPartProcessor (m.logged.systems (c.keyed secret))) (Task.Resigned c secret)
      (World.Resigned c secret) where
  start worker message _ _ hworld := ⟨rfl, hworld.clock, .received message.body⟩
  step worker _ _ _ _ ht hworld := Task.stepInSpan_resigned hnet worker ht hworld
  outcome {t u} ht := by
    obtain ⟨_, _, phase⟩ := t
    obtain ⟨_, _, other⟩ := u
    have hphase : Task.Phase.Resigned c secret phase other := ht.phase
    cases hphase <;> rfl

namespace Pusher

/-! ## Two configurations -/

/-- An announcement, when it is made, and what becomes of its request. -/
structure Call where
  now : Int
  announcement : Announcement
  reply : Except String Answer

/-- The request for an announcement, and how the announcement ends. -/
def Client.perform (c : Client) (call : Call) :
    Except RequestError Request × Except BroadcastError Unit :=
  (c.request call.now call.announcement,
    c.publish call.now call.announcement fun _ => call.reply)

/-- A client is told from the one with another secret by the value of the signature only: by its
description, by its requests and by how they end, in a row of announcements, and by the results,
the texts of the errors, the requests and the events of a pipeline that uses it, whether it handles
messages one after another or with several workers that take turns in any way. -/
structure Client.Hides (c : Client) (secret : String) : Prop where
  describe : c.describe = (c.keyed secret).describe
  perform : ∀ calls : List Call,
    List.Forall₂ (fun one other =>
        Alike (c.ResignedCause secret) (c.ResignedRequest secret) one.1 other.1 ∧
          Alike (fun e f => c.ResignedError secret e f ∧
            List.Forall₂ (c.Resigned secret) e.chain f.chain) Eq one.2 other.2)
      (calls.map c.perform) (calls.map (c.keyed secret).perform)
  handle : ∀ {σ : Type} (n m : Network σ), n.Agree c secret m → ∀ (worker : Nat)
    (bodies : List Json.Bytes) (w : World (Logged σ)),
    List.Forall₂ (Alike (fun e f => e.Resigned c secret f ∧
          List.Forall₂ (c.Resigned secret) e.chain f.chain) Eq)
        (World.handleEach (n.logged.systems c) worker bodies w).1
        (World.handleEach (m.logged.systems (c.keyed secret)) worker bodies w).1 ∧
      (World.handleEach (n.logged.systems c) worker bodies w).2.Resigned c secret
        (World.handleEach (m.logged.systems (c.keyed secret)) worker bodies w).2
  serve : ∀ {σ : Type} (n m : Network σ), n.Agree c secret m → ∀ (workers : Nat)
    (w : World (Logged σ)) (labels : List Broker.Pool.Label),
    Option.Rel (Broker.Pool.Paired (Task.Resigned c secret) (World.Resigned c secret))
      ((Broker.Pool.start workers w).run (logPartProcessor (n.logged.systems c)) labels)
      ((Broker.Pool.start workers w).run (logPartProcessor (m.logged.systems (c.keyed secret)))
        labels)

/-- Each announcement makes the same request and ends in the same way. -/
theorem Client.perform_resigned (c : Client) (secret : String) (call : Call) :
    Alike (c.ResignedCause secret) (c.ResignedRequest secret) (c.perform call).1
        ((c.keyed secret).perform call).1 ∧
      Alike (fun e f => c.ResignedError secret e f ∧
        List.Forall₂ (c.Resigned secret) e.chain f.chain) Eq (c.perform call).2
        ((c.keyed secret).perform call).2 := by
  have hrequest := c.request_resigned secret call.now call.announcement
  have hpublish : Alike (c.ResignedError secret) Eq
      (c.publish call.now call.announcement fun _ => call.reply)
      ((c.keyed secret).publish call.now call.announcement fun _ => call.reply) :=
    c.publish_resigned call.now call.announcement fun _ _ _ => rfl
  simp only [Client.perform]
  exact ⟨hrequest, hpublish.imp fun h => ⟨h, h.chain⟩⟩

theorem Client.hides (c : Client) (secret : String) : c.Hides secret where
  describe := rfl
  perform calls := by
    rw [List.forall₂_map_left_iff, List.forall₂_map_right_iff, List.forall₂_same]
    intro call _
    exact c.perform_resigned secret call
  handle n m hnet worker bodies w := by
    obtain ⟨hresults, hworld⟩ := World.handleEach_resigned hnet worker bodies (.refl w)
    exact ⟨hresults.imp fun _ _ h => h.imp fun h => ⟨h, h.chain⟩, hworld⟩
  serve _ _ hnet workers w labels :=
    (Broker.Pool.paired_start workers (.refl w)).run (logPartProcessor_mirrors hnet) labels

/-- Two configurations that differ in a secret that is not blank have the same description, and
their clients cannot be built for the same reason or differ in the value of the signature only. -/
theorem secret_in_signature_only (config : PusherConfig) (secret : String)
    (hfirst : Text.allBlank config.secret = false) (hsecond : Text.allBlank secret = false) :
    { config with secret := secret }.describe = config.describe ∧
      ((∃ credential, Client.build config = .error (.missingCredential credential) ∧
          Client.build { config with secret := secret } =
            .error (.missingCredential credential)) ∨
        ∃ c : Client, Client.build config = .ok c ∧
          Client.build { config with secret := secret } = .ok (c.keyed secret) ∧
          c.Hides secret) := by
  refine ⟨rfl, ?_⟩
  simp only [Client.build, hfirst, hsecond, Bool.false_eq_true, if_false]
  split
  · exact .inl ⟨.key, rfl, rfl⟩
  · split
    · exact .inl ⟨.appId, rfl, rfl⟩
    · exact .inr ⟨_, rfl, rfl, Client.hides _ secret⟩

/-- Credentials for the public service. -/
def hosted : PusherConfig :=
  ⟨"key", "secret", "1234", "https://api.pusherapp.com", 3, 5⟩

/-- Where nothing can be reached, requests with any signatures get the same reply. -/
theorem agree_absent (c : Client) (secret reason : String) (now : Int) :
    (Network.absent reason now).Agree c secret (Network.absent reason now) :=
  ⟨rfl, rfl, fun _ _ _ _ => rfl⟩

theorem secret_in_signature_only_hosted :
    Text.allBlank hosted.secret = false ∧ Text.allBlank "other" = false ∧
      ∃ c : Client, Client.build hosted = .ok c ∧
        Client.build { hosted with secret := "other" } = .ok (c.keyed "other") ∧
        c.Hides "other" ∧
        (Network.absent "refused" 0).Agree c "other" (Network.absent "refused" 0) := by
  have hfirst : Text.allBlank hosted.secret = false := by decide
  have hsecond : Text.allBlank "other" = false := by decide
  refine ⟨hfirst, hsecond, ?_⟩
  rcases (secret_in_signature_only hosted "other" hfirst hsecond).2 with
    ⟨credential, hbuild, -⟩ | ⟨c, hbuild, hother, hhides⟩
  · have hbuilt : Client.build hosted = .ok (.ofConfig hosted) := rfl
    rw [hbuilt] at hbuild
    cases hbuild
  · exact ⟨c, hbuild, hother, hhides, agree_absent c "other" "refused" 0⟩

end Pusher

end JobLog
