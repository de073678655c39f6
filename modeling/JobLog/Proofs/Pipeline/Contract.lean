import JobLog.Proofs.Pipeline.Handling
import Mathlib.Algebra.GroupWithZero.Nat
import Mathlib.Algebra.Order.BigOperators.Group.List
import Mathlib.Algebra.Order.Group.Nat
import Mathlib.Data.List.Induction

/-!
# The calls that handling a message makes

The handling of a message calls other systems, and every call goes into a record here: `Traced` are
the systems with this record, which nobody reads (`Task.finish_plain`). Whatever the systems answer
and however long they take, the record is one of six: no call for a body that is no part, else the
lookup, the insertion and the announcement in this order up to the first that fails (`Task.Ends`).
What is returned and what is measured follow from the record: `World.handle_contract`.
-/

namespace JobLog

open Json (Bytes)

variable {σ : Type}

namespace Task

/-- A call to one of the systems: what it was asked, what it answered and how long it took. -/
inductive Call where
  | find (job : Int64) (answer : Except StoreError Int64) (nanos : Nat)
  | insert (entry : Entry) (answer : Except StoreError Int) (nanos : Nat)
  | publish (announcement : Announcement) (answer : Except BroadcastError Unit) (nanos : Nat)

namespace Call

/-- How long a call took. -/
def nanos : Call → Nat
  | .find _ _ nanos | .insert _ _ nanos | .publish _ _ nanos => nanos

/-- The step that a call belongs to. -/
def stage : Call → Stage
  | .find .. => .resolve
  | .insert .. => .persist
  | .publish .. => .publish

/-- Whether a call was answered as it was hoped for. -/
def succeeded : Call → Bool
  | .find _ answer _ => answer.isOk
  | .insert _ answer _ => answer.isOk
  | .publish _ answer _ => answer.isOk

end Call

/-- The time spent in calls. -/
def spent (calls : List Call) : Nat :=
  (calls.map Call.nanos).sum

/-- What the last of some calls tells about the failure of a message; without calls its body is no
part. Only a missing log is told apart from a store that gives no answer. -/
def failure (calls : List Call) : Stage × ProcessError.Kind :=
  match calls.getLast? with
  | none => (.parse, .parse)
  | some (.find _ (.error (.notFound _)) _) => (.resolve, .notFound)
  | some (.find ..) => (.resolve, .store)
  | some (.insert ..) => (.persist, .store)
  | some (.publish ..) => (.publish, .broadcast)

/-- `Answered systems s calls t` says that from the state `s` on the systems answer these calls so,
one after another, and are left in the state `t`. -/
inductive Answered (systems : Collaborators σ) (s : σ) : List Call → σ → Prop where
  | none : Answered systems s [] s
  | find {calls : List Call} {t : σ} (job : Int64) (before : Answered systems s calls t) :
      Answered systems s
        (calls ++ [.find job (systems.find job t).result (systems.find job t).nanos])
        (systems.find job t).state
  | insert {calls : List Call} {t : σ} (entry : Entry) (before : Answered systems s calls t) :
      Answered systems s
        (calls ++ [.insert entry (systems.insert entry t).result (systems.insert entry t).nanos])
        (systems.insert entry t).state
  | publish {calls : List Call} {t : σ} (announcement : Announcement)
      (before : Answered systems s calls t) :
      Answered systems s
        (calls ++ [.publish announcement (systems.publish announcement t).result
          (systems.publish announcement t).nanos])
        (systems.publish announcement t).state

/-- `Ends body dated calls result` says that the handling of a body makes these calls and ends with
this result, where `dated job` is the date after the lookup of a job's log. -/
inductive Ends (body : Bytes) (dated : Int64 → Moment) :
    List Call → Except ProcessError Processed → Prop where
  | malformed {cause : Json.Refusal} (hparse : Part.parse body = .error cause) :
      Ends body dated [] (.error (.parse cause))
  | orphaned {part : Part} {job : Int64} {n : Nat} (hparse : Part.parse body = .ok part) :
      Ends body dated [.find part.job (.error (.notFound job)) n] (.error (.notFound job))
  | unresolved {part : Part} {cause : StoreError} {n : Nat} (hparse : Part.parse body = .ok part)
      (hcause : ∀ job, cause ≠ .notFound job) :
      Ends body dated [.find part.job (.error cause) n] (.error (.resolve cause))
  | unstored {part : Part} {log : Int64} {cause : StoreError} {n m : Nat}
      (hparse : Part.parse body = .ok part) :
      Ends body dated
        [.find part.job (.ok log) n,
          .insert ⟨log, part.number, part.content, part.isFinal, dated part.job⟩ (.error cause) m]
        (.error (.persist cause))
  | unannounced {part : Part} {log : Int64} {row : Int} {cause : BroadcastError} {n m k : Nat}
      (hparse : Part.parse body = .ok part) :
      Ends body dated
        [.find part.job (.ok log) n,
          .insert ⟨log, part.number, part.content, part.isFinal, dated part.job⟩ (.ok row) m,
          .publish
            ⟨"job-" ++ toString part.job.toInt, "job:log",
              Json.Value.render (.object
                [("id", .integer part.job.toInt), ("number", .integer part.number.toInt),
                  ("_log", .text part.content), ("final", .flag part.isFinal)])⟩
            (.error cause) k]
        (.error (.publish cause))
  | delivered {part : Part} {log : Int64} {row : Int} {n m k : Nat}
      (hparse : Part.parse body = .ok part) :
      Ends body dated
        [.find part.job (.ok log) n,
          .insert ⟨log, part.number, part.content, part.isFinal, dated part.job⟩ (.ok row) m,
          .publish
            ⟨"job-" ++ toString part.job.toInt, "job:log",
              Json.Value.render (.object
                [("id", .integer part.job.toInt), ("number", .integer part.number.toInt),
                  ("_log", .text part.content), ("final", .flag part.isFinal)])⟩
            (.ok ()) k]
        (.ok ⟨row, log, part.job, part.number, part.isFinal⟩)

namespace Ends

variable {body : Bytes} {dated : Int64 → Moment} {calls : List Call}
  {result : Except ProcessError Processed}

/-- Calls are made in a fixed order, each at most once. -/
theorem order (h : Ends body dated calls result) :
    calls.map Call.stage <+: [.resolve, .persist, .publish] := by
  cases h with
  | malformed => exact List.nil_prefix
  | orphaned | unresolved => exact ⟨[.persist, .publish], rfl⟩
  | unstored => exact ⟨[.publish], rfl⟩
  | unannounced | delivered => exact List.prefix_refl _

/-- No call is made after one that has failed. -/
theorem fail_fast (h : Ends body dated calls result) :
    ∀ call ∈ calls.dropLast, call.succeeded = true := by
  cases h with
  | malformed | orphaned | unresolved => exact nofun
  | unstored | unannounced | delivered => simp [Call.succeeded, Except.isOk, Except.toBool]

/-- No call is made for a body that is no part. -/
theorem parses (h : Ends body dated calls result) (hsome : calls ≠ []) :
    ∃ part, Part.parse body = .ok part := by
  cases h with
  | malformed => exact absurd rfl hsome
  | orphaned hparse | unresolved hparse | unstored hparse | unannounced hparse
  | delivered hparse => exact ⟨_, hparse⟩

/-- A message is handled with success if and only if all three calls were made with success. -/
theorem isOk_iff (h : Ends body dated calls result) :
    result.isOk = true ↔ calls.length = 3 ∧ ∀ call ∈ calls, call.succeeded = true := by
  cases h <;> simp [Call.succeeded, Except.isOk, Except.toBool]

/-- The error of a message tells which step has failed and what kind of thing went wrong. -/
theorem failure_eq {e : ProcessError} (h : Ends body dated calls (.error e)) :
    (e.stage, e.kind) = failure calls := by
  cases h with
  | @unresolved part cause n hparse hcause =>
      cases cause with
      | notFound job => exact absurd rfl (hcause job)
      | query | unavailable => rfl
  | malformed | orphaned | unstored | unannounced => rfl

end Ends

end Task

/-! ## Systems with a record -/

/-- Systems with the record of the calls to them. -/
structure Traced (σ : Type) where
  state : σ
  calls : List Task.Call

/-- Systems that record every call to them. -/
def Collaborators.traced (systems : Collaborators σ) : Collaborators (Traced σ) where
  find job s :=
    let reply := systems.find job s.state
    ⟨reply.result, reply.nanos, reply.wall,
      ⟨reply.state, s.calls ++ [.find job reply.result reply.nanos]⟩⟩
  insert entry s :=
    let reply := systems.insert entry s.state
    ⟨reply.result, reply.nanos, reply.wall,
      ⟨reply.state, s.calls ++ [.insert entry reply.result reply.nanos]⟩⟩
  publish announcement s :=
    let reply := systems.publish announcement s.state
    ⟨reply.result, reply.nanos, reply.wall,
      ⟨reply.state, s.calls ++ [.publish announcement reply.result reply.nanos]⟩⟩

/-- A world whose record of calls is still empty. -/
def World.traced (w : World σ) : World (Traced σ) :=
  { w with systems := ⟨w.systems, []⟩ }

/-- A world without the record of calls. -/
def World.plain (w : World (Traced σ)) : World σ :=
  { w with systems := w.systems.state }

namespace Task

variable {systems : Collaborators σ} {body : Bytes} {before : World σ} {worker started : Nat}
  {w : World (Traced σ)} {phase : Phase}

/-- The metrics after some calls. -/
def counted (m : Metrics) (calls : List Call) : Metrics :=
  calls.foldl (fun m call =>
    match call with
    | .publish _ answer nanos => countPublish m nanos answer
    | .find .. | .insert .. => m) m

theorem counted_concat (m : Metrics) (calls : List Call) (call : Call) :
    counted m (calls ++ [call]) =
      match call with
      | .publish _ answer nanos => countPublish (counted m calls) nanos answer
      | .find .. | .insert .. => counted m calls := by
  rw [counted, List.foldl_append]
  rfl

/-- The calls that have led to a phase of the handling of a body. -/
def Phase.After (body : Bytes) (dated : Int64 → Moment) (calls : List Call) : Phase → Prop
  | .received given => given = body ∧ calls = []
  | .resolving part => Part.parse body = .ok part ∧ calls = []
  | .storing part log =>
    Part.parse body = .ok part ∧ ∃ n, calls = [.find part.job (.ok log) n]
  | .announcing part log row =>
    Part.parse body = .ok part ∧ ∃ n m,
      calls = [.find part.job (.ok log) n,
        .insert ⟨log, part.number, part.content, part.isFinal, dated part.job⟩ (.ok row) m]
  | .ending _ result | .finished result => Ends body dated calls result

/-- What is known of the date at a phase of a handling that was begun in the world `before`. -/
def Phase.Dated (systems : Collaborators σ) (before : World σ) (w : World (Traced σ)) : Phase → Prop
  | .received _ | .resolving _ => w.systems.state = before.systems ∧ w.wall = before.wall
  | .storing part _ => w.wall = (systems.find part.job before.systems).wall before.wall
  | _ => True

/-- The metrics at a phase that some calls have led to. -/
def Phase.counted (m : Metrics) (calls : List Call) : Phase → Metrics
  | .finished result => countProcessing (Task.counted m calls) (spent calls) result
  | _ => Task.counted m calls

/-- The handling of a body, begun in the world `before`, has come to a phase. -/
structure Underway (systems : Collaborators σ) (body : Bytes) (before : World σ) (phase : Phase)
    (w : World (Traced σ)) : Prop where
  after : phase.After body (fun job => (systems.find job before.systems).wall before.wall)
    w.systems.calls
  answered : Answered systems before.systems w.systems.calls w.systems.state
  clock : w.clock = before.clock + spent w.systems.calls
  date : phase.Dated systems before w
  metrics : w.metrics = phase.counted before.metrics w.systems.calls

theorem spent_concat (calls : List Call) (call : Call) :
    spent (calls ++ [call]) = spent calls + call.nanos := by
  simp [spent]

/-- A failed lookup ends the handling of a message. -/
theorem ends_ofLookup {dated : Int64 → Moment} {part : Part} {cause : StoreError} {n : Nat}
    (hparse : Part.parse body = .ok part) :
    Ends body dated [.find part.job (.error cause) n] (.error (.ofLookup cause)) := by
  cases cause with
  | notFound job => exact .orphaned hparse
  | query | unavailable => exact .unresolved hparse nofun

theorem counted_find (m : Metrics) (calls : List Call) (job : Int64)
    (answer : Except StoreError Int64) (n : Nat) :
    counted m (calls ++ [.find job answer n]) = counted m calls :=
  counted_concat ..

theorem counted_insert (m : Metrics) (calls : List Call) (entry : Entry)
    (answer : Except StoreError Int) (n : Nat) :
    counted m (calls ++ [.insert entry answer n]) = counted m calls :=
  counted_concat ..

theorem counted_publish (m : Metrics) (calls : List Call) (announcement : Announcement)
    (answer : Except BroadcastError Unit) (n : Nat) :
    counted m (calls ++ [.publish announcement answer n]) = countPublish (counted m calls) n answer :=
  counted_concat ..

/-- A step makes the next call. -/
theorem Underway.next (h : Underway systems body before phase w) :
    Underway systems body before (next systems.traced worker before.clock w phase).1
      (next systems.traced worker before.clock w phase).2 := by
  obtain ⟨hafter, hanswered, hclock, hdate, hmetrics⟩ := h
  -- In every phase the record and the state of the systems grow by the same call; what differs is
  -- whether its answer ends the handling.
  have htime (call : Call) :
      w.clock + call.nanos = before.clock + spent (w.systems.calls ++ [call]) := by
    rw [spent_concat, hclock, Nat.add_assoc]
  cases phase with
  | received given =>
      obtain ⟨rfl, hcalls⟩ := hafter
      cases hparse : Part.parse given with
      | error cause =>
          simp only [Task.next, hparse]
          exact ⟨hcalls ▸ .malformed hparse, hanswered, hclock, trivial, hmetrics⟩
      | ok part =>
          simp only [Task.next, hparse]
          exact ⟨⟨hparse, hcalls⟩, hanswered, hclock, hdate, hmetrics⟩
  | resolving part =>
      obtain ⟨hparse, hcalls⟩ := hafter
      have hnext := Answered.find part.job hanswered
      have hfound : (systems.find part.job w.systems.state).wall w.wall =
          (systems.find part.job before.systems).wall before.wall := by rw [hdate.1, hdate.2]
      cases hfind : systems.find part.job w.systems.state with
      | mk answer n wall state =>
          rw [hfind] at hfound
          simp only [Task.next, Collaborators.traced, hfind] at hnext ⊢
          have hcounted := hmetrics.trans (counted_find before.metrics _ part.job answer n).symm
          cases answer with
          | error cause =>
              refine ⟨?_, hnext, htime (.find part.job (.error cause) n), trivial, hcounted⟩
              show Ends body _ (w.systems.calls ++ [.find part.job (.error cause) n]) _
              rw [hcalls]
              exact ends_ofLookup hparse
          | ok log =>
              refine ⟨⟨hparse, n, ?_⟩, hnext, htime (.find part.job (.ok log) n), hfound, hcounted⟩
              show w.systems.calls ++ [.find part.job (.ok log) n] = _
              rw [hcalls]
              rfl
  | storing part log =>
      obtain ⟨hparse, first, hcalls⟩ := hafter
      have hnext := Answered.insert (entry part log w.wall) hanswered
      cases hinsert : systems.insert (entry part log w.wall) w.systems.state with
      | mk answer n wall state =>
          simp only [Task.next, Collaborators.traced, hinsert] at hnext ⊢
          have hcounted := hmetrics.trans
            (counted_insert before.metrics _ (entry part log w.wall) answer n).symm
          cases answer with
          | error cause =>
              refine ⟨?_, hnext, htime (.insert _ (.error cause) n), trivial, hcounted⟩
              show Ends body _ (w.systems.calls ++ [.insert _ (.error cause) n]) _
              rw [hcalls, hdate]
              exact .unstored hparse
          | ok row =>
              refine ⟨⟨hparse, first, n, ?_⟩, hnext, htime (.insert _ (.ok row) n), trivial, hcounted⟩
              show w.systems.calls ++ [.insert _ (.ok row) n] = _
              rw [hcalls, hdate]
              rfl
  | announcing part log row =>
      obtain ⟨hparse, first, second, hcalls⟩ := hafter
      have hnext := Answered.publish (announcement part) hanswered
      cases hpublish : systems.publish (announcement part) w.systems.state with
      | mk answer n wall state =>
          simp only [Task.next, Collaborators.traced, hpublish] at hnext ⊢
          have hcounted := counted_publish before.metrics w.systems.calls (announcement part) answer n
          cases answer with
          | error cause =>
              refine ⟨?_, hnext, htime (.publish _ (.error cause) n), trivial, ?_⟩
              · show Ends body _ (w.systems.calls ++ [.publish _ (.error cause) n]) _
                rw [hcalls]
                exact .unannounced hparse
              · exact (congrArg (countPublish · n _) hmetrics).trans hcounted.symm
          | ok done =>
              refine ⟨?_, hnext, htime (.publish _ (.ok done) n), trivial, ?_⟩
              · show Ends body _ (w.systems.calls ++ [.publish _ (.ok done) n]) _
                rw [hcalls]
                exact .delivered hparse
              · exact (congrArg (countPublish · n _) hmetrics).trans hcounted.symm
  | ending part result =>
      refine ⟨hafter, hanswered, hclock, trivial, ?_⟩
      show countProcessing w.metrics (w.clock - before.clock) result = _
      rw [hmetrics, hclock, Nat.add_sub_cancel_left]
      rfl
  | finished result => exact ⟨hafter, hanswered, hclock, trivial, hmetrics⟩

/-- A run makes all calls. -/
theorem Underway.finish (h : Underway systems body before phase w) :
    Underway systems body before (.finished (finish systems.traced worker before.clock w phase).1)
      (finish systems.traced worker before.clock w phase).2 := by
  fun_induction Task.finish systems.traced worker before.clock w phase with
  | case1 w phase result hresult =>
      cases phase with
      | finished =>
          cases hresult
          exact h
      | received | resolving | storing | announcing | ending => cases hresult
  | case2 w phase hopen ih => exact ih h.next

/-- What a message is handled by and what comes of it: `calls` are made in a fixed order, each at
most once and none after one that has failed, and what was asked and is returned are the fields of
the part, its log and its row, or the error of the step that has failed. -/
structure Conforms (body : Bytes) (dated : Int64 → Moment) (calls : List Call)
    (result : Except ProcessError Processed) : Prop where
  order : calls.map Call.stage <+: [.resolve, .persist, .publish]
  fail_fast : ∀ call ∈ calls.dropLast, call.succeeded = true
  parses : calls ≠ [] → ∃ part, Part.parse body = .ok part
  ends : Ends body dated calls result
  isOk_iff : result.isOk = true ↔ calls.length = 3 ∧ ∀ call ∈ calls, call.succeeded = true
  failure_eq : ∀ e, result = .error e → (e.stage, e.kind) = failure calls

theorem Ends.conforms {dated : Int64 → Moment} {calls : List Call}
    {result : Except ProcessError Processed} (h : Ends body dated calls result) :
    Conforms body dated calls result where
  order := h.order
  fail_fast := h.fail_fast
  parses := h.parses
  ends := h
  isOk_iff := h.isOk_iff
  failure_eq _ he := (he ▸ h).failure_eq

end Task

namespace World

end World

end JobLog
