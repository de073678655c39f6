import JobLog.Pipeline.Processor
import JobLog.Proofs.Pool.Images

/-!
# The spans that threads are in

Nobody passes the values of a span to an event. Every thread has a stack of the spans it has
entered: a span lies inside the one that was current when it was opened, values are recorded in
whichever span is current, and what a thread reports lies in its current span and those around it. A
worker has no thread of its own. It takes its turns on whichever threads it is given, enters its own
span and that of its message at the beginning of each turn, and leaves them at its end, because
others take their turns before its next one.

`spannedProcessor` handles log parts in this way. No turn leaves anything behind on a thread, and
the span of a message holds the values of this message from its first turn on
(`SpannedTask.Own.step`). So all turns of all workers do what `Task.stepInSpan` does, where spans
are put around events by the values of the task itself: `spanned_run`.
-/

namespace JobLog

/-! ## Spans and threads -/

/-- A span with the numbers of the spans around it, outermost first. -/
structure OpenedSpan where
  span : Event.Span
  outer : List Nat

/-- The spans that have been opened, by number, and those that each thread has entered and not left
yet, the last one first. -/
structure Spans where
  opened : List OpenedSpan
  entered : Nat → List Nat

namespace Spans

/-- Change what one thread has entered. -/
def onThread (s : Spans) (thread : Nat) (f : List Nat → List Nat) : Spans :=
  { s with entered := fun other => if other = thread then f (s.entered other) else s.entered other }

/-- A thread enters a span. -/
def enter (s : Spans) (thread n : Nat) : Spans :=
  s.onThread thread (n :: ·)

/-- A thread leaves the span with this number that it entered last. -/
def leave (s : Spans) (thread n : Nat) : Spans :=
  s.onThread thread (·.erase n)

/-- The numbers of the current span of a thread and of the spans around it, outermost first. -/
def path (s : Spans) (thread : Nat) : List Nat :=
  match (s.entered thread).head? with
  | none => []
  | some n => (s.opened[n]?.map OpenedSpan.outer).getD [] ++ [n]

/-- The spans around what a thread reports, outermost first. -/
def around (s : Spans) (thread : Nat) : List Event.Span :=
  (s.path thread).filterMap fun n => s.opened[n]?.map OpenedSpan.span

/-- Open a span without values inside the current span of a thread. -/
def create (s : Spans) (thread : Nat) (name : String) : Spans :=
  { s with opened := s.opened ++ [⟨⟨name, []⟩, s.path thread⟩] }

/-- Record values in the current span of a thread. -/
def record (s : Spans) (thread : Nat) (fields : Event.Fields) : Spans :=
  match (s.entered thread).head? with
  | none => s
  | some n =>
    { s with opened := s.opened.modify n fun o =>
        { o with span := { o.span with fields := o.span.fields ++ fields } } }

/-- Record the values of a part as soon as it has been read. -/
def recordRead (s : Spans) (thread : Nat) (before after : Task.Phase) : Spans :=
  match before, after with
  | .received _, .resolving part =>
    s.record thread
      [("job_id", .integer part.job.toInt), ("number", .integer part.number.toInt)]
  | _, _ => s

/-- The spans of some workers, which no thread has entered. -/
def ofWorkers (workers : Nat) : Spans :=
  ⟨(List.range workers).map fun worker => ⟨workerSpan worker, []⟩, fun _ => []⟩

end Spans

/-! ## Turns -/

/-- The world and its spans after some turns of workers. -/
structure Scene (σ : Type) where
  world : World σ
  spans : Spans
  turns : Nat

/-- A world in which the workers have not begun. -/
def Scene.begin {σ : Type} (workers : Nat) (w : World σ) : Scene σ :=
  ⟨w, .ofWorkers workers, 0⟩

/-- A task and the number of its span, which is opened by its first turn. -/
structure SpannedTask where
  task : Task
  span? : Option Nat

namespace SpannedTask

variable {σ : Type}

/-- The number of a task's span, and the spans after this has been opened. -/
def begin (t : SpannedTask) (thread : Nat) (s : Spans) : Nat × Spans :=
  match t.span? with
  | some n => (n, s)
  | none => (s.opened.length, s.create thread "log_part")

/-- One turn of a worker with a task. `threads` tells on which thread each turn is taken. -/
def step (systems : Collaborators σ) (threads : Nat → Nat) (worker : Nat) (t : SpannedTask)
    (s : Scene σ) : SpannedTask × Scene σ :=
  let thread := threads s.turns
  let begun := t.begin thread (s.spans.enter thread worker)
  let moved := t.task.step systems { s.world with events := [] }
  let spans := (begun.2.enter thread begun.1).recordRead thread t.task.phase moved.1.phase
  (⟨moved.1, some begun.1⟩,
    { world := { moved.2 with
        events := s.world.events ++
          moved.2.events.map fun event => { event with spans := spans.around thread } }
      spans := (spans.leave thread begun.1).leave thread worker
      turns := s.turns + 1 })

end SpannedTask

/-- The processors of a pool; the one at each place knows itself by an index. -/
def indexedProcessor {σ : Type} (systems : Collaborators σ) (index : Nat → Nat) :
    Broker.Processor Task (World σ) :=
  { logPartProcessor systems with
    start := fun worker message w => Task.start (index worker) w.clock message.body }

namespace Task

variable {σ : Type} {body : Json.Bytes} {phase : Phase}

/-- A phase that the handling of a body can have. -/
def Phase.Fits (body : Json.Bytes) : Phase → Prop
  | .received given => given = body
  | .resolving part | .storing part _ | .announcing part _ _ => Part.parse body = .ok part
  | .ending part _ => part = (Part.parse body).toOption
  | .finished _ => True

theorem Phase.Fits.next (h : phase.Fits body) (systems : Collaborators σ) (worker started : Nat)
    (w : World σ) : (next systems worker started w phase).1.Fits body := by
  cases phase with
  | received given =>
      obtain rfl : given = body := h
      cases hparse : Part.parse given with
      | error cause =>
          simp only [Task.next, hparse, Fits]
          rfl
      | ok part =>
          simp only [Task.next, hparse]
          exact hparse
  | resolving part | storing part log | announcing part log row =>
      have hparse : Part.parse body = .ok part := h
      have hend : some part = (Part.parse body).toOption := by rw [hparse]; rfl
      simp only [Task.next]
      split
      · exact hend
      · first
          | exact hparse
          | exact hend
  | ending part result | finished result => exact trivial

/-- A body is read by the first step. -/
theorem next_ne_received (systems : Collaborators σ) (worker started : Nat) (w : World σ)
    (phase : Phase) (given : Json.Bytes) :
    (next systems worker started w phase).1 ≠ .received given := by
  intro h
  cases phase with
  | ending part result | finished result => cases h
  | received | resolving | storing | announcing =>
      simp only [next] at h
      split at h <;> cases h

/-- What a step of a phase reports. -/
def Phase.reports (worker : Nat) : Phase → List Event
  | .ending part result => [event worker part result]
  | _ => []

theorem next_events (systems : Collaborators σ) (worker started : Nat) (w : World σ)
    (phase : Phase) :
    (next systems worker started w phase).2.events = w.events ++ phase.reports worker := by
  cases phase with
  | ending part result => rfl
  | finished result => exact (List.append_nil _).symm
  | received | resolving | storing | announcing =>
      simp only [next]
      split <;> exact (List.append_nil _).symm

/-- An event inside the span of its message and that of a worker. -/
theorem Phase.Fits.map_reports (h : phase.Fits body) (index worker : Nat) :
    (phase.reports index).map (fun event =>
        { event with spans := [workerSpan worker, span (Part.parse body).toOption] }) =
      (phase.reports index).map (Event.within (workerSpan worker)) := by
  cases phase with
  | ending part result =>
      obtain rfl : part = (Part.parse body).toOption := h
      cases result <;> rfl
  | received | resolving | storing | announcing | finished => rfl

end Task

namespace Spans

variable {before inside : Spans} {thread worker own : Nat} {span workers : Event.Span}

/-- In a turn on a thread: the thread is in the span of a message, which lies inside that of its
worker, other threads are where they were, and so are all spans from before the turn. -/
structure Inside (before inside : Spans) (thread worker own : Nat) (span : Event.Span) : Prop where
  entered : inside.entered thread = [own, worker]
  others : ∀ other, other ≠ thread → inside.entered other = before.entered other
  grows : ∀ {n : Nat} {o : OpenedSpan}, before.opened[n]? = some o → inside.opened[n]? = some o
  own : inside.opened[own]? = some ⟨span, [worker]⟩

/-- At the end of a turn every thread is where it was. -/
theorem Inside.left (h : Inside before inside thread worker own span)
    (hleft : before.entered thread = []) (other : Nat) :
    ((inside.leave thread own).leave thread worker).entered other = before.entered other := by
  simp only [leave, onThread]
  by_cases hother : other = thread
  · subst hother
    rw [if_pos rfl, if_pos rfl, h.entered, List.erase_cons_head, List.erase_cons_head, hleft]
  · rw [if_neg hother, if_neg hother, h.others other hother]

/-- What is reported in a turn lies in the spans of the worker and of its message. -/
theorem Inside.around (h : Inside before inside thread worker own span)
    (hworker : before.opened[worker]? = some ⟨workers, []⟩) :
    inside.around thread = [workers, span] := by
  have hpath : inside.path thread = [worker, own] := by
    rw [path, h.entered]
    simp only [List.head?_cons, h.own, Option.map_some, Option.getD_some, List.cons_append,
      List.nil_append]
  rw [Spans.around, hpath]
  simp only [List.filterMap_cons, h.grows hworker, h.own, Option.map_some, List.filterMap_nil]

/-- A turn with a message whose span is open. -/
theorem inside_of_opened (hleft : before.entered thread = [])
    (hown : before.opened[own]? = some ⟨span, [worker]⟩) :
    Inside before ((before.enter thread worker).enter thread own) thread worker own span where
  entered := by simp only [enter, onThread, if_true, hleft]
  others other hother := by simp only [enter, onThread, if_neg hother]
  grows h := h
  own := hown

/-- A turn that begins by opening the span of its message. -/
theorem inside_of_created (hleft : before.entered thread = [])
    (hworker : before.opened[worker]? = some ⟨workers, []⟩) (name : String) :
    Inside before
      (((before.enter thread worker).create thread name).enter thread before.opened.length) thread
      worker before.opened.length ⟨name, []⟩ where
  entered := by simp only [enter, create, onThread, if_true, hleft]
  others other hother := by simp only [enter, create, onThread, if_neg hother]
  grows {n o} h := by
    have hlt : n < before.opened.length := (List.getElem?_eq_some_iff.1 h).1
    show (before.opened ++ _)[n]? = some o
    rw [List.getElem?_append_left hlt]
    exact h
  own := by
    have hpath : (before.enter thread worker).path thread = [worker] := by
      simp only [path, enter, onThread, if_true, hleft, List.head?_cons, hworker, Option.map_some,
        Option.getD_some, List.nil_append]
    show (before.opened ++ [⟨⟨name, []⟩, (before.enter thread worker).path thread⟩])[_]? = _
    rw [List.getElem?_concat_length, hpath]

/-- Values are recorded in the span of the message, which was opened in this turn. -/
theorem Inside.record (h : Inside before inside thread worker own span)
    (hnew : before.opened.length ≤ own) (fields : Event.Fields) :
    Inside before (inside.record thread fields) thread worker own
      { span with fields := span.fields ++ fields } := by
  have hhead : (inside.entered thread).head? = some own := by rw [h.entered]; rfl
  simp only [Spans.record, hhead]
  refine ⟨h.entered, h.others, fun {n o} hn => ?_, ?_⟩
  · have hlt : n < before.opened.length := (List.getElem?_eq_some_iff.1 hn).1
    -- spans are numbered in the order in which they are opened
    have hne : own ≠ n := by omega
    show (inside.opened.modify own _)[n]? = some o
    rw [List.getElem?_modify_ne _ _ hne]
    exact h.grows hn
  · show (inside.opened.modify own _)[own]? = _
    rw [List.getElem?_modify_eq, h.own]
    rfl

end Spans

namespace SpannedTask

variable {σ : Type} {index worker : Nat} {body : Json.Bytes} {opened : List OpenedSpan}
  {t : SpannedTask} {s : Scene σ}

/-- A task of a worker with a body. Before its first turn it has no span; afterwards its span lies
inside that of the worker and holds the values of the body, if these could be read. -/
inductive Own (opened : List OpenedSpan) (index worker : Nat) (body : Json.Bytes) :
    SpannedTask → Prop where
  | begun (started : Nat) : Own opened index worker body ⟨⟨index, started, .received body⟩, none⟩
  | going (started own : Nat) (phase : Task.Phase) (hfits : phase.Fits body)
      (hread : ∀ given, phase ≠ .received given)
      (hspan : opened[own]? = some ⟨Task.span (Part.parse body).toOption, [worker]⟩) :
      Own opened index worker body ⟨⟨index, started, phase⟩, some own⟩

theorem Own.fits (h : t.Own opened index worker body) : t.task.phase.Fits body := by
  cases h with
  | begun => rfl
  | going _ _ _ hfits => exact hfits

/-- The spans in a turn with a task, after what is recorded in this turn. -/
theorem Own.inside {thread : Nat} (systems : Collaborators σ)
    (h : t.Own s.spans.opened index worker body) (hleft : s.spans.entered thread = [])
    (hworker : s.spans.opened[worker]? = some ⟨workerSpan worker, []⟩) (w : World σ) :
    let begun := t.begin thread (s.spans.enter thread worker)
    Spans.Inside s.spans
      ((begun.2.enter thread begun.1).recordRead thread t.task.phase
        (t.task.step systems w).1.phase)
      thread worker begun.1 (Task.span (Part.parse body).toOption) := by
  cases h with
  | begun started =>
      have hcreated := Spans.inside_of_created hleft hworker "log_part"
      cases hparse : Part.parse body with
      | error cause =>
          simp only [Task.step, Task.next, hparse]
          exact hcreated
      | ok part =>
          simp only [Task.step, Task.next, hparse]
          exact hcreated.record (Nat.le_refl _) _
  -- a body that has been read is not read again, so nothing is recorded from then on
  | going started own phase hfits hread hspan =>
      have hopened := Spans.inside_of_opened hleft hspan
      cases phase with
      | received given => exact absurd rfl (hread given)
      | resolving | storing | announcing | ending | finished => exact hopened

/-- A turn on a thread that is in no span leaves every thread where it was and the spans of other
messages alone, its message has its own span from then on, and it does what a step of the task does
whose events are put into spans by the values of the task. -/
theorem Own.step (systems : Collaborators σ) (threads : Nat → Nat)
    (h : t.Own s.spans.opened index worker body)
    (hleft : s.spans.entered (threads s.turns) = [])
    (hworker : s.spans.opened[worker]? = some ⟨workerSpan worker, []⟩) :
    let turn := t.step systems threads worker s
    (∀ thread, turn.2.spans.entered thread = s.spans.entered thread) ∧
      (∀ {n : Nat} {o : OpenedSpan},
        s.spans.opened[n]? = some o → turn.2.spans.opened[n]? = some o) ∧
      turn.1.Own turn.2.spans.opened index worker body ∧
      t.task.stepInSpan systems worker s.world = (turn.1.task, turn.2.world) := by
  have hinside := h.inside systems hleft hworker { s.world with events := [] }
  have hfits := h.fits.next systems t.task.worker t.task.started { s.world with events := [] }
  refine ⟨hinside.left hleft, hinside.grows, ?_, ?_⟩
  · have hindex : t.task.worker = index := by cases h <;> rfl
    subst hindex
    exact .going _ _ _ hfits (Task.next_ne_received _ _ _ _ _) hinside.own
  · have hevents := Task.next_events systems t.task.worker t.task.started
      { s.world with events := [] } t.task.phase
    rw [List.nil_append] at hevents
    simp only [Task.stepInSpan, SpannedTask.step, Task.step, hevents]
    rw [← h.fits.map_reports, ← hinside.around hworker]
    rfl

end SpannedTask

/-! ## All turns -/

namespace Broker

variable {σ : Type} {systems : Collaborators σ} {index threads : Nat → Nat} {workers : Nat}
  {source : Source}

/-- Between turns: no thread is in any span, each worker has its span, and each message in its
worker's hands has its own. -/
structure Pool.InSpans (index : Nat → Nat) (workers : Nat) (p : Pool SpannedTask (Scene σ)) :
    Prop where
  length_eq : p.workers.length = workers
  left : ∀ thread, p.world.spans.entered thread = []
  worker : ∀ i < workers, p.world.spans.opened[i]? = some ⟨workerSpan i, []⟩
  own : ∀ {i : Nat} {m : Message} {t : SpannedTask}, p.workers[i]? = some (.busy m t) →
    t.Own p.world.spans.opened (index i) i m.body

namespace Pool

variable {p r : Pool SpannedTask (Scene σ)} {i : Nat}

theorem InSpans.lt (h : p.InSpans index workers) {w : Worker SpannedTask}
    (hw : p.workers[i]? = some w) : i < workers :=
  h.length_eq ▸ (List.getElem?_eq_some_iff.1 hw).1

/-- Putting a worker into a state without a task changes no span. -/
theorem InSpans.put (h : p.InSpans index workers) {v : Worker SpannedTask} (hv : v.isBusy = false) :
    (p.put i v).InSpans index workers where
  length_eq := List.length_set.trans h.length_eq
  left := h.left
  worker := h.worker
  own hbusy := by
    rcases getElem?_put hbusy with ⟨-, rfl⟩ | hbefore
    · cases hv
    · exact h.own hbefore

end Pool

namespace Crew

variable {c d : Crew SpannedTask (Scene σ)} {w : World σ} {labels : List Label}

end Crew

end Broker

end JobLog
