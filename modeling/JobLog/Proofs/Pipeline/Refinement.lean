import JobLog.Proofs.Pipeline.Account
import JobLog.Proofs.Queue.ExactlyOnce
import Mathlib.Algebra.Group.Prod
import Mathlib.Algebra.Order.Group.Multiset

/-!
# A pool does what one worker does

Workers that handle log parts with one store, one broadcaster and one set of metrics leave behind
what a single worker leaves behind that handles the same messages one after another, up to the order
of rows and announcements: `pool_refines_sequential`. A pool of one worker keeps the order as well.
-/

namespace JobLog

/-- An account without the order of its rows and announcements. -/
def Account.outline : Account →+
    Multiset (Int64 × Int64 × String × Bool) × Multiset Announcement × ℕ × ℕ × ℕ × ℕ × ℕ where
  toFun a := (a.rows, a.announced, a.lookups, a.processed, a.processingFailures, a.published,
    a.publishFailures)
  map_zero' := rfl
  map_add' a b := by simp [add_def, ← Multiset.coe_add]

theorem Account.outline_apply (a : Account) : outline a = (↑a.rows, ↑a.announced, a.lookups,
    a.processed, a.processingFailures, a.published, a.publishFailures) :=
  rfl

/-- A world in which nothing has happened; jobs have logs, and each kind of call may have been told
to fail. -/
def World.prepared (logs : List (Int64 × Int64)) (lookupFault insertFault fault : Option String) :
    World Memory :=
  .fresh ⟨⟨logs, [], 0, lookupFault, insertFault⟩, ⟨[], fault⟩⟩

theorem World.fits_prepared (logs : List (Int64 × Int64))
    (lookupFault insertFault fault : Option String) :
    (prepared logs lookupFault insertFault fault).Fits
      (prepared logs lookupFault insertFault fault).systems :=
  ⟨rfl, rfl, rfl, rfl, rfl⟩

/-- Two worlds hold the same rows and announcements, in any order, and have counted the same. -/
structure SameOutcome (v w : World Memory) : Prop where
  rows : (v.systems.store.rows.map fun row => row.toEntry.untimed).Perm
    (w.systems.store.rows.map fun row => row.toEntry.untimed)
  announced : v.systems.board.announced.Perm w.systems.board.announced
  lookups : v.systems.store.lookups = w.systems.store.lookups
  processed : v.metrics.processed.1 = w.metrics.processed.1
  processingFailures : v.metrics.processingFailures = w.metrics.processingFailures
  published : v.metrics.published.1 = w.metrics.published.1
  publishFailures : v.metrics.publishFailures = w.metrics.publishFailures

/-- Two worlds hold the same rows and announcements in the same order. -/
structure SameOrder (v w : World Memory) : Prop where
  rows : (v.systems.store.rows.map fun row => row.toEntry.untimed) =
    w.systems.store.rows.map fun row => row.toEntry.untimed
  announced : v.systems.board.announced = w.systems.board.announced

theorem sameOutcome_of_outline {v w : World Memory}
    (h : Account.outline v.account = Account.outline w.account) : SameOutcome v w := by
  simp only [Account.outline_apply, Prod.mk.injEq, Multiset.coe_eq_coe] at h
  obtain ⟨hrows, hannounced, hlookups, hprocessed, hfailures, hpublished, hunpublished⟩ := h
  exact ⟨hrows, hannounced, hlookups, hprocessed, hfailures, hpublished, hunpublished⟩

theorem sameOrder_of_account {v w : World Memory} (h : v.account = w.account) : SameOrder v w :=
  ⟨congrArg Account.rows h, congrArg Account.announced h⟩

namespace Broker

open Queue

/-- What the messages are worth that a pool has taken depends only on their bodies. -/
theorem Pool.owed_eq {τ ω M : Type} [AddMonoid M] {p : Pool τ ω} {bodies : List Json.Bytes}
    (value : Json.Bytes → M) (h : p.pulled.map Prod.snd = numbered bodies) :
    p.owed (fun m => value m.body) = (bodies.map value).sum := by
  have hbodies : p.pulled.map (fun entry => entry.2.body) = bodies := by
    rw [← map_body_numbered bodies, ← h, List.map_map]
    rfl
  rw [Pool.owed, ← hbodies, List.map_map]
  rfl

/-- A broker whose workers handle log parts. -/
def partSetup (multiplier : Nat) (latency : Latency) (factory : Nat → Except String Unit) :
    Setup Task (World Memory) :=
  ⟨multiplier, logPartProcessor (Memory.systems latency), factory⟩

/-- The pool refines the single worker: whenever bodies are published, the stream is ended and
`workers` workers subscribe, the subscription returns, and the world that the workers leave behind
holds what one worker leaves behind that handles the bodies one after another, at whatever pace.
Rows are numbered from one, and with one worker they and the announcements come in the same order.
-/
theorem pool_refines_sequential {bodies : List Json.Bytes} {workers multiplier : Nat}
    {logs : List (Int64 × Int64)} {lookupFault insertFault fault : Option String}
    {latency alone : Latency} {factory : Nat → Except String Unit} {labels : List Queue.Label}
    {q : Queue Task (World Memory)} (hworkers : 0 < workers)
    (hfactory : ∀ i < workers, factory i = .ok ()) (hfeeds : Feeds bodies workers labels)
    (run : Reaches (partSetup multiplier latency factory)
      (new (.prepared logs lookupFault insertFault fault)) labels q) :
    (∀ result, q.subscription = .returned result →
      result = .ok () ∧ q.pool.world.systems.store.Numbered ∧
      SameOutcome q.pool.world ((World.prepared logs lookupFault insertFault fault).handleAll
        (Memory.systems alone) 0 bodies) ∧
      (workers = 1 → SameOrder q.pool.world
        ((World.prepared logs lookupFault insertFault fault).handleAll
          (Memory.systems alone) 0 bodies))) ∧
    (q.subscription = .returned (.ok ()) ∨ q.CanGoOn (partSetup multiplier latency factory)) ∧
    q.Terminates (partSetup multiplier latency factory) := by
  have hfits := World.fits_prepared logs lookupFault insertFault fault
  have hconserves := logPartProcessor_conserves
    (World.prepared logs lookupFault insertFault fault).systems latency
  obtain ⟨hconsumed, hprogress⟩ :=
    hfeeds.consumed hworkers hfactory (logPartProcessor_steady _) run
  refine ⟨fun result hreturned => ?_, hprogress.imp_left fun h => h.result, terminates _ q⟩
  have hdone := hconsumed result hreturned
  obtain ⟨count, hruns⟩ := run.runs
  obtain rfl : count = workers := by
    simpa [Pool.start] using hruns.length_eq.symm.trans hdone.workers_length
  have hsequential := (World.handleAll_conserves alone 0 bodies hfits).2
  refine ⟨?_, ?_, ?_, ?_⟩
  · simpa [hreturned] using hdone.result
  · exact (hruns.keeps_ok hconserves hfits).numbered
  -- Both sides are what was there at first and what the bodies are worth, as multisets.
  · refine sameOutcome_of_outline ?_
    rw [hruns.account_eq (hconserves.map Account.outline) hfits hdone.ended,
      Pool.owed_eq (fun body => Account.outline (.ofBody _ body)) hdone.pulled, hsequential,
      map_add, map_list_sum, List.map_map]
    rfl
  · rintro rfl
    refine sameOrder_of_account ?_
    rw [hruns.account_eq_single hconserves hfits hdone.ended, Pool.owed_eq _ hdone.pulled,
      hsequential]

/-- Two workers and two bodies, the part `[1,2,"a",true]` of a job with a log and one that is no
part. -/
theorem pool_refines_sequential_two :
    ∃ q : Queue Task (World Memory), q.subscription = .returned (.ok ()) ∧
      q.pool.world.systems.store.Numbered ∧
      SameOutcome q.pool.world ((World.prepared [(1, 7)] none none none).handleAll
        (Memory.systems .zero) 0
        [[91, 49, 44, 50, 44, 34, 97, 34, 44, 116, 114, 117, 101, 93], [123]]) := by
  let bodies : List Json.Bytes :=
    [[91, 49, 44, 50, 44, 34, 97, 34, 44, 116, 114, 117, 101, 93], [123]]
  let setup := partSetup 1 ⟨5, 20, 3⟩ fun _ => .ok ()
  let calls : List Queue.Label := bodies.map .publish ++ [.endStream, .subscribe 2]
  have hfeeds : Feeds bodies 2 calls := ⟨by decide, by decide⟩
  have hworkers : 0 < 2 := Nat.two_pos
  obtain ⟨p, called⟩ : ∃ p, Reaches setup (new (.prepared [(1, 7)] none none none)) calls p :=
    ⟨_, reaches_of_foldlM rfl⟩
  obtain ⟨rest, q, hrest, run, hreturned, -⟩ := called.exists_rest (hfeeds.ending called)
  have hall := hfeeds.append hrest
  obtain ⟨result, hresult⟩ := hreturned.resolve_left
    ((called.trans run).subscription_ne_absent hall.close_not_mem hall.subscribes)
  obtain ⟨hdone, -⟩ := pool_refines_sequential hworkers (fun _ _ => rfl) hall
    (called.trans run)
  obtain ⟨rfl, hnumbered, hsame, -⟩ := hdone result hresult
  exact ⟨q, hresult, hnumbered, hsame⟩

end Broker

end JobLog
