import JobLog.Metrics.Snapshot

/-!
# The flush loop

Metrics are logged as soon as the loop starts and then once per interval until the loop is stopped.
Time is counted in whole milliseconds, and an interval is a whole number of them. `FlushLoop.runUntil`
does what falls due up to a time, each flush at its own time, so that it makes no difference how
waiting is divided.
-/

namespace JobLog.Metrics

/-- A loop that is next due at `due`; times and the interval are in whole milliseconds. -/
structure FlushLoop where
  interval : Nat
  interval_pos : 0 < interval
  due : Nat
  running : Bool

namespace FlushLoop

/-- A loop that starts at a time; its first flush is due at once. -/
def start (interval : Nat) (interval_pos : 0 < interval) (now : Nat) : FlushLoop :=
  ⟨interval, interval_pos, now, true⟩

/-- Stop a loop for ever. -/
def abort (loop : FlushLoop) : FlushLoop :=
  { loop with running := false }

/-- Flush at every time that falls due up to `now`. -/
def runUntil {α : Type} (flush : Nat → α → α) (now : Nat) (loop : FlushLoop) (a : α) :
    FlushLoop × α :=
  if loop.running = true ∧ loop.due ≤ now then
    runUntil flush now { loop with due := loop.due + loop.interval } (flush loop.due a)
  else (loop, a)
termination_by now + 1 - loop.due
decreasing_by
  have := loop.interval_pos
  omega

end FlushLoop

/-- A flush at a time in milliseconds: what is logged is added to the events. -/
def flushInto (now : Nat) : List Event × Metrics → List Event × Metrics
  | (events, m) =>
    let (_, logged, m) := m.report (now * 1000000)
    (events ++ logged, m)

end JobLog.Metrics
