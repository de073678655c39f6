import JobLog.Pipeline.Task

/-!
# Handling messages in memory

The store and the broadcaster in memory as the systems that messages are handled with. A latency
for each kind of call says how long it takes, whether it fails or not. The date stands still.
-/

namespace JobLog

/-- The systems in memory. -/
structure Memory where
  store : Store
  board : Board
  deriving DecidableEq, Repr

/-- How long each kind of call takes, in nanoseconds. -/
structure Latency where
  find : Nat
  insert : Nat
  publish : Nat
  deriving DecidableEq, Repr

/-- Calls that take no time. -/
def Latency.zero : Latency := ⟨0, 0, 0⟩

namespace Memory

def empty : Memory := ⟨.empty, .empty⟩

/-- The calls to the systems in memory. -/
def systems (latency : Latency) : Collaborators Memory where
  find job m :=
    let (result, store) := m.store.find job
    ⟨result, latency.find, id, { m with store }⟩
  insert entry m :=
    let (result, store) := m.store.insert entry
    ⟨result, latency.insert, id, { m with store }⟩
  publish announcement m :=
    let (result, board) := m.board.publish announcement
    ⟨result, latency.publish, id, { m with board }⟩

end Memory

/-- A world of systems in memory in which nothing has happened. -/
def World.fresh (memory : Memory) : World Memory :=
  ⟨memory, .new 0, [], 0, ⟨0, 0⟩⟩

end JobLog
