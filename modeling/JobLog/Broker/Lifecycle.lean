/-!
# The life of a broker

A broker is connected, then subscribed once, then closed. It never moves back, and nothing leads
out of `closed`.
-/

namespace JobLog.Broker

/-- Where a broker is in its life. -/
inductive Lifecycle where
  | disconnected
  | connected
  | subscribed
  | closed
  deriving DecidableEq, Repr

/-- The word for a state. -/
def Lifecycle.name : Lifecycle → String
  | .disconnected => "disconnected"
  | .connected => "connected"
  | .subscribed => "subscribed"
  | .closed => "closed"

/-- Whether a broker may move from one state to another. -/
def Lifecycle.canBecome : Lifecycle → Lifecycle → Bool
  | .disconnected, .connected => true
  | .connected, .subscribed => true
  | .disconnected, .closed => true
  | .connected, .closed => true
  | .subscribed, .closed => true
  | _, _ => false

end JobLog.Broker
