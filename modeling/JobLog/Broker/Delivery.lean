import JobLog.Error

/-!
# Messages and deliveries

What is published to a queue is a message. A delivery is a message that was received, together with
what its broker answers when it is acknowledged. Workers take what a stream has for them one item at
a time: a message, the failure of the stream, or its end.
-/

namespace JobLog.Broker

/-- A message; `index` counts all messages of a queue in the order they were published. -/
structure Message where
  index : Nat
  body : List UInt8
  deriving DecidableEq, Repr

/-- A received message. -/
structure Delivery where
  body : List UInt8
  acknowledgment : Except BrokerError Unit

/-- A delivery without its contents. -/
def Delivery.describe (d : Delivery) : String :=
  "Delivery \x7b bytes: " ++ toString d.body.length ++ ", .. \x7d"

/-- What a stream gives to the worker that asks. -/
inductive Item where
  | delivery (message : Message)
  | failure (cause : BrokerError)
  | finished

end JobLog.Broker
