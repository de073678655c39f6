import JobLog.Config.Basic
import JobLog.Error

/-!
# Methods of AMQP

What a session sends to the queue's server: the methods of AMQP 0-9-1 that it uses, and calls of
several methods one after the other. A method is called when it is sent; the call is over when the
server has answered, when the server has closed the channel or the connection instead, or when it
turned out that the method could not be sent at all.
-/

namespace JobLog.Broker

/-- The channels of a session: one to declare what is needed, one to consume. -/
inductive Channel where
  | setup
  | consumer
  deriving DecidableEq, Repr

/-- A method, with its arguments that are not left at their defaults. -/
inductive Method where
  | connect
  | openChannel (channel : Channel)
  | declareQueue (name : String) (durable : Bool)
  | declareExchange (name kind : String) (durable : Bool)
  | limit (count : Nat)
  | consume (queue tag : String) (withoutAcknowledgment : Bool)
  | acknowledge (tag : Nat) (multiple : Bool)
  | closeChannel (channel : Channel) (text : String)
  | disconnect (text : String)
  deriving DecidableEq, Repr

/-- The tag of the consumer. -/
def consumerTag : String := "processor"

/-- What a session says when it ends. -/
def farewell : String := "worker shutting down"

/-- The methods that open a session and declare the queue and the exchange. -/
def setupMethods (c : QueueConfig) : List Method :=
  [.connect, .openChannel .setup, .declareQueue c.queue true, .declareExchange c.exchange "topic" true,
    .closeChannel .setup "topology declared"]

/-- The methods that start a consumer which holds at most `count` unacknowledged deliveries. -/
def consumerMethods (queue : String) (count : Nat) : List Method :=
  [.openChannel .consumer, .limit count, .consume queue consumerTag false]

/-- The methods that end a session; `consumer` if there is a channel to close first. -/
def closingMethods (consumer : Bool) : List Method :=
  (if consumer then [.closeChannel .consumer farewell] else []) ++ [.disconnect farewell]

/-- Methods to be called in order. The first of them may have been sent already. -/
structure Calls where
  methods : List Method
  sent : Bool
  deriving DecidableEq, Repr

/-- What happens next in a sequence of calls. -/
inductive Exchange where
  /-- The next method is sent. -/
  | send
  /-- The server answers it, or closes the channel or the connection instead. -/
  | answer (result : Except SessionError Unit)
  /-- The next method cannot be sent. -/
  | refuse (cause : SessionError)

/-- Calls that have not begun. -/
def Calls.of (methods : List Method) : Calls :=
  ⟨methods, false⟩

/-- The calls after a step, with the method that was sent and the result of the call that is over. -/
structure Progress where
  calls : Calls
  sent : Option Method
  ended : Option (Method × Except SessionError Unit)

/-- One step of the calls; nothing if it is not its turn. -/
def Calls.step (c : Calls) (e : Exchange) : Option Progress :=
  match c.methods, c.sent, e with
  | m :: _, false, .send => some ⟨{ c with sent := true }, some m, none⟩
  | m :: rest, true, .answer result => some ⟨.of rest, none, some (m, result)⟩
  | m :: rest, false, .refuse cause => some ⟨.of rest, none, some (m, .error cause)⟩
  | _, _, _ => none

end JobLog.Broker
