import JobLog.Config.Basic
import JobLog.Config.Whole
import JobLog.Text.Lowercase
import JobLog.Web.Query

/-!
# Addresses of queue servers

An address gives the server, the credentials and the virtual host, percent-encoded, and limits in
its query. Its parts are checked from left to right, the limits in the order of `limits`.
-/

namespace JobLog

namespace Broker

/-- The limits that an address may set, with the largest value of each. -/
def limits : List (String × Nat) :=
  [("frame_max", UInt32.size - 1), ("channel_max", UInt16.size - 1),
    ("heartbeat", UInt16.size - 1), ("connection_timeout", UInt64.size - 1)]

/-- The ways to prove who one is. -/
def mechanisms : List String :=
  ["amqplain", "external", "plain", "rabbit-cr-demo"]

/-- What keeps the limits of a query from being used; the first value of a name counts. -/
def limitFault? (pairs : List (String × String)) : Option String :=
  limits.findSome? fun limit => do
    let value ← pairs.lookup limit.1
    match Config.whole limit.2 value.toList with
    | .ok _ => none
    | .error e => some e.message

/-- What keeps the mechanism of a query from being used. -/
def mechanismFault? (pairs : List (String × String)) : Option String := do
  let mechanism := Text.lowercase (← pairs.lookup "auth_mechanism")
  if mechanism ∈ mechanisms then none else some ("Invalid SASL mechanism: " ++ mechanism)

/-- The parts of an address that are decoded: user, password, host, and the virtual host, which is
the path without its slash. -/
def encodedParts (url : Web.Url) : List String :=
  let host := match url.host with
    | some (.name name) => name
    | _ => ""
  [url.user, url.password.getD "", host, String.ofList (url.path.toList.drop 1)]

end Broker

/-- Why a queue's address cannot be used. -/
def QueueConfig.addressFault? (c : QueueConfig) : Option String :=
  match Web.Url.parse c.url with
  | .error fault => some fault.message
  | .ok url =>
    if url.host.isNone ∧ ¬ url.path.startsWith "/" then some ("Invalid URL: '" ++ c.url ++ "'")
    else if url.scheme ∉ ["amqp", "amqps"] then some ("Invalid AMQP scheme: " ++ url.scheme)
    else
      (((Broker.encodedParts url).findSome? Web.decodeFault?).or
        (Broker.limitFault? url.pairs)).or (Broker.mechanismFault? url.pairs)

end JobLog
