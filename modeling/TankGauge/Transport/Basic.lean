import TankGauge.Net.Address
import TankGauge.Topics

/-!
# The transport a node talks through

A transport takes three kinds of call: to open a session, to subscribe, to publish. Each call is
answered at once, taken or refused; what becomes of a session that was opened is told later by a
`ConnectionEvent`. Sessions are numbered from one, so that news of an old one can be told apart
from news of the current one.

`Transport` is what the rest of the library asks of a transport. It is a class over the state of
the transport, and each call gives the state after it.
-/

namespace TankGauge

/-- How often a message may arrive: at most once, at least once, or exactly once. -/
inductive QoS
  | atMostOnce
  | atLeastOnce
  | exactlyOnce
deriving DecidableEq, Repr

/-- The level as a number. -/
def QoS.level : QoS → Nat
  | .atMostOnce => 0
  | .atLeastOnce => 1
  | .exactlyOnce => 2

/-- Why a transport refuses a call. -/
inductive TransportError
  /-- No session has been opened. -/
  | notConnected
  /-- The queue of outbound requests has no room, or nothing empties it any more. -/
  | queueFull
  /-- The attempt to open a session could not be started. -/
  | connectFailed
  /-- The request itself is refused. -/
  | rejected
deriving DecidableEq, Repr

/-- The wording of a refusal. -/
def TransportError.message : TransportError → String
  | .notConnected => "not connected"
  | .queueFull => "request queue full"
  | .connectFailed => "connect failed"
  | .rejected => "rejected"

/-- The answer to a call. -/
inductive Answer
  | taken
  | refused (reason : TransportError)
deriving DecidableEq, Repr

/-- The message that a broker publishes for a client whose session dies. -/
structure LastWill where
  topic : Topic
  payload : String
  qos : QoS
  retain : Bool
deriving DecidableEq, Repr

/-- A client identifier takes at most 48 bytes. -/
abbrev ClientId := BoundedText 48

/-- What it takes to open a session. -/
structure SessionParams where
  clientId : ClientId
  broker : Endpoint
  keepAlive : UInt16
  lastWill : LastWill
deriving DecidableEq, Repr

/-- News of a session: the broker has accepted it, the broker has turned it down, or an accepted
session is over. -/
inductive ConnectionEvent
  | accepted
  | rejected
  | disconnected
deriving DecidableEq, Repr

/-- The name a log line gives the event. -/
def ConnectionEvent.name : ConnectionEvent → String
  | .accepted => "Accepted"
  | .rejected => "Rejected"
  | .disconnected => "Disconnected"

/-- What the network side of a session tells: news of the session, or a message on a topic. -/
inductive NetEvent
  | connection (event : ConnectionEvent)
  | publish (topic : String) (payload : Bytes)
deriving DecidableEq, Repr

/-- News together with the number of the session that it comes from. -/
structure SessionEvent where
  session : Nat
  event : NetEvent
deriving DecidableEq, Repr

/-- The calls of a transport whose state is a `τ`. -/
class Transport (τ : Type) where
  /-- Opens a session. -/
  connect : τ → SessionParams → Answer × τ
  /-- Asks for the messages on a topic. -/
  subscribe : τ → String → QoS → Answer × τ
  /-- Publishes a message. -/
  publish : τ → String → Bytes → QoS → Bool → Answer × τ
  /-- The number of the session opened last, zero before the first. -/
  session : τ → Nat
  /-- How many more calls to open a session may be refused before one is taken. -/
  refusalsLeft : τ → Nat

end TankGauge
