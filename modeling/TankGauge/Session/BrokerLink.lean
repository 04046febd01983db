import TankGauge.Session.Reader

/-!
# A link to a broker

Both ends of a session at the level of packets: what the client has asked for, what the broker has
been sent, and what the readers of the sessions report. How packets are laid out in bytes is left
to whatever carries them.

A session is open from the request on, and accepted once the broker says so. Until then requests
wait in a queue of sixteen. Opening a session ends the one before. A broker that does not listen
turns every session down at once.
-/

namespace TankGauge

/-- A packet that a broker is sent. -/
inductive Packet
  | connect (clientId : ClientId) (keepAlive : UInt16) (will : LastWill)
  | subscribe (topic : String) (qos : QoS)
  | publish (topic : String) (payload : Bytes) (qos : QoS) (retain : Bool)
  /-- A message that may arrive twice has arrived. -/
  | pubAck
  /-- A message that must not arrive twice has arrived. -/
  | pubRec
  | disconnect
deriving DecidableEq, Repr

/-- An open session: whether the broker has accepted it, and the requests that wait until it has,
oldest first. -/
structure OpenSession where
  accepted : Bool := false
  waiting : BoundedList Packet 16 := .empty
deriving DecidableEq, Repr

/-- The state of a link. -/
structure BrokerLink where
  /-- Whether the broker listens. -/
  listening : Bool := true
  /-- How many sessions have been opened. -/
  sessions : Nat := 0
  /-- The session that is open, if one is. It is the one opened last. -/
  current : Option OpenSession := none
  /-- What the broker has been sent, newest first. -/
  sent : List Packet := []
  /-- What the sessions have reported, newest first. -/
  reported : List SessionEvent := []
deriving DecidableEq, Repr

namespace BrokerLink

instance : Inhabited BrokerLink := ⟨{}⟩

/-- The longest packet body that a client takes in. -/
def inboundLimit : Nat := 10 * 1024

/-- Sends the broker a packet. -/
def deliverOut (l : BrokerLink) (p : Packet) : BrokerLink := { l with sent := p :: l.sent }

/-- Tells the reader of the open session a notification. -/
def notify (l : BrokerLink) (o : OpenSession) (n : Notification) : BrokerLink :=
  let h := Reader.hear o.accepted n
  { l with
    reported := (h.news.toList.map fun event => ⟨l.sessions, event⟩) ++ l.reported
    current := if h.done then none else some { o with accepted := h.accepted } }

/-! ## The calls of the client -/

/-- Ends the session that is open: an accepted one is taken leave of. -/
def endCurrent (l : BrokerLink) : BrokerLink :=
  match l.current with
  | none => l
  | some o => (if o.accepted then l.deliverOut .disconnect else l).notify o .failure

/-- Opens a session. -/
def connect (l : BrokerLink) (p : SessionParams) : Answer × BrokerLink :=
  let l := l.endCurrent
  let l := { l with sessions := l.sessions + 1, current := some {} }
  if l.listening then (.taken, l.deliverOut (.connect p.clientId p.keepAlive p.lastWill))
  else (.taken, l.notify {} .failure)

/-- Passes a request on: at once if the session is accepted, else it waits. -/
def request (l : BrokerLink) (p : Packet) : Answer × BrokerLink :=
  match l.current with
  | none => (.refused .queueFull, l)
  | some o =>
    if o.accepted then (.taken, l.deliverOut p)
    else match o.waiting.push? p with
      | some waiting => (.taken, { l with current := some { o with waiting } })
      | none => (.refused .queueFull, l)

/-- Whether a topic stands for many topics; such a one cannot be published to. -/
def hasWildcard (topic : String) : Bool := topic.toList.any fun c => c = '+' || c = '#'

/-- Asks for the messages on a topic. -/
def subscribe (l : BrokerLink) (topic : String) (qos : QoS) : Answer × BrokerLink :=
  if l.sessions = 0 then (.refused .notConnected, l) else l.request (.subscribe topic qos)

/-- Publishes a message. -/
def publish (l : BrokerLink) (topic : String) (payload : Bytes) (qos : QoS) (retain : Bool) :
    Answer × BrokerLink :=
  if l.sessions = 0 then (.refused .notConnected, l)
  else if hasWildcard topic then (.refused .queueFull, l)
  else l.request (.publish topic payload qos retain)

instance : Transport BrokerLink where
  connect := connect
  subscribe := subscribe
  publish := publish
  session l := l.sessions
  refusalsLeft _ := 0

/-! ## What the broker does -/

/-- Something that the broker does on the open session. -/
inductive BrokerAct
  /-- Answers the request for a session; zero means yes. -/
  | connAck (code : Nat)
  /-- Sends a message. -/
  | deliver (topic : String) (payload : Bytes) (qos : QoS)
  /-- Sends bytes as they are. -/
  | raw (bytes : Bytes)
  /-- Acknowledges the last request. -/
  | acknowledge
  /-- Closes the session. -/
  | close
deriving DecidableEq, Repr

/-- Accepts a session and sends what has been waiting for that. -/
def accept (l : BrokerLink) (o : OpenSession) : BrokerLink :=
  let l := l.notify { o with waiting := .empty } (.connAck 0)
  o.waiting.items.foldl deliverOut l

/-- The body length of a message. -/
def bodyLength (topic : String) (payload : Bytes) (qos : QoS) : Nat :=
  2 + topic.utf8ByteSize + (if qos = .atMostOnce then 0 else 2) + payload.length

/-- What the client answers a message with. -/
def acknowledgement? : QoS → Option Packet
  | .atMostOnce => none
  | .atLeastOnce => some .pubAck
  | .exactlyOnce => some .pubRec

/-- What becomes of an open session when the broker acts on it. The answer to the request has to
come first and only once; whatever else comes out of turn, is too long or cannot be read ends the
session. -/
def actOn (l : BrokerLink) (o : OpenSession) : BrokerAct → BrokerLink
  | .connAck code =>
    if o.accepted then l.notify o .failure
    else if code = 0 then l.accept o
    else l.notify o (.connAck code)
  | .deliver topic payload qos =>
    if o.accepted && bodyLength topic payload qos ≤ inboundLimit then
      let l := l.notify o (.publish topic payload)
      ((acknowledgement? qos).map l.deliverOut).getD l
    else l.notify o .failure
  | .raw [0x20, 2, _, 0] => if o.accepted then l.notify o .failure else l.accept o
  | .raw _ => l.notify o .failure
  | .acknowledge => l
  | .close => l.notify o .failure

/-- Lets the broker act, if a session is open. -/
def act (l : BrokerLink) (a : BrokerAct) : Option BrokerLink :=
  l.current.map fun o => l.actOn o a

/-! ## Following a link -/

/-- What has been sent and what has been reported, oldest first, and the link with fresh lists. -/
def takeLists (l : BrokerLink) : List Packet × List SessionEvent × BrokerLink :=
  (l.sent.reverse, l.reported.reverse, { l with sent := [], reported := [] })

end BrokerLink

end TankGauge
