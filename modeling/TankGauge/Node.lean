import TankGauge.Clock
import TankGauge.Connection.Basic
import TankGauge.Gauge
import TankGauge.Identity
import TankGauge.Mode.Machine
import TankGauge.Policy

/-!
# The node

A node is a gauge, a publish policy, a mode machine and a connection. It is driven by callbacks:
a timer has fired, news of the session has come, a topic or a payload has come in. A callback acts
on the site through calls, and is over before the next one begins.

## How a command is carried out

A payload becomes a command on the topic that came before it. The mode machine reacts, and the
effects it asks for are carried out in order. A step of the gauge is followed by an observation of
the policy, and goes on by a timer as long as the gauge moves.
-/

namespace TankGauge

/-- The role of the timer that keeps a walk going. -/
def Direction.timer : Direction → TimerRole
  | .decrease => .decrease
  | .increase => .increase

/-- Everything that a node remembers between two callbacks. -/
structure Node where
  topics : Topics
  stepInterval : UInt32
  connection : Connection
  gauge : Gauge := .full
  policy : Policy := .ofLevel Gauge.full.level
  machine : ModeMachine
  /-- Where the payload belongs that comes next. -/
  pending : PendingTopic := .none
deriving DecidableEq, Repr

namespace Node

variable {τ : Type}

/-- A node that has not been started. -/
def ofConfig (c : Config) (session : SessionParams) : Node where
  topics := c.topics
  stepInterval := c.stepInterval
  connection := .ofConfig c session
  machine := { pause := c.resumeDelay }

/-! ## What can be asked of a node -/

/-- The level of the gauge. -/
def level (n : Node) : UInt8 := n.gauge.level

/-- The current mode. -/
def mode (n : Node) : Mode := n.machine.mode

/-- Whether a fill request stands, be it one that waits for the end of an alarm. -/
def fillRequested (n : Node) : Bool :=
  match n.machine.mode with
  | .emptying => true
  | .alarmed => n.machine.fillPending
  | .idle | .refilling => false

/-- Whether an alarm holds the gauge. -/
def alarmActive (n : Node) : Bool := n.machine.mode = .alarmed

variable [Transport τ]

/-! ## Publishing -/

/-- Hands one publication to the transport and lets the outside know how that was answered. All
publications go out at least once and are retained. -/
def sendOne (topics : Topics) (s : Site τ) (p : Publication) : Site τ :=
  match s.publish (p.channel.topic topics) p.payload.text .atLeastOnce true with
  | (.taken, s) => s.emit (.published p)
  | (.refused reason, s) => s.emit (.publishFailed p.channel reason)

/-- Hands publications to the transport, one after the other. -/
def send (topics : Topics) (publications : List Publication) (s : Site τ) : Site τ :=
  publications.foldl (sendOne topics) s

/-- One step of the gauge and what there is to tell about it. The timer is armed again if the
gauge has moved. -/
def step (n : Node) (d : Direction) (s : Site τ) : Node × Site τ :=
  let (gauge, outcome) := n.gauge.step d
  let (publications, policy) := n.policy.observe outcome.level
  let s := send n.topics publications.items s
  let n := { n with gauge, policy }
  match outcome with
  | .moved _ => (n, s.schedule d.timer n.stepInterval)
  | .atBoundary level => (n, s.note (.gaugeSettled level))

/-- Tells that the node is online and what its level is. -/
def announce (n : Node) (s : Site τ) : Node × Site τ :=
  let (publications, policy) := n.policy.announce n.gauge.level
  ({ n with policy }, send n.topics publications.items s)

/-! ## Effects and commands -/

/-- Carries out one effect. -/
def applyEffect (n : Node) (s : Site τ) : Effect → Node × Site τ
  | .cancel role => (n, s.cancel role)
  | .schedule role delay => (n, s.schedule role delay)
  | .startDecrease => n.step .decrease s
  | .publishStable =>
    let (stable, policy) := n.policy.forceStable
    ({ n with policy }, send n.topics [stable] s)

/-- Carries out effects in order. -/
def applyEffects (n : Node) (s : Site τ) : List Effect → Node × Site τ
  | [] => (n, s)
  | e :: rest =>
    let (n, s) := n.applyEffect s e
    n.applyEffects s rest

/-- Carries out the effects that the mode machine has asked for. -/
def settle (n : Node) (s : Site τ) : Node × Site τ :=
  let (effects, machine) := n.machine.takeEffects
  { n with machine }.applyEffects s effects

/-- Carries out a command. -/
def handleCommand (n : Node) (command : Command) (s : Site τ) : Node × Site τ :=
  let s := s.emit (.commandReceived command)
  let before := n.machine.mode
  let (entered, machine, notes) := n.machine.handle command
  let s := s.noteAll notes
  let s := match entered with
    | none => s
    | some after => s.emit (.modeChanged before after)
  { n with machine }.settle s

/-! ## Callbacks -/

/-- Lets the connection ask for a session. -/
def connect (n : Node) (s : Site τ) : Node × Site τ :=
  let (connection, s) := n.connection.connect s
  ({ n with connection }, s)

/-- Starts the node: enters the first mode and asks for the first session. -/
def start (n : Node) (s : Site τ) : Node × Site τ :=
  let (machine, notes) := n.machine.start
  let (n, s) := { n with machine }.settle (s.noteAll notes)
  let s := (s.emit (.started n.machine.mode)).note (.nodeStarted n.machine.mode n.gauge.level)
  n.connect s

/-- A timer has fired. A walk goes on only in the mode that it belongs to: a timer may fire while
it is being cancelled. -/
def onTimer (role : TimerRole) (n : Node) (s : Site τ) : Node × Site τ :=
  match role, n.machine.mode with
  | .decrease, .emptying => n.step .decrease s
  | .increase, .refilling | .resume, .refilling => n.step .increase s
  | .decrease, mode | .increase, mode | .resume, mode => (n, s.note (.staleTimer role mode))
  | .reconnect, _ => n.connect s
  | .announce, _ => n.announce s

/-- News of the session has come. -/
def onConnectionEvent (n : Node) (event : ConnectionEvent) (s : Site τ) : Node × Site τ :=
  let (connection, s) := n.connection.onEvent n.topics event s
  ({ n with connection }, s)

omit [Transport τ] in
/-- The topic of a message has come in. -/
def onTopic (n : Node) (topic : String) (s : Site τ) : Node × Site τ :=
  let pending := PendingTopic.classify n.topics topic
  ({ n with pending }, s.note (.topicSeen topic pending))

/-- A part of a payload has come in. Only the last part counts, and of that the first fifteen
bytes; it uses up the topic that came before it. -/
def onPayload (n : Node) (data : Bytes) (last : Bool) (s : Site τ) : Node × Site τ :=
  if last then
    let payload : Payload := BoundedList.truncate data
    let topic := n.pending
    let n := { n with pending := .none }
    let s := s.note (.payloadSeen payload.items topic)
    match Command.decode topic payload.items with
    | some command => n.handleCommand command s
    | none => (n, s.emit (.payloadIgnored data.length))
  else (n, s.note (.partSkipped data.length))

/-- A number of firings that time cannot reach while no command comes in: a walk has at most 99
steps, a connection that is taken is not asked for again, and each of the five timers that are
armed to begin with may fire in vain. -/
def firingLimit (t : τ) : Nat := 128 + Transport.refusalsLeft t

/-- Moves the clock of the site on to `target`. -/
def passTimeUntil (n : Node) (target : Nat) (s : Site τ) : Node × Site τ :=
  passTime onTimer (firingLimit s.transport) target n s

end Node

end TankGauge
