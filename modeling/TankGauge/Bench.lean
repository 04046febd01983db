import TankGauge.Node
import TankGauge.Transport.Scripted

/-!
# The test bench

On the bench a node stands on a site whose transport answers from a script and whose clock moves
only when it is told to. Everything that can reach a node is a `Stimulus`, and `Bench.apply` lets
one reach it. A connection can be put on the bench alone: then its own timer is the only one that
is heeded.
-/

namespace TankGauge

/-- Something that reaches what stands on the bench. -/
inductive Stimulus
  /-- The link goes up or down. -/
  | link (up : Bool)
  /-- Answers are added to the script. -/
  | script (connects subscribes publishes : List Answer)
  /-- Time passes. -/
  | advance (duration : Nat)
  | start
  /-- The identity is to be noted. -/
  | describe
  | connection (event : ConnectionEvent)
  | topic (name : String)
  | payload (data : Bytes) (last : Bool)
  | command (c : Command)
  /-- A timer fires that the queue may not hold. -/
  | timer (role : TimerRole)
deriving DecidableEq, Repr

namespace Site

/-- The link of the script goes up or down. -/
def setLink (s : Site Scripted) (up : Bool) : Site Scripted :=
  { s with transport := { s.transport with linkUp := up } }

/-- Answers are added to the script. -/
def extendScript (s : Site Scripted) (connects subscribes publishes : List Answer) :
    Site Scripted :=
  { s with transport := s.transport.extend connects subscribes publishes }

/-- The journal, oldest first, and the site with a fresh one. -/
def takeJournal {τ : Type} (s : Site τ) : List Entry × Site τ :=
  (s.journal.reverse, { s with journal := [] })

end Site

/-- A node on its site. -/
structure Bench where
  node : Node
  site : Site Scripted

namespace Bench

/-- The broker of the bench. -/
def broker (c : Config) : Endpoint := ⟨.v4 ⟨127, 0, 0, 1⟩, c.brokerPort⟩

/-- The session that is asked for on the bench. -/
def session (c : Config) : SessionParams := .ofConfig c simulatedHardwareId (broker c)

/-- A fresh node on a fresh site. -/
def ofConfig (c : Config) : Bench where
  node := .ofConfig c (session c)
  site := { transport := {} }

/-- Lets a callback of the node run. -/
def run (b : Bench) (callback : Node → Site Scripted → Node × Site Scripted) : Bench :=
  let (node, site) := callback b.node b.site
  { node, site }

/-- Lets a stimulus reach the node. -/
def apply (b : Bench) : Stimulus → Bench
  | .link up => { b with site := b.site.setLink up }
  | .script connects subscribes publishes =>
    { b with site := b.site.extendScript connects subscribes publishes }
  | .advance duration => b.run fun n s => n.passTimeUntil (laterInstant s.now duration) s
  | .start => b.run Node.start
  | .describe => { b with site := b.site.note (.identity b.node.connection.session) }
  | .connection event => b.run (·.onConnectionEvent event)
  | .topic name => b.run (·.onTopic name)
  | .payload data last => b.run (·.onPayload data last)
  | .command c => b.run (·.handleCommand c)
  | .timer role => b.run (Node.onTimer role)

/-- What the journal has gained, oldest first, and the bench with a fresh journal. -/
def takeJournal (b : Bench) : List Entry × Bench :=
  let (entries, site) := b.site.takeJournal
  (entries, { b with site })

end Bench

/-- A connection alone on a site. -/
structure ConnectionBench where
  topics : Topics
  connection : Connection
  site : Site Scripted

namespace ConnectionBench

/-- A fresh connection on a fresh site. -/
def ofConfig (c : Config) : ConnectionBench where
  topics := c.topics
  connection := .ofConfig c (Bench.session c)
  site := { transport := {} }

/-- What a connection makes of a timer. -/
def respond (role : TimerRole) (c : Connection) (s : Site Scripted) :
    Connection × Site Scripted :=
  match role with
  | .reconnect => c.connect s
  | _ => (c, s)

/-- Lets an action of the connection run. -/
def run (b : ConnectionBench) (action : Connection → Site Scripted → Connection × Site Scripted) :
    ConnectionBench :=
  let (connection, site) := action b.connection b.site
  { b with connection, site }

/-- Lets a stimulus reach the connection; to start it is to ask for a session. What concerns the
rest of a node passes it by. -/
def apply (b : ConnectionBench) : Stimulus → ConnectionBench
  | .link up => { b with site := b.site.setLink up }
  | .script connects subscribes publishes =>
    { b with site := b.site.extendScript connects subscribes publishes }
  | .advance duration =>
    b.run fun c s =>
      passTime respond (Node.firingLimit s.transport) (laterInstant s.now duration) c s
  | .start => b.run Connection.connect
  | .connection event => b.run (·.onEvent b.topics event)
  | _ => b

/-- What the journal has gained, oldest first, and the bench with a fresh journal. -/
def takeJournal (b : ConnectionBench) : List Entry × ConnectionBench :=
  let (entries, site) := b.site.takeJournal
  (entries, { b with site })

end ConnectionBench

end TankGauge
