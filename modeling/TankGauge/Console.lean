import TankGauge.LinkedWorker

/-!
# The console

A node can be run at a console, and whoever sits there plays the broker. Each line that is typed is
something that the broker does, each line that is shown is a packet that the broker has been sent,
and the log lines of the node go beside them.
-/

namespace TankGauge

namespace Console

/-- What the broker does, from the words of a line: `accept` or `reject` the session, send a
`message` on a topic, or `close` the session. -/
def ofWords? : List String → Option BrokerLink.BrokerAct
  | ["accept"] => some (.connAck 0)
  | ["reject"] => some (.connAck 5)
  | "message" :: topic :: words =>
    some (.deliver topic (Bytes.utf8 (String.intercalate " " words)) .atMostOnce)
  | ["close"] => some .close
  | _ => none

/-- What the broker does, from a line. -/
def readLine? (line : String) : Option BrokerLink.BrokerAct :=
  ofWords? (line.trimAscii.toString.splitOn " ")

/-- The line of a packet. -/
def packetLine : Packet → String
  | .connect clientId keepAlive _ =>
    "connect " ++ clientId.text ++ " " ++ toString keepAlive.toNat
  | .subscribe topic qos => "subscribe " ++ topic ++ " " ++ toString qos.level
  | .publish topic payload _ _ => "publish " ++ topic ++ " " ++ payload.shown
  | .pubAck => "puback"
  | .pubRec => "pubrec"
  | .disconnect => "disconnect"

/-- The line of a journal entry, if it has one that matters enough to be shown. -/
def entryLine? (e : Entry) : Option String := do
  let line ← match e with
    | .event e => some e.line
    | .note n => some n.line
    | _ => none
  if line.severity = .debug then none else some (line.severity.name ++ " " ++ line.text)

/-- A node that has been started and has noted its identity. -/
def begin (c : Config) (session : SessionParams) : LinkedWorker :=
  let w := LinkedWorker.ofConfig c session
  Worker.start { w with site := w.site.note (.identity session) }

/-- What there is to show: packets, and log lines beside them, oldest first. -/
structure News where
  packets : List String
  log : List String
deriving DecidableEq, Repr

/-- Takes out what has not been shown yet. -/
def takeNews (w : LinkedWorker) : News × LinkedWorker :=
  let (packets, w) := w.takeSent w.link.sent.length
  let (entries, w) := w.takeJournal
  (⟨packets.map packetLine, entries.filterMap entryLine?⟩, w)

/-- How long there is nothing to do but wait for a line, in milliseconds and at most `longest`. -/
def idleTime (longest now : Nat) (w : LinkedWorker) : Nat :=
  match w.site.timers.nextDeadline? with
  | none => longest
  | some deadline => min longest (deadline - now)

end Console

end TankGauge
