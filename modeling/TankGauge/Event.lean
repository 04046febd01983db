import TankGauge.Connection.Status
import TankGauge.Mode.Basic
import TankGauge.Publication
import TankGauge.Transport.Basic

/-!
# Events

What a node lets the outside know, one event after the other. `Event.line` is the log line of an
event.
-/

namespace TankGauge

/-- How much a log line matters. -/
inductive Severity
  | error
  | warn
  | info
  | debug
deriving DecidableEq, Repr

/-- The name of a severity. -/
def Severity.name : Severity → String
  | .error => "ERROR"
  | .warn => "WARN"
  | .info => "INFO"
  | .debug => "DEBUG"

/-- A line of the log. -/
structure LogLine where
  severity : Severity
  text : String
deriving DecidableEq, Repr

/-- Something that has happened to a node. -/
inductive Event
  /-- The node has started, in a mode. -/
  | started (mode : Mode)
  /-- The connection has a new status. -/
  | connectionChanged (before after : ConnectionStatus)
  /-- News of a session came that the status does not wait for. -/
  | connectionEventIgnored (status : ConnectionStatus) (event : ConnectionEvent)
  /-- Another attempt to connect will be made. -/
  | reconnectScheduled (delay : UInt32)
  /-- A subscription was asked for and answered. -/
  | subscribed (topic : Topic) (answer : Answer)
  /-- The mode has changed, or was entered again. -/
  | modeChanged (before after : Mode)
  /-- A command has come in. -/
  | commandReceived (command : Command)
  /-- A payload came that no inbound topic announced. -/
  | payloadIgnored (length : Nat)
  /-- The transport has taken a publication. -/
  | published (publication : Publication)
  /-- The transport has refused a publication, which is not tried again. -/
  | publishFailed (channel : Channel) (reason : TransportError)
deriving DecidableEq, Repr

/-- The log line of an event. -/
def Event.line : Event → LogLine
  | .started mode => ⟨.info, "START | initial_mode=" ++ mode.name⟩
  | .connectionChanged before after => ⟨.info, "CONN  | " ++ before.name ++ " -> " ++ after.name⟩
  | .connectionEventIgnored status event =>
    ⟨.warn, "CONN  | " ++ event.name ++ " ignored while " ++ status.name⟩
  | .reconnectScheduled delay =>
    ⟨.info, "CONN  | reconnect in " ++ toString delay.toNat ++ " ms"⟩
  | .subscribed topic .taken => ⟨.info, "SUB   | " ++ topic.text⟩
  | .subscribed topic (.refused e) =>
    ⟨.warn, "SUB   | " ++ topic.text ++ " failed: " ++ e.message⟩
  | .modeChanged before after => ⟨.info, "MODE  | " ++ before.name ++ " -> " ++ after.name⟩
  | .commandReceived command => ⟨.info, "CMD   | " ++ command.name⟩
  | .payloadIgnored length =>
    ⟨.info, "CMD   | " ++ toString length ++ " byte payload on unrecognised topic ignored"⟩
  | .published p => ⟨.info, "PUB   | " ++ p.channel.name ++ " = " ++ p.payload.text⟩
  | .publishFailed channel e =>
    ⟨.warn, "PUB   | " ++ channel.name ++ " failed: " ++ e.message⟩

end TankGauge
