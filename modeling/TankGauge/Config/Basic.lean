import TankGauge.Failure

/-!
# Configuration

What can be set about a node, with the values of the deployed tank where nothing is said. Eight
rules bound what makes sense; they are asked in a fixed order, and the first one broken is the one
that is reported. A value is never bent to fit.
-/

namespace TankGauge

/-- The host that the deployed tank goes to. -/
def deployedHost : BoundedText 64 := ⟨"broker.hivemq.com", by decide⟩

/-- What the client identifier of the deployed tank begins with. -/
def deployedPrefix : BoundedText 8 := ⟨"nxp_", by decide⟩

/-- The settings of a node. Times are in milliseconds, the keep-alive interval is in seconds. -/
structure Config where
  /-- A host name or a literal address. -/
  brokerHost : BoundedText 64 := deployedHost
  brokerPort : UInt16 := 1883
  keepAlive : UInt16 := 100
  /-- What the client identifier begins with. -/
  clientIdPrefix : BoundedText 8 := deployedPrefix
  topics : Topics := {}
  /-- From one step of the gauge to the next. -/
  stepInterval : UInt32 := 10
  /-- From the end of a fill request to the first step up. -/
  resumeDelay : UInt32 := 5000
  /-- From the loss of a session to the next attempt. -/
  reconnectShort : UInt32 := 1000
  /-- From a failed attempt to the next. -/
  reconnectLong : UInt32 := 10000
deriving DecidableEq, Repr

namespace Config

instance : Inhabited Config := ⟨{}⟩

/-- What a configuration has to satisfy. -/
inductive Rule
  | hostNamed
  | tcpPortPositive
  | keepAlivePositive
  | stepPositive
  | shortPositive
  | longNotShorter
  | topicsNamed
  | inboundDistinct
deriving DecidableEq, Repr

namespace Rule

/-- The rules in the order in which they are asked. -/
def all : List Rule :=
  [hostNamed, tcpPortPositive, keepAlivePositive, stepPositive, shortPositive, longNotShorter,
    topicsNamed, inboundDistinct]

/-- Whether a configuration satisfies a rule. -/
def holds (c : Config) : Rule → Bool
  | hostNamed => !c.brokerHost.isEmpty
  | tcpPortPositive => 0 < c.brokerPort
  | keepAlivePositive => 0 < c.keepAlive
  | stepPositive => 0 < c.stepInterval
  | shortPositive => 0 < c.reconnectShort
  | longNotShorter => c.reconnectShort ≤ c.reconnectLong
  | topicsNamed => c.topics.toList.all fun t => !t.isEmpty
  | inboundDistinct => c.topics.fillRequest ≠ c.topics.alarm

/-- What is said when a rule is broken. -/
def message : Rule → String
  | hostNamed => "broker_host must not be empty"
  | tcpPortPositive => "broker_port must be > 0"
  | keepAlivePositive => "keep_alive_secs must be > 0"
  | stepPositive => "step_interval_ms must be > 0"
  | shortPositive => "reconnect_short_ms must be > 0"
  | longNotShorter => "reconnect_long_ms must be >= reconnect_short_ms"
  | topicsNamed => "topics must not be empty"
  | inboundDistinct => "fill_request and alarm topics must differ"

end Rule

/-- The first rule that a configuration breaks. -/
def firstBroken? (c : Config) : Option Rule := Rule.all.find? fun r => !r.holds c

/-- Refuses a configuration that breaks a rule. -/
def validate (c : Config) : Except ConfigError Unit :=
  match c.firstBroken? with
  | none => .ok ()
  | some r => .error (.invalid r.message)

end Config

end TankGauge
