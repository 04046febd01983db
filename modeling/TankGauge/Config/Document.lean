import TankGauge.Config.Basic
import TankGauge.Json.Parser
import TankGauge.Json.Record

/-!
# Configurations as JSON documents

A configuration is a record of nine fields, one of which is the record of the five topics. What a
document leaves out is taken from the defaults. `Config.ofDocument` reads a document and holds the
outcome to the rules; `Config.toDocument` writes every field, in order and without blanks.
-/

namespace TankGauge

/-- A topic of a tank. -/
inductive Topics.Field
  | availability
  | level
  | fillState
  | fillRequest
  | alarm
deriving DecidableEq, Repr

/-- A setting of a node. -/
inductive Config.Field
  | brokerHost
  | brokerPort
  | keepAlive
  | clientIdPrefix
  | topics
  | stepInterval
  | resumeDelay
  | reconnectShort
  | reconnectLong
deriving DecidableEq, Repr

namespace Json

/-- A text that fits into `cap` bytes. -/
def boundedText? (cap : Nat) : Json → Option (BoundedText cap)
  | .text spelling => (Text.read? spelling).bind BoundedText.ofString?
  | _ => none

/-- A natural number of sixteen bits. -/
def uint16? (v : Json) : Option UInt16 :=
  v.natural?.bind fun n => if n < UInt16.size then some (UInt16.ofNat n) else none

/-- A natural number of thirty-two bits. -/
def uint32? (v : Json) : Option UInt32 :=
  v.natural?.bind fun n => if n < UInt32.size then some (UInt32.ofNat n) else none

/-- The document of a text. -/
def ofText (s : String) : Json := .text (Text.spell s)

end Json

namespace Topics

/-- The key of a topic. -/
def Field.key : Field → String
  | .availability => "availability"
  | .level => "level"
  | .fillState => "fill_state"
  | .fillRequest => "fill_request"
  | .alarm => "alarm"

/-- The topics with one of them replaced. -/
def set? (f : Field) (v : Json) (t : Topics) : Option Topics :=
  (v.boundedText? 64).map fun topic =>
    match f with
    | .availability => { t with availability := topic }
    | .level => { t with level := topic }
    | .fillState => { t with fillState := topic }
    | .fillRequest => { t with fillRequest := topic }
    | .alarm => { t with alarm := topic }

/-- One of the topics. -/
def get (t : Topics) : Field → Topic
  | .availability => t.availability
  | .level => t.level
  | .fillState => t.fillState
  | .fillRequest => t.fillRequest
  | .alarm => t.alarm

/-- The topics as a record. -/
def form : Json.RecordForm Field Topics where
  fields := [.availability, .level, .fillState, .fillRequest, .alarm]
  key := Field.key
  set? := set?

/-- The document of the topics. -/
def toJson (t : Topics) : Json := form.write fun f => .ofText (t.get f).text

end Topics

namespace Config

/-- The key of a setting. -/
def Field.key : Field → String
  | .brokerHost => "broker_host"
  | .brokerPort => "broker_port"
  | .keepAlive => "keep_alive_secs"
  | .clientIdPrefix => "client_id_prefix"
  | .topics => "topics"
  | .stepInterval => "step_interval_ms"
  | .resumeDelay => "resume_delay_ms"
  | .reconnectShort => "reconnect_short_ms"
  | .reconnectLong => "reconnect_long_ms"

/-- The configuration with one setting replaced. The topics that a document gives are laid over
the default ones. -/
def set? (f : Field) (v : Json) (c : Config) : Option Config :=
  match f with
  | .brokerHost => (v.boundedText? 64).map fun x => { c with brokerHost := x }
  | .brokerPort => v.uint16?.map fun x => { c with brokerPort := x }
  | .keepAlive => v.uint16?.map fun x => { c with keepAlive := x }
  | .clientIdPrefix => (v.boundedText? 8).map fun x => { c with clientIdPrefix := x }
  | .topics => (Topics.form.read? v {}).map fun x => { c with topics := x }
  | .stepInterval => v.uint32?.map fun x => { c with stepInterval := x }
  | .resumeDelay => v.uint32?.map fun x => { c with resumeDelay := x }
  | .reconnectShort => v.uint32?.map fun x => { c with reconnectShort := x }
  | .reconnectLong => v.uint32?.map fun x => { c with reconnectLong := x }

/-- What a setting holds, as a document. -/
def get (c : Config) : Field → Json
  | .brokerHost => .ofText c.brokerHost.text
  | .brokerPort => .ofNatural c.brokerPort.toNat
  | .keepAlive => .ofNatural c.keepAlive.toNat
  | .clientIdPrefix => .ofText c.clientIdPrefix.text
  | .topics => c.topics.toJson
  | .stepInterval => .ofNatural c.stepInterval.toNat
  | .resumeDelay => .ofNatural c.resumeDelay.toNat
  | .reconnectShort => .ofNatural c.reconnectShort.toNat
  | .reconnectLong => .ofNatural c.reconnectLong.toNat

/-- The configuration as a record. -/
def form : Json.RecordForm Field Config where
  fields :=
    [.brokerHost, .brokerPort, .keepAlive, .clientIdPrefix, .topics, .stepInterval, .resumeDelay,
      .reconnectShort, .reconnectLong]
  key := Field.key
  set? := set?

/-- The document of a configuration. -/
def toJson (c : Config) : Json := form.write c.get

/-- The bytes of the document of a configuration. -/
def toDocument (c : Config) : Bytes := c.toJson.print

/-- The configuration that a document gives over the defaults, whether it keeps the rules or not. -/
def read? (document : Bytes) : Option Config :=
  (Json.parse? document).bind fun v => form.read? v {}

/-- The configuration that a document gives over the defaults, if it keeps the rules. -/
def ofDocument (document : Bytes) : Except ConfigError Config :=
  match read? document with
  | none => .error .corrupted
  | some c =>
    match c.validate with
    | .ok () => .ok c
    | .error e => .error e

end Config

end TankGauge
