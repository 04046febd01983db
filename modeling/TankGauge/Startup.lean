import TankGauge.Config.Document
import TankGauge.Folder
import TankGauge.Identity
import TankGauge.Text.Number

/-!
# Starting up

The settings come from three places, each laid over the one before: the defaults, a file if one is
named, and two settings of the environment, for the host and the TCP port of the broker. A file has
to keep the rules by itself; what comes out at the end has to keep them again. Then the host is
resolved, once and for all.

A start that fails is reported by what was being done and, under it, by the cause.
-/

namespace TankGauge

namespace Startup

/-- What the environment says: where the file is, and which broker to go to. -/
structure Environment where
  configPath : Option String := none
  brokerHost : Option String := none
  brokerPort : Option String := none
deriving DecidableEq, Repr

/-- Why a start fails. -/
inductive Fault
  | unreadable (path : String) (cause : FileFault)
  | unusable (path : String) (cause : ConfigError)
  | hostTooLong
  | noPortNumber (cause : NumberFault)
  | invalid (cause : ConfigError)
  | unresolved (host : String) (cause : Failure)
deriving DecidableEq, Repr

namespace Fault

/-- What was being done. -/
def context : Fault → String
  | unreadable path _ => "reading " ++ path
  | unusable path _ => "parsing " ++ path
  | hostTooLong => "MQTT_HOST longer than 64 bytes"
  | noPortNumber _ => "MQTT_PORT is not a port number"
  | invalid _ => "invalid configuration"
  | unresolved host _ => "resolving " ++ host

/-- The wording of the cause, if there is one beyond what was being done. -/
def cause? : Fault → Option String
  | unreadable _ e => some e.message
  | unusable _ e => some e.message
  | hostTooLong => none
  | noPortNumber e => some e.message
  | invalid e => some e.message
  | unresolved _ e => some e.message

/-- The whole report. -/
def report (f : Fault) : String :=
  match f.cause? with
  | none => "Error: " ++ f.context ++ "\n"
  | some cause => "Error: " ++ f.context ++ "\n\nCaused by:\n    " ++ cause ++ "\n"

/-- The status that the program exits with. -/
def exitStatus : Nat := 1

end Fault

/-- A file that reads as a configuration and keeps the rules. -/
def configOfFile (read : String → Except FileFault Bytes) (path : String) : Except Fault Config :=
  match read path with
  | .error e => .error (.unreadable path e)
  | .ok bytes =>
    match Config.ofDocument bytes with
    | .error e => .error (.unusable path e)
    | .ok c => .ok c

/-- Lays the host of the environment over a configuration. -/
def withHost (c : Config) : Option String → Except Fault Config
  | none => .ok c
  | some host =>
    match BoundedText.ofString? host with
    | none => .error .hostTooLong
    | some brokerHost => .ok { c with brokerHost }

/-- Lays the TCP port of the environment over a configuration. -/
def withPort (c : Config) : Option String → Except Fault Config
  | none => .ok c
  | some number =>
    match Number16.read number with
    | .error e => .error (.noPortNumber e)
    | .ok brokerPort => .ok { c with brokerPort }

/-- The configuration to start with. -/
def config (read : String → Except FileFault Bytes) (e : Environment) : Except Fault Config := do
  let c ← match e.configPath with
    | none => .ok {}
    | some path => configOfFile read path
  let c ← withHost c e.brokerHost
  let c ← withPort c e.brokerPort
  match c.validate with
  | .error e => .error (.invalid e)
  | .ok () => return c

/-- Resolves a host without a name service: a literal address stands for itself, and no other name
is known. -/
def resolve (host : String) (tcpPort : UInt16) : Except Failure Endpoint :=
  match Address.ofHost? host with
  | some address => .ok { address, tcpPort }
  | none => .error (.init "broker name lookup failed")

/-- The configuration to start with and the session to ask for. -/
def prepare (read : String → Except FileFault Bytes) (e : Environment) :
    Except Fault (Config × SessionParams) := do
  let c ← config read e
  match resolve c.brokerHost.text c.brokerPort with
  | .error cause => .error (.unresolved c.brokerHost.text cause)
  | .ok broker => return (c, .ofConfig c simulatedHardwareId broker)

end Startup

end TankGauge
