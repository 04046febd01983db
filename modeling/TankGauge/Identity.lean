import TankGauge.Config.Basic
import TankGauge.Publication
import TankGauge.Text.Hex

/-!
# The identity of a client

A client identifier is a configured prefix and the hardware identifier in hexadecimal, two digits
a byte, last byte first. It is written into 48 bytes: a prefix that does not fit is left out. A
byte below sixteen is written in two strokes, the padding zero and the digit, any other byte in one
stroke, and each stroke is left out if it does not fit.
-/

namespace TankGauge

/-- The strokes in which a byte is written. -/
def hexStrokes (b : UInt8) : List String :=
  if b < 16 then ["0", Hex.ofNat b.toNat] else [Hex.ofNat b.toNat]

/-- The client identifier of a prefix and a hardware identifier. -/
def ClientId.make (lead : String) (hardwareId : Bytes) : ClientId :=
  (hardwareId.reverse.flatMap hexStrokes).foldl BoundedText.write (BoundedText.empty.write lead)

/-- The hardware identifier of a tank that has no hardware. -/
def simulatedHardwareId : Bytes := [0xde, 0xad, 0xbe, 0xef, 0xca, 0xfe]

/-- The session that a node asks for: under its own name, and with the last will that it has gone
offline. -/
def SessionParams.ofConfig (c : Config) (hardwareId : Bytes) (broker : Endpoint) :
    SessionParams where
  clientId := ClientId.make c.clientIdPrefix.text hardwareId
  broker := broker
  keepAlive := c.keepAlive
  lastWill :=
    { topic := c.topics.availability, payload := Publication.offlineWord, qos := .atLeastOnce
      retain := true }

end TankGauge
