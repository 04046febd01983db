/-!
# Where a connection stands
-/

namespace TankGauge

/-- No session, a session asked for, or a session that the broker has accepted. -/
inductive ConnectionStatus
  | disconnected
  | connecting
  | connected
deriving DecidableEq, Repr

/-- The name a log line gives the status. -/
def ConnectionStatus.name : ConnectionStatus → String
  | .disconnected => "Disconnected"
  | .connecting => "Connecting"
  | .connected => "Connected"

end TankGauge
