import TankGauge.Command
import TankGauge.Timer.Role

/-!
# Modes and effects

A node is in one of four modes. A mode never acts by itself: it asks for effects, which the node
carries out in the order they were asked for.
-/

namespace TankGauge

/-- What the tank is doing. -/
inductive Mode
  /-- Nothing has been asked of it, or an alarm is over that no fill request outlived. -/
  | idle
  /-- A fill is requested and the gauge walks down. -/
  | emptying
  /-- The request is withdrawn; after a pause the gauge walks up. -/
  | refilling
  /-- An alarm holds the gauge where it is. -/
  | alarmed
deriving DecidableEq, Repr

namespace Mode

/-- The four modes in the order of their numbers. -/
def all : List Mode := [idle, emptying, refilling, alarmed]

/-- The name a log line gives the mode. -/
def name : Mode → String
  | idle => "Idle"
  | emptying => "Emptying"
  | refilling => "Refilling"
  | alarmed => "Alarmed"

/-- The mode of a number. -/
def ofIndex? (index : Nat) : Option Mode := all[index]?

/-- What is said of a number that no mode has. -/
def invalidIndexMessage (index : Nat) : String := "invalid mode index: " ++ toString index

end Mode

/-- Something that a mode asks the node to do. -/
inductive Effect
  /-- Disarm a timer. -/
  | cancel (role : TimerRole)
  /-- Arm a timer. -/
  | schedule (role : TimerRole) (delay : UInt32)
  /-- Take one step down now. -/
  | startDecrease
  /-- Tell that the level is stable. -/
  | publishStable
deriving DecidableEq, Repr

/-- The name a log line gives the effect. -/
def Effect.name : Effect → String
  | .cancel r => "Cancel(" ++ r.name ++ ")"
  | .schedule r delay =>
    "Schedule \x7b role: " ++ r.name ++ ", delay_ms: " ++ toString delay.toNat ++ " \x7d"
  | .startDecrease => "StartDecrease"
  | .publishStable => "PublishStable"

end TankGauge
