import TankGauge.Text.Bounded

/-!
# Topics

The names under which a tank publishes and listens. A topic takes at most 64 bytes.
-/

namespace TankGauge

/-- A topic name. -/
abbrev Topic := BoundedText 64

/-- As much of a text as a topic can hold. -/
def Topic.ofString (s : String) : Topic := BoundedText.truncate s

/-! ## The topics of the deployed tank -/

namespace Topic

/-- Whether the tank is online. -/
def availability : Topic := ⟨"tank/availability", by decide⟩

/-- The level in decimal. -/
def level : Topic := ⟨"tank/oxygen_level", by decide⟩

/-- Which way the level moves. -/
def fillState : Topic := ⟨"tank/fill_state", by decide⟩

/-- Fill requests, inbound. -/
def fillRequest : Topic := ⟨"tank/oxygen_request", by decide⟩

/-- Alarms, inbound. -/
def alarm : Topic := ⟨"tank/alarm", by decide⟩

end Topic

/-- The topics of one tank: three that it publishes on, two that it listens to. -/
structure Topics where
  availability : Topic := Topic.availability
  level : Topic := Topic.level
  fillState : Topic := Topic.fillState
  fillRequest : Topic := Topic.fillRequest
  alarm : Topic := Topic.alarm
deriving DecidableEq, Repr

namespace Topics

instance : Inhabited Topics := ⟨{}⟩

/-- All five topics. -/
def toList (t : Topics) : List Topic :=
  [t.availability, t.level, t.fillState, t.fillRequest, t.alarm]

end Topics

end TankGauge
