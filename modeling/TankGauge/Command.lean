import TankGauge.Topics

/-!
# Inbound commands

A message reaches the node in two parts, first its topic and then its payload. The topic decides
what kind of command the payload is, and the payload decides whether it switches on or off: on, if
it begins with the two bytes of `ON`, else off.
-/

namespace TankGauge

/-- Which of the two inbound topics the next payload belongs to, if any. -/
inductive PendingTopic
  | none
  | request
  | alarm
deriving DecidableEq, Repr

/-- The name a log line gives the pending topic. -/
def PendingTopic.name : PendingTopic → String
  | .none => "None"
  | .request => "Request"
  | .alarm => "Alarm"

/-- The inbound topic that a topic name is, to the letter. A name that is both counts as the fill
request. -/
def PendingTopic.classify (topics : Topics) (topic : String) : PendingTopic :=
  if topic = topics.fillRequest.text then .request
  else if topic = topics.alarm.text then .alarm
  else .none

/-- A fill request raised or withdrawn, or an alarm raised or cleared. -/
inductive Command
  | fillRequest (on : Bool)
  | alarm (on : Bool)
deriving DecidableEq, Repr

/-- As much of a payload as is looked at: fifteen bytes. -/
abbrev Payload := BoundedList UInt8 15

namespace Command

/-- Whether a payload switches on. -/
def switchesOn (payload : Bytes) : Bool := [Ascii.upperO, Ascii.upperN].isPrefixOf payload

/-- The command that a payload is on a topic. -/
def decode (topic : PendingTopic) (payload : Bytes) : Option Command :=
  match topic with
  | .none => none
  | .request => some (.fillRequest (switchesOn payload))
  | .alarm => some (.alarm (switchesOn payload))

/-- The name a log line gives the command. -/
def name : Command → String
  | fillRequest on => "FillRequest(" ++ toString on ++ ")"
  | alarm on => "Alarm(" ++ toString on ++ ")"

end Command

end TankGauge
