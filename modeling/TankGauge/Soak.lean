import TankGauge.Bench

/-!
# The soak drill

The drill feeds arbitrary bytes to a node as messages. The bytes are read as records. The first
byte of a record says which of four topics comes in, whether the payload is complete, and how long
it is; as much of the payload as is left follows. After each record every timer that is armed when
its turn comes fires once, in the order of the roles and without any clock.

The transport of the drill takes every call, and nothing becomes of it.
-/

namespace TankGauge

/-- A transport that takes every call. -/
structure Inert where
deriving DecidableEq, Repr

instance : Transport Inert where
  connect t _ := (.taken, t)
  subscribe t _ _ := (.taken, t)
  publish t _ _ _ _ := (.taken, t)
  session _ := 0
  refusalsLeft _ := 0

namespace Soak

/-- What one record feeds to the node. -/
structure Record where
  topic : String
  complete : Bool
  payload : Bytes
deriving DecidableEq, Repr

/-- The topic of a record: the two inbound ones, another one, and none at all. -/
def topicOf (header : UInt8) : String :=
  match header &&& 3 with
  | 0 => "tank/oxygen_request"
  | 1 => "tank/alarm"
  | 2 => "tank/other"
  | _ => ""

/-- Splits bytes into records. -/
def records : Bytes → List Record
  | [] => []
  | header :: rest =>
    let length := (header >>> 3).toNat
    { topic := topicOf header, complete := header &&& 4 ≠ 0, payload := rest.take length } ::
      records (rest.drop length)
termination_by bytes => bytes.length
decreasing_by simp only [List.length_drop, List.length_cons]; omega

/-- The node of the drill and its site. -/
def fresh : Node × Site Inert :=
  let c : Config := {}
  let session := SessionParams.ofConfig c [1, 2] ⟨.v4 ⟨127, 0, 0, 1⟩, 1883⟩
  (Node.ofConfig c session, { transport := {} })

/-- Fires a timer if it is armed. -/
def fireIfArmed (state : Node × Site Inert) (role : TimerRole) : Node × Site Inert :=
  let (n, s) := state
  if s.timers.isArmed role then n.onTimer role { s with timers := s.timers.cancel role } else (n, s)

/-- Feeds one record to the node and fires each armed timer once. -/
def feed (state : Node × Site Inert) (r : Record) : Node × Site Inert :=
  let (n, s) := state
  let (n, s) := n.onTopic r.topic s
  TimerRole.all.foldl fireIfArmed (n.onPayload r.payload r.complete s)

/-- Starts a node and feeds it all records of some bytes. -/
def run (bytes : Bytes) : Node × Site Inert :=
  let (n, s) := fresh
  (records bytes).foldl feed (n.start s)

/-- The notes that a drill leaves, in order. -/
def notes (bytes : Bytes) : List Note :=
  (run bytes).2.journal.reverse.filterMap fun
    | .note n => some n
    | _ => none

end Soak

end TankGauge
