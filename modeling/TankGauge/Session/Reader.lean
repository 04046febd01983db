import TankGauge.Transport.Basic

/-!
# The network side of a session

Each session has a reader that is told, notification by notification, what comes in from the
broker, and passes on as news what the node should know. An acceptance and every message are
passed on; a session that is turned down, or fails before it was accepted, is reported as rejected,
and one that fails later as disconnected. With either of these two the reader is done.

A reader also stops when nobody takes its news any more.
-/

namespace TankGauge

/-- What a reader is told. -/
inductive Notification
  /-- The broker has answered the request for a session; zero means yes. -/
  | connAck (code : Nat)
  | publish (topic : String) (payload : Bytes)
  /-- The broker has granted or refused a subscription. -/
  | subAck
  /-- The broker has taken a message. -/
  | pubAck
  /-- Any other packet, in or out. -/
  | other
  /-- The session cannot go on. -/
  | failure
deriving DecidableEq, Repr

/-- What a reader makes of a notification: news, if there are any, whether the session counts as
accepted from now on, and whether the reader is done. -/
structure Hearing where
  news : Option NetEvent := none
  accepted : Bool
  done : Bool := false
deriving DecidableEq, Repr

namespace Reader

/-- What a reader makes of a notification, given whether its session has been accepted. -/
def hear (accepted : Bool) : Notification → Hearing
  | .connAck 0 => { news := some (.connection .accepted), accepted := true }
  | .connAck _ => { news := some (.connection .rejected), accepted, done := true }
  | .publish topic payload => { news := some (.publish topic payload), accepted }
  | .subAck | .pubAck | .other => { accepted }
  | .failure =>
    { news := some (.connection (if accepted then .disconnected else .rejected)),
      accepted, done := true }

/-- The news that a reader has of notifications in order. -/
def news (accepted : Bool) : List Notification → List NetEvent
  | [] => []
  | n :: rest =>
    let h := hear accepted n
    h.news.toList ++ if h.done then [] else news h.accepted rest

/-- What a session reports when `taken` of its news are taken before nobody takes any more. -/
def reports (session taken : Nat) (notifications : List Notification) : List SessionEvent :=
  ((news false notifications).take taken).map fun event => { session, event }

end Reader

end TankGauge
