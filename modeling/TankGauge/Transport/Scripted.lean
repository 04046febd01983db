import TankGauge.Transport.Basic

/-!
# A transport that answers from a script

For each kind of call there is a list of answers, given one by one. When a list has run out, a
session can always be opened, and the other calls are taken while the link is up and refused as
not connected while it is down. Any finite run of answers can be scripted this way.
-/

namespace TankGauge

/-- The answers still to be given, whether the link is up, and the number of sessions opened. -/
structure Scripted where
  connects : List Answer := []
  subscribes : List Answer := []
  publishes : List Answer := []
  linkUp : Bool := false
  sessions : Nat := 0
deriving DecidableEq, Repr

namespace Scripted

instance : Inhabited Scripted := ⟨{}⟩

/-- The answer of a script that has run out. -/
def unscripted (t : Scripted) : Answer := if t.linkUp then .taken else .refused .notConnected

/-- Opens a session, unless the script refuses it. -/
def connect (t : Scripted) : Answer × Scripted :=
  match t.connects with
  | [] => (.taken, { t with sessions := t.sessions + 1 })
  | .taken :: rest => (.taken, { t with connects := rest, sessions := t.sessions + 1 })
  | .refused e :: rest => (.refused e, { t with connects := rest })

/-- Answers a subscription. -/
def subscribe (t : Scripted) : Answer × Scripted :=
  match t.subscribes with
  | [] => (t.unscripted, t)
  | a :: rest => (a, { t with subscribes := rest })

/-- Answers a publication. -/
def publish (t : Scripted) : Answer × Scripted :=
  match t.publishes with
  | [] => (t.unscripted, t)
  | a :: rest => (a, { t with publishes := rest })

instance : Transport Scripted where
  connect t _ := t.connect
  subscribe t _ _ := t.subscribe
  publish t _ _ _ _ := t.publish
  session t := t.sessions
  refusalsLeft t := t.connects.length

/-- Appends answers to each list. -/
def extend (t : Scripted) (connects subscribes publishes : List Answer) : Scripted :=
  { t with
    connects := t.connects ++ connects
    subscribes := t.subscribes ++ subscribes
    publishes := t.publishes ++ publishes }

end Scripted

end TankGauge
