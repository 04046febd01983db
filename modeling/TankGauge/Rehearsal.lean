import TankGauge.LinkedWorker
import TankGauge.Startup

/-!
# Rehearsing with a broker

A rehearsal runs a worker against a broker that follows a plan: it accepts the session, waits for
the first four packets, and then sends messages, waiting for so many packets after each. While it
waits the clock of the worker moves from deadline to deadline, so nothing hangs on how long
anything takes.
-/

namespace TankGauge

/-- A message that the broker sends, and how many packets it waits for afterwards. -/
structure Delivery where
  topic : String
  payload : Bytes
  awaited : Nat
deriving DecidableEq, Repr

/-- A worker on its link, and the packets that the broker has waited for, newest first. -/
structure Rehearsal where
  worker : LinkedWorker
  seen : List Packet := []

namespace Rehearsal

/-- How many deadlines a broker waits through for a packet. -/
def patience : Nat := 256

/-- Lets the broker act. -/
def act (r : Rehearsal) (a : BrokerLink.BrokerAct) : Rehearsal :=
  { r with worker := r.worker.act a }

/-- Lets the clock move on until the broker has been sent so many packets, over so many deadlines
at most. -/
def waitFor (count : Nat) : Nat → LinkedWorker → LinkedWorker
  | 0, w => w
  | deadlines + 1, w =>
    if count ≤ w.link.sent.length then w else waitFor count deadlines w.sleep

/-- Lets the broker wait for packets. -/
def await (r : Rehearsal) (count : Nat) : Rehearsal :=
  let (packets, worker) := (waitFor count patience r.worker).takeSent count
  { worker, seen := packets.reverse ++ r.seen }

/-- Lets the broker send a message and wait. -/
def deliver (r : Rehearsal) (d : Delivery) : Rehearsal :=
  (r.act (.deliver d.topic d.payload .atMostOnce)).await d.awaited

/-- The packets that a broker with a plan gets to see from a node. -/
def run (c : Config) (session : SessionParams) (plan : List Delivery) : List Packet :=
  let opened := ({ worker := (LinkedWorker.ofConfig c session).start } : Rehearsal).await 1
  let accepted := (opened.act (.connAck 0)).await 4
  (plan.foldl deliver accepted).seen.reverse

end Rehearsal

end TankGauge
