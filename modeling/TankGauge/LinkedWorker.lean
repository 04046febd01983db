import TankGauge.Session.BrokerLink
import TankGauge.Worker

/-!
# A worker on a link

A worker whose transport is a link to a broker. Whatever the sessions of the link report is put
into the inbox of the worker, which takes it in at once. The broker can be let act on the link, and
what it has been sent can be taken out.
-/

namespace TankGauge

/-- A worker whose transport is a link to a broker. -/
abbrev LinkedWorker := Worker BrokerLink

namespace LinkedWorker

/-- A node that has not been started, on a link with no session. -/
def ofConfig (c : Config) (session : SessionParams) : LinkedWorker :=
  { node := .ofConfig c session, site := { transport := {} } }

/-- The link as it is now. -/
def link (w : LinkedWorker) : BrokerLink := w.site.transport

/-- The same worker on a link in another state. -/
def setLink (w : LinkedWorker) (l : BrokerLink) : LinkedWorker :=
  { w with site := { w.site with transport := l } }

/-- Takes in what the sessions have reported. -/
def settle (w : LinkedWorker) : LinkedWorker :=
  let news := w.link.reported.reverse
  let w := w.setLink { w.link with reported := [] }
  let w := { w with inbox := w.inbox ++ news }
  Worker.pollAll w.inbox.length w

/-- Lets the broker act and takes in what comes of it. Without a session there is nothing to act
on. -/
def act (w : LinkedWorker) (a : BrokerLink.BrokerAct) : LinkedWorker :=
  (w.setLink ((w.link.act a).getD w.link)).settle

/-- Takes out the first packets that the broker has been sent, up to a number of them, oldest
first. -/
def takeSent (count : Nat) (w : LinkedWorker) : List Packet × LinkedWorker :=
  let arrived := w.link.sent.reverse
  (arrived.take count, w.setLink { w.link with sent := (arrived.drop count).reverse })

/-- Lets the clock move on to an instant and takes in what the timers lead to. -/
def wakeAt (instant : Nat) (w : LinkedWorker) : LinkedWorker :=
  settle (w.run fun n s => n.passTimeUntil (max s.now instant) s)

end LinkedWorker

end TankGauge
