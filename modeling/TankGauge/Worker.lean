import TankGauge.Node

/-!
# The worker

The worker is the one place where a node runs. News of all sessions arrives in one inbox; a poll
takes at most one piece of news out of it and then fires every timer that is due. News of a session
that is not the current one is dropped. When the inbox is closed and empty, the worker is done.
-/

namespace TankGauge

/-- A node on its site, the news that waits for it, and whether more can arrive. -/
structure Worker (τ : Type) where
  node : Node
  site : Site τ
  /-- What has not been taken out yet, oldest first. -/
  inbox : List SessionEvent := []
  closed : Bool := false

namespace Worker

variable {τ : Type}

/-- Puts news into the inbox, unless it is closed. Says whether it was. -/
def receive (w : Worker τ) (e : SessionEvent) : Bool × Worker τ :=
  if w.closed then (false, w) else (true, { w with inbox := w.inbox ++ [e] })

/-- Closes the inbox; what is in it can still be taken out. -/
def close (w : Worker τ) : Worker τ := { w with closed := true }

/-- The journal without the calls of the clock, oldest first, and the worker with a fresh one. -/
def takeJournal (w : Worker τ) : List Entry × Worker τ :=
  let isClockCall : Entry → Bool
    | .schedule .. | .cancel .. | .fire .. => true
    | _ => false
  ((w.site.journal.filter fun e => !isClockCall e).reverse,
    { w with site := { w.site with journal := [] } })

variable [Transport τ]

/-- Lets a callback of the node run. -/
def run (w : Worker τ) (callback : Node → Site τ → Node × Site τ) : Worker τ :=
  let (node, site) := callback w.node w.site
  { w with node, site }

/-- Starts the node. -/
def start (w : Worker τ) : Worker τ := w.run Node.start

/-- Takes in a piece of news. -/
def dispatch (w : Worker τ) (e : SessionEvent) : Worker τ :=
  let current := Transport.session w.site.transport
  if e.session = current then
    match e.event with
    | .connection event => w.run (·.onConnectionEvent event)
    | .publish topic payload =>
      w.run fun n s =>
        let (n, s) := n.onTopic topic s
        n.onPayload payload true s
  else { w with site := w.site.note (.staleEvent e current) }

/-- Fires every timer that is due. The clock is read once and stands still for the whole drain. If
it were read again before each timer, what falls due meanwhile would fire at once; here that is left
to the next poll. -/
def fireDueTimers (w : Worker τ) : Worker τ := w.run fun n s => n.passTimeUntil s.now s

/-- Takes in one piece of news, if there is one, and fires every timer that is due. Says whether
there is anything left to wait for. -/
def poll (w : Worker τ) : Bool × Worker τ :=
  match w.inbox with
  | e :: rest => (true, ({ w with inbox := rest }.dispatch e).fireDueTimers)
  | [] => (!w.closed, w.fireDueTimers)

/-- Polls as long as there is news, `limit` times at most, and once more. -/
def pollAll (limit : Nat) (w : Worker τ) : Worker τ :=
  match limit with
  | 0 => w.poll.2
  | limit + 1 => if w.inbox.isEmpty then w.poll.2 else pollAll limit w.poll.2

/-- Closes the inbox, starts the node and polls until nothing is left. -/
def runToEnd (w : Worker τ) : Worker τ :=
  let w := pollAll w.inbox.length w.close.start
  { w with site := w.site.note .workerExiting }

/-- Lets the clock move on to the next deadline, if there is one, and fires what is due then. -/
def sleep (w : Worker τ) : Worker τ :=
  match w.site.timers.nextDeadline? with
  | none => w
  | some deadline => w.run fun n s => n.passTimeUntil (max s.now deadline) s

end Worker

end TankGauge
