import TankGauge.Config.Basic
import TankGauge.Site

/-!
# The connection to the broker

A connection is asked for only when there is none. An accepted session subscribes to both inbound
topics at once and leaves the announcement to a timer without delay, so that it is made after the
news of the acceptance has been dealt with. A session that was accepted and then lost is followed
by a new attempt after the short delay, and an attempt that fails in any way after the long one.
-/

namespace TankGauge

/-- The status, the session to ask for, the two delays, and how many attempts were made. -/
structure Connection where
  status : ConnectionStatus := .disconnected
  session : SessionParams
  shortDelay : UInt32
  longDelay : UInt32
  attempts : Nat := 0
deriving DecidableEq, Repr

namespace Connection

variable {τ : Type}

/-- A connection that has not been asked for yet. -/
def ofConfig (c : Config) (session : SessionParams) : Connection where
  session := session
  shortDelay := c.reconnectShort
  longDelay := c.reconnectLong

/-- Gives the connection a status and lets the outside know. -/
def moveTo (c : Connection) (status : ConnectionStatus) (s : Site τ) : Connection × Site τ :=
  ({ c with status }, s.emit (.connectionChanged c.status status))

/-- Arms the timer of the next attempt. -/
def retryAfter (delay : UInt32) (s : Site τ) : Site τ :=
  (s.schedule .reconnect delay).emit (.reconnectScheduled delay)

/-- Ends an attempt that has failed. -/
def failAttempt (c : Connection) (s : Site τ) : Connection × Site τ :=
  let (c, s) := c.moveTo .disconnected s
  (c, retryAfter c.longDelay s)

variable [Transport τ]

/-- Asks the transport for a session, unless there is one or one is on its way. -/
def connect (c : Connection) (s : Site τ) : Connection × Site τ :=
  if c.status = .disconnected then
    let (c, s) := c.moveTo .connecting s
    let c := { c with attempts := c.attempts + 1 }
    let s := s.note (.connecting c.session.broker c.session.clientId c.attempts)
    match s.connect c.session with
    | (.taken, s) => (c, s)
    | (.refused reason, s) => c.failAttempt (s.note (.connectFailed reason))
  else (c, s.note (.connectRefused c.status))

/-- Subscribes to a topic and lets the outside know how that was answered. -/
def subscribeTo (topic : Topic) (s : Site τ) : Site τ :=
  let (answer, s) := s.subscribe topic .atLeastOnce
  s.emit (.subscribed topic answer)

/-- Takes in news of the session. -/
def onEvent (c : Connection) (topics : Topics) (event : ConnectionEvent) (s : Site τ) :
    Connection × Site τ :=
  match c.status, event with
  | .connecting, .accepted =>
    let (c, s) := c.moveTo .connected s
    let s := subscribeTo topics.alarm (subscribeTo topics.fillRequest s)
    (c, s.schedule .announce 0)
  | .connecting, .rejected | .connecting, .disconnected =>
    c.failAttempt (s.note .sessionRejected)
  | .connected, .rejected | .connected, .disconnected =>
    let (c, s) := c.moveTo .disconnected ((s.note .sessionDropped).cancel .announce)
    (c, retryAfter c.shortDelay s)
  | status, event => (c, s.emit (.connectionEventIgnored status event))

/-! ## An attempt in two parts: the question and what its answer leads to -/

/-- The site of an attempt that is about to be made. -/
def asking (c : Connection) (s : Site τ) : Site τ :=
  (c.moveTo .connecting s).2.note
    (.connecting c.session.broker c.session.clientId (c.attempts + 1))

omit [Transport τ] in
/-- What becomes of an attempt that has been answered. -/
def answered (c : Connection) : Answer × Site τ → Connection × Site τ
  | (.taken, s) => (c, s)
  | (.refused reason, s) => c.failAttempt (s.note (.connectFailed reason))

theorem connect_of_disconnected {c : Connection} (h : c.status = .disconnected) (s : Site τ) :
    c.connect s =
      { c with status := .connecting, attempts := c.attempts + 1 }.answered
        ((c.asking s).connect c.session) := by
  unfold connect
  rw [if_pos h]
  show (match (c.asking s).connect c.session with
    | (.taken, s) => _
    | (.refused reason, s) => _) = _
  rcases (c.asking s).connect c.session with ⟨_ | reason, s'⟩ <;> rfl

theorem connect_of_ne_disconnected {c : Connection} (h : c.status ≠ .disconnected) (s : Site τ) :
    c.connect s = (c, s.note (.connectRefused c.status)) :=
  if_neg h

end Connection

end TankGauge
