import TankGauge.LinkedWorker
import TankGauge.Proofs.Reconnection

/-!
# The status follows the current session

News of all sessions, old and current, waits in one inbox, and comes in whatever order it was put
there. A worker drops what is not of the current session. So where the connection stands can be told
from the news of the current session alone that was taken in (`statusOf`): the session is over if it
was said to be over while it was current, else it is accepted if it was said to be accepted, and
else it is on its way.

`Watched` is a worker together with the news that it has taken out of its inbox so far. Between its
polls anything may be put into the inbox about sessions that have been opened, the clock may move
on, and the answers that the transport will give may change (`Move`).

An attempt that is refused opens no session. It may still use up a number (`NumbersSessions`), as it
does where a session is numbered before its thread is started (`Threaded`), and then no news of the
session before counts any more.
-/

namespace TankGauge

/-! ## Transports that number their sessions -/

/-- What can be relied on of the numbers of sessions: a session that is opened has the next number,
an attempt that is refused may use up the next number, and no other call changes anything. -/
class NumbersSessions (τ : Type) [Transport τ] where
  /-- Whether there is or was a session with the current number. -/
  opened : τ → Bool
  connect_taken (t : τ) (p : SessionParams) (h : (Transport.connect t p).1 = .taken) :
    (Transport.session (Transport.connect t p).2, opened (Transport.connect t p).2) =
      (Transport.session t + 1, true)
  connect_refused (t : τ) (p : SessionParams) (e : TransportError)
    (h : (Transport.connect t p).1 = .refused e) :
    (Transport.session (Transport.connect t p).2, opened (Transport.connect t p).2) =
      (Transport.session t, opened t) ∨
    (Transport.session (Transport.connect t p).2, opened (Transport.connect t p).2) =
      (Transport.session t + 1, false)
  subscribe (t : τ) (topic : String) (qos : QoS) :
    (Transport.session (Transport.subscribe t topic qos).2,
      opened (Transport.subscribe t topic qos).2) = (Transport.session t, opened t)
  publish (t : τ) (topic : String) (payload : Bytes) (qos : QoS) (retain : Bool) :
    (Transport.session (Transport.publish t topic payload qos retain).2,
      opened (Transport.publish t topic payload qos retain).2) = (Transport.session t, opened t)

/-- The current number, and whether there is or was a session with it. -/
def standing {τ : Type} [Transport τ] [NumbersSessions τ] (t : τ) : Nat × Bool :=
  (Transport.session t, NumbersSessions.opened t)

/-- A script opens a session whenever it does not refuse, and spends no number otherwise. -/
instance : NumbersSessions Scripted where
  opened t := t.sessions ≠ 0
  connect_taken t p h := by
    rcases t with ⟨_ | ⟨_ | e, rest⟩, _, _, _, sessions⟩
    · simp [Transport.connect, Scripted.connect, Transport.session]
    · simp [Transport.connect, Scripted.connect, Transport.session]
    · cases h
  connect_refused t p e h := by
    rcases t with ⟨_ | ⟨_ | e', rest⟩, _, _, _, sessions⟩
    · cases h
    · cases h
    · exact .inl rfl
  subscribe t _ _ := by
    rcases t with ⟨_, _ | ⟨_, _⟩, _, _, _⟩ <;> rfl
  publish t _ _ _ _ := by
    rcases t with ⟨_, _, _ | ⟨_, _⟩, _, _⟩ <;> rfl

/-- A transport that starts a thread for each session, after it has given the session its number. If
no thread can be started the attempt is refused: the number is used up, and there is no session to
take calls. A session takes every call. -/
structure Threaded where
  /-- Whether a thread can be started, attempt by attempt. Once the list has run out, one can. -/
  threads : List Bool := []
  number : Nat := 0
  /-- Whether there is a session with the number. -/
  running : Bool := false
deriving DecidableEq, Repr

namespace Threaded

/-- Gives the next number and starts a thread, if that can be done. -/
def connect (t : Threaded) : Answer × Threaded :=
  match t.threads with
  | [] => (.taken, { t with number := t.number + 1, running := true })
  | true :: rest => (.taken, { threads := rest, number := t.number + 1, running := true })
  | false :: rest =>
    (.refused .connectFailed, { threads := rest, number := t.number + 1, running := false })

/-- The answer to any other call. -/
def answer (t : Threaded) : Answer := if t.running then .taken else .refused .notConnected

instance : Transport Threaded where
  connect t _ := t.connect
  subscribe t _ _ := (t.answer, t)
  publish t _ _ _ _ := (t.answer, t)
  session t := t.number
  refusalsLeft t := t.threads.length

/-- An attempt that is refused has always used up a number. -/
instance : NumbersSessions Threaded where
  opened t := t.running
  connect_taken t p h := by
    rcases t with ⟨_ | ⟨_ | _, rest⟩, number, running⟩
    · rfl
    · cases h
    · rfl
  connect_refused t p e h := by
    rcases t with ⟨_ | ⟨_ | _, rest⟩, number, running⟩
    · cases h
    · exact .inr rfl
    · cases h
  subscribe _ _ _ := rfl
  publish _ _ _ _ _ := rfl

end Threaded

namespace BrokerLink

@[simp] theorem sessions_deliverOut (l : BrokerLink) (p : Packet) :
    (l.deliverOut p).sessions = l.sessions := rfl

@[simp] theorem sessions_notify (l : BrokerLink) (o : OpenSession) (n : Notification) :
    (l.notify o n).sessions = l.sessions := rfl

@[simp] theorem sessions_endCurrent (l : BrokerLink) : l.endCurrent.sessions = l.sessions := by
  unfold endCurrent
  split
  · rfl
  · split <;> rfl

theorem sessions_connect (l : BrokerLink) (p : SessionParams) :
    (l.connect p).2.sessions = l.sessions + 1 := by
  simp only [connect]
  split <;> simp

theorem sessions_request (l : BrokerLink) (p : Packet) :
    (l.request p).2.sessions = l.sessions := by
  unfold request
  split
  · rfl
  · split
    · rfl
    · split <;> rfl

/-- A link never refuses to open a session. -/
instance : NumbersSessions BrokerLink where
  opened l := l.sessions ≠ 0
  connect_taken l p _ := by
    show ((l.connect p).2.sessions, _) = _
    simp [sessions_connect, Transport.connect, Transport.session]
  connect_refused l p e h := by
    have htaken : (l.connect p).1 = .taken := by
      simp only [connect]
      split <;> rfl
    exact absurd (htaken.symm.trans h) nofun
  subscribe l topic qos := by
    have hsessions : (l.subscribe topic qos).2.sessions = l.sessions := by
      unfold subscribe
      split
      · rfl
      · exact sessions_request l _
    show ((l.subscribe topic qos).2.sessions, decide ((l.subscribe topic qos).2.sessions ≠ 0)) = _
    rw [hsessions]
    rfl
  publish l topic payload qos retain := by
    have hsessions : (l.publish topic payload qos retain).2.sessions = l.sessions := by
      unfold publish
      split
      · rfl
      · split
        · rfl
        · exact sessions_request l _
    show ((l.publish topic payload qos retain).2.sessions,
      decide ((l.publish topic payload qos retain).2.sessions ≠ 0)) = _
    rw [hsessions]
    rfl

end BrokerLink

/-! ## Subscriptions -/

/-- How many sessions have been opened according to the log of a link. -/
def openedIn (log : List LinkEntry) : Nat := log.count (.asked .taken)

/-- What was subscribed to in the session that was opened as the `k`-th, latest first. -/
def subscribedIn (k : Nat) : List LinkEntry → List Topic
  | [] => []
  | .subscribed topic :: earlier =>
    if openedIn earlier = k then topic :: subscribedIn k earlier else subscribedIn k earlier
  | _ :: earlier => subscribedIn k earlier

/-- Nothing was subscribed to in a session that is still to come. -/
theorem subscribedIn_of_lt {k : Nat} {log : List LinkEntry} (h : openedIn log < k) :
    subscribedIn k log = [] := by
  induction log with
  | nil => rfl
  | cons e earlier ih =>
    have hearlier : openedIn earlier < k :=
      Nat.lt_of_le_of_lt List.count_le_count_cons h
    cases e with
    | subscribed topic =>
      rw [subscribedIn, if_neg (Nat.ne_of_lt hearlier)]
      exact ih hearlier
    | asked | spurned | moved | announced => exact ih hearlier

namespace Link

/-- In each session both inbound topics were subscribed to once, or neither was; and neither was in
a session that is on its way. -/
structure Paired (l : Link) : Prop where
  pair : ∀ k, subscribedIn k l.log = [] ∨
    subscribedIn k l.log = [l.topics.alarm, l.topics.fillRequest]
  pending : l.status = .connecting → subscribedIn (openedIn l.log) l.log = []

namespace Paired

variable {l : Link}

theorem hear (h : l.Paired) (now : Nat) (event : ConnectionEvent) : (l.hear now event).Paired := by
  unfold Link.hear
  cases hstatus : l.status <;> cases event
  case connecting.accepted =>
    refine ⟨fun k => ?_, nofun⟩
    let moved := .moved l.status .connected :: l.log
    let asked := .subscribed l.topics.fillRequest :: moved
    have hmoved : openedIn moved = openedIn l.log := by simp [openedIn, moved]
    have hasked : openedIn asked = openedIn l.log := by simp [openedIn, asked, moved]
    have hbelow : subscribedIn k moved = subscribedIn k l.log := rfl
    show subscribedIn k (.subscribed l.topics.alarm :: asked) = [] ∨
      subscribedIn k (.subscribed l.topics.alarm :: asked) =
        [l.topics.alarm, l.topics.fillRequest]
    by_cases hk : openedIn l.log = k
    · right
      rw [subscribedIn, if_pos (hasked.trans hk), subscribedIn, if_pos (hmoved.trans hk), hbelow,
        ← hk, h.pending hstatus]
    · rw [subscribedIn, if_neg (hasked ▸ hk), subscribedIn, if_neg (hmoved ▸ hk), hbelow]
      exact h.pair k
  case connecting.rejected | connecting.disconnected => exact ⟨h.pair, nofun⟩
  case connected.rejected | connected.disconnected => exact ⟨h.pair, nofun⟩
  all_goals exact h

/-- A session that is opened has nothing subscribed to yet. -/
theorem ask (h : l.Paired) (now : Nat) (answer : Answer) : (l.ask now answer).Paired := by
  unfold Link.ask
  split
  · cases answer with
    | taken =>
      refine ⟨h.pair, fun _ => ?_⟩
      show subscribedIn (openedIn (.asked .taken :: .moved l.status .connecting :: l.log)) l.log =
        []
      exact subscribedIn_of_lt (by simp [openedIn])
    | refused reason => exact ⟨h.pair, nofun⟩
  · exact ⟨h.pair, h.pending⟩

theorem lapses (h : l.Paired) {now : Nat} {l' : Link} (hl : l.Lapses now l') : l'.Paired := by
  cases hl with
  | stays => exact h
  | retries due answer =>
    exact Paired.ask (l := { l with retryAt := none }) ⟨h.pair, h.pending⟩ now answer
  | announces due => exact ⟨h.pair, h.pending⟩

end Paired

end Link

/-! ## The status that the news of the current session speaks for -/

/-- News that a worker has taken out of its inbox, and the number of the session that was current
when it did. -/
structure Dispatch where
  news : SessionEvent
  current : Nat

namespace Dispatch

/-- Whether a session was said to be accepted. -/
def accepts (session : Nat) (d : Dispatch) : Bool :=
  d.news.session = session && d.news.event = .connection .accepted

/-- Whether a session was said to be turned down or over while it was current. -/
def ends (session : Nat) (d : Dispatch) : Bool :=
  d.news.session = session && d.current = session &&
    (d.news.event = .connection .rejected || d.news.event = .connection .disconnected)

end Dispatch

/-- The status that news speaks for, given the number of the current session and whether there is or
was a session with that number. -/
def statusOf (current : Nat × Bool) (taken : List Dispatch) : ConnectionStatus :=
  if !current.2 || taken.any (·.ends current.1) then .disconnected
  else if taken.any (·.accepts current.1) then .connected
  else .connecting

/-- What news of the current session makes of a status. -/
def ConnectionStatus.heard : ConnectionStatus → ConnectionEvent → ConnectionStatus
  | .connecting, .accepted => .connected
  | .connecting, .rejected | .connecting, .disconnected => .disconnected
  | .connected, .rejected | .connected, .disconnected => .disconnected
  | status, _ => status

theorem Link.status_hear (l : Link) (now : Nat) (event : ConnectionEvent) :
    (l.hear now event).status = l.status.heard event := by
  unfold hear
  cases hstatus : l.status <;> cases event <;> first | rfl | exact hstatus

section

variable {current : Nat × Bool} {taken : List Dispatch}

/-- News of another session speaks for nothing. -/
theorem statusOf_cons_of_stale {d : Dispatch} (h : d.news.session ≠ current.1) :
    statusOf current (d :: taken) = statusOf current taken := by
  simp [statusOf, Dispatch.ends, Dispatch.accepts, h]

/-- A message speaks for nothing. -/
theorem statusOf_cons_of_publish {d : Dispatch} {topic : String} {payload : Bytes}
    (h : d.news.event = .publish topic payload) :
    statusOf current (d :: taken) = statusOf current taken := by
  simp [statusOf, Dispatch.ends, Dispatch.accepts, h]

/-- News of the current session speaks for the status that it makes of the status before. -/
theorem statusOf_cons_of_current {d : Dispatch} {event : ConnectionEvent}
    (session : d.news.session = current.1) (now : d.current = current.1)
    (h : d.news.event = .connection event) :
    statusOf current (d :: taken) = (statusOf current taken).heard event := by
  have hends : d.ends current.1 = (event = .rejected || event = .disconnected) := by
    simp [Dispatch.ends, session, now, h]
  have haccepts : d.accepts current.1 = decide (event = .accepted) := by
    simp [Dispatch.accepts, session, h]
  simp only [statusOf, List.any_cons, hends, haccepts]
  generalize taken.any (·.ends current.1) = ended
  generalize taken.any (·.accepts current.1) = accepted
  cases current.2 <;> cases ended <;> cases accepted <;> cases event <;> rfl

/-- A session that has just been opened is on its way: nothing has been said about it. -/
theorem statusOf_next (number : Nat) (h : ∀ d ∈ taken, d.news.session ≤ number) :
    statusOf (number + 1, true) taken = .connecting := by
  have hne : ∀ d ∈ taken, d.news.session ≠ number + 1 := by
    intro d hmem heq
    have hle := h d hmem
    omega
  have hends : taken.any (·.ends (number + 1)) = false :=
    List.any_eq_false.mpr (fun d hmem => by simp [Dispatch.ends, hne d hmem])
  have haccepts : taken.any (·.accepts (number + 1)) = false :=
    List.any_eq_false.mpr (fun d hmem => by simp [Dispatch.accepts, hne d hmem])
  simp [statusOf, hends, haccepts]

end

/-! ## Nodes that keep track of the current session -/

section

open Site

variable {τ : Type} [Transport τ] [NumbersSessions τ]

/-- What asks for no session leaves the current one as it is. -/
theorem standing_of_acted {s s' : Site τ} (h : s.Acted Action.keepsSession s') :
    standing s'.transport = standing s.transport := by
  refine h.frame (fun s => standing s.transport) (fun s a ha => ?_)
  cases a with
  | connect => cases ha
  | tell | note | disarm => rfl
  | arm role delay => exact congrArg standing (transport_schedule s role delay)
  | subscribe topic qos => exact NumbersSessions.subscribe s.transport topic.text qos
  | publish topic payload qos retain =>
    exact NumbersSessions.publish s.transport topic.text (Bytes.utf8 payload) qos retain

namespace Node

variable (n : Node) (s : Site τ)

/-- An attempt that is taken leads to a session on its way that has the next number. One that is
refused leaves the connection as it was, and at most a number that no session has. -/
theorem standing_connect (h : n.connection.status = .disconnected) :
    ((n.connect s).1.connection.status = .connecting ∧
      standing (n.connect s).2.transport = (Transport.session s.transport + 1, true)) ∨
    ((n.connect s).1.connection.status = .disconnected ∧
      (standing (n.connect s).2.transport = standing s.transport ∨
        standing (n.connect s).2.transport = (Transport.session s.transport + 1, false))) := by
  let called := Transport.connect s.transport n.connection.session
  have hanswer : ((n.connection.asking s).connect n.connection.session).1 = called.1 := rfl
  have htransport : ((n.connection.asking s).connect n.connection.session).2.transport =
      called.2 := rfl
  have hconnect : n.connect s = ({ n with connection := (n.connection.connect s).1 },
      (n.connection.connect s).2) := rfl
  rw [hconnect, Connection.connect_of_disconnected h]
  rcases hcall : (n.connection.asking s).connect n.connection.session with ⟨answer, s'⟩
  rw [hcall] at hanswer htransport
  cases answer with
  | taken =>
    refine .inl ⟨rfl, ?_⟩
    show standing s'.transport = _
    rw [show s'.transport = called.2 from htransport]
    exact NumbersSessions.connect_taken s.transport n.connection.session hanswer.symm
  | refused reason =>
    refine .inr ⟨rfl, ?_⟩
    have hfailed :
        standing (Connection.failAttempt _ (s'.note (.connectFailed reason))).2.transport =
          standing s'.transport :=
      standing_of_acted ((Acted.refl.note rfl).trans (Connection.acted_failAttempt
        { n.connection with status := .connecting, attempts := n.connection.attempts + 1 } _
        (fun _ hkeeps _ _ => hkeeps)))
    show standing (Connection.failAttempt _ _).2.transport = _ ∨
      standing (Connection.failAttempt _ _).2.transport = _
    rw [hfailed, show s'.transport = called.2 from htransport]
    exact NumbersSessions.connect_refused s.transport n.connection.session reason hanswer.symm

/-- A timer that goes off, other than the one of the next attempt, changes nothing about the
session. -/
theorem standing_onTimer (settled : n.Settled) {role : TimerRole} (h : role ≠ .reconnect) :
    (n.onTimer role s).1.connection = n.connection ∧
      standing (n.onTimer role s).2.transport = standing s.transport := by
  by_cases hwalk : role.isWalk
  · obtain ⟨hconnection, hacted⟩ :=
      acted_respond_of_tank n s settled (c := .timer role) hwalk
    exact ⟨hconnection, standing_of_acted (hacted.mono (fun _ => Action.keepsSession_of_isTank))⟩
  · cases role with
    | decrease | increase | resume => exact absurd rfl hwalk
    | reconnect => exact absurd rfl h
    | announce => exact ⟨rfl, standing_of_acted (acted_announce n s (fun _ hkeeps _ _ => hkeeps))⟩

/-- The status is what the news so far speaks for, and all news, that taken in and that waiting, is
of sessions that have a number by now. -/
structure Follows (taken : List Dispatch) (waiting : List SessionEvent) (x : Node × Site τ) :
    Prop where
  status : x.1.connection.status = statusOf (standing x.2.transport) taken
  taken : ∀ d ∈ taken, d.news.session ≤ Transport.session x.2.transport
  waiting : ∀ e ∈ waiting, e.session ≤ Transport.session x.2.transport

namespace Follows

variable {taken : List Dispatch} {waiting : List SessionEvent} {x x' : Node × Site τ}

/-- Where nothing changes about the session, the status goes on to be what the news speaks for. -/
theorem congr (h : Follows taken waiting x)
    (status : x'.1.connection.status = x.1.connection.status)
    (same : standing x'.2.transport = standing x.2.transport) : Follows taken waiting x' := by
  have hsession : Transport.session x'.2.transport = Transport.session x.2.transport :=
    congrArg Prod.fst same
  refine ⟨?_, ?_, ?_⟩
  · rw [status, same]
    exact h.status
  · rw [hsession]
    exact h.taken
  · rw [hsession]
    exact h.waiting

/-- With the next number, the news so far speaks for nothing. -/
theorem next (h : Follows taken waiting x) (opened : Bool)
    (status : x'.1.connection.status = if opened then .connecting else .disconnected)
    (same : standing x'.2.transport = (Transport.session x.2.transport + 1, opened)) :
    Follows taken waiting x' := by
  have hsession : Transport.session x'.2.transport = Transport.session x.2.transport + 1 :=
    congrArg Prod.fst same
  refine ⟨?_, ?_, ?_⟩
  · rw [status, same]
    cases opened with
    | true => exact (statusOf_next _ h.taken).symm
    | false => rfl
  · rw [hsession]
    exact fun d hmem => Nat.le_succ_of_le (h.taken d hmem)
  · rw [hsession]
    exact fun e hmem => Nat.le_succ_of_le (h.waiting e hmem)

/-- An attempt without a session. -/
theorem connect {s : Site τ} (h : Follows taken waiting (n, s))
    (status : n.connection.status = .disconnected) : Follows taken waiting (n.connect s) := by
  rcases standing_connect n s status with ⟨hstatus, hnext⟩ | ⟨hstatus, hsame | hnext⟩
  · exact h.next true hstatus hnext
  · exact h.congr (hstatus.trans status.symm) hsame
  · exact h.next false hstatus hnext

/-- What a clock does by itself. -/
theorem clockwork {n : Node} {s : Site τ} (h : Follows taken waiting (n, s)) (settled : n.Settled)
    (alive : (link (n, s)).Alive) {happening : Happening τ} (clockwork : happening.isClockwork) :
    Follows taken waiting (happening.apply respond (n, s)) := by
  cases happening with
  | callback | transport => cases clockwork
  | clock reading => exact h.congr rfl rfl
  | expiry role =>
    cases hslot : s.timers.slots.get role with
    | none => simpa only [Happening.apply, hslot] using h
    | some t =>
      let s₁ := { s with timers := s.timers.cancel role }.record (.fire role t.deadline)
      simp only [Happening.apply, hslot]
      show Follows taken waiting (n.onTimer role s₁)
      have hfired : Follows taken waiting (n, s₁) := h.congr rfl rfl
      by_cases hrole : role = .reconnect
      · have harmed : (s.timers.deadline? .reconnect).isSome := by
          rw [← TimerQueue.isArmed_eq_isSome, TimerQueue.isArmed, ← hrole, hslot]
          rfl
        rw [hrole]
        exact hfired.connect n (alive.waits.mpr harmed)
      · obtain ⟨hconnection, hstanding⟩ := standing_onTimer n s₁ settled hrole
        exact hfired.congr (congrArg Connection.status hconnection) hstanding

/-- The oldest news that waits is taken in, and speaks for what becomes of the status. -/
theorem dispatched {e : SessionEvent} (h : Follows taken (e :: waiting) x)
    (same : standing x'.2.transport = standing x.2.transport)
    (status : x'.1.connection.status =
      statusOf (standing x.2.transport) (⟨e, Transport.session x.2.transport⟩ :: taken)) :
    Follows (⟨e, Transport.session x.2.transport⟩ :: taken) waiting x' := by
  have hsession : Transport.session x'.2.transport = Transport.session x.2.transport :=
    congrArg Prod.fst same
  refine ⟨?_, ?_, ?_⟩
  · rw [status, same]
  · rw [hsession]
    exact List.forall_mem_cons.mpr ⟨h.waiting e List.mem_cons_self, h.taken⟩
  · rw [hsession]
    exact fun e' hmem => h.waiting e' (List.mem_cons_of_mem e hmem)

end Follows

/-- What holds of a node in a worker, given the news that was taken in so far and the news that
waits. -/
structure Tracked (taken : List Dispatch) (waiting : List SessionEvent) (x : Node × Site τ) :
    Prop where
  settled : x.1.Settled
  alive : (link x).Alive
  paired : (link x).Paired
  follows : Follows taken waiting x

namespace Tracked

variable {taken : List Dispatch} {waiting : List SessionEvent} {x : Node × Site τ}

/-- Nothing has been said about a node that has just been started. -/
theorem launched (c : Config) (session : SessionParams) (now : Nat) (t : τ)
    (unopened : standing t = (0, false)) : Tracked [] [] (launched c session now t) := by
  have hsettled := settled_ofConfig c session
  obtain ⟨answer, hlink⟩ := exists_link_start (ofConfig c session) { now, transport := t } hsettled
  obtain ⟨n, s, hstart, -, hconnection, hacted⟩ :=
    acted_started (ofConfig c session) { now, transport := t } hsettled
  refine ⟨settled_respond _ _ .start hsettled, alive_launched c session now t, ?_, ?_⟩
  · rw [show link (Node.launched c session now t) = _ from hlink]
    exact Link.Paired.ask ⟨fun _ => .inl rfl, fun _ => rfl⟩ now answer
  · have hstatus : n.connection.status = .disconnected := by rw [hconnection]; rfl
    have hstanding : standing s.transport = (0, false) :=
      (standing_of_acted (hacted.mono (fun _ => Action.keepsSession_of_isTank))).trans unopened
    have hfollows : Follows [] [] (n, s) := by
      refine ⟨?_, nofun, nofun⟩
      rw [hstatus, hstanding]
      rfl
    show Follows [] [] ((ofConfig c session).start { now, transport := t })
    rw [hstart]
    exact hfollows.connect n hstatus

theorem clockwork (h : Tracked taken waiting x) {happening : Happening τ}
    (clockwork : happening.isClockwork) :
    Tracked taken waiting (happening.apply respond x) where
  settled := settled_apply happening x.1 x.2 h.settled
  alive := alive_apply h.settled h.alive (Happening.isTimely_of_isClockwork clockwork)
  paired := h.paired.lapses (lapses_apply x.1 x.2 h.settled clockwork)
  follows := h.follows.clockwork h.settled h.alive clockwork

/-- Timers that fire change nothing about which news was taken in. -/
theorem passTimeUntil (h : Tracked taken waiting x) (target : Nat) :
    Tracked taken waiting (x.1.passTimeUntil target x.2) := by
  obtain ⟨hs, hclockwork, hrun⟩ :=
    exists_run_of_passTime respond (firingLimit x.2.transport) target x
  rw [show x.1.passTimeUntil target x.2 = _ from hrun]
  exact run_invariant (P := Tracked taken waiting)
    (fun happening hmem _ hx => hx.clockwork (hclockwork happening hmem)) h

/-- A callback that is about the tank. -/
theorem tank (h : Tracked taken waiting x) {c : Callback} (tank : c.isTank) :
    Tracked taken waiting (respond c x.1 x.2) := by
  have hlink := link_respond_of_tank x.1 x.2 h.settled tank
  obtain ⟨hconnection, hacted⟩ := acted_respond_of_tank x.1 x.2 h.settled tank
  refine ⟨settled_respond x.1 x.2 c h.settled, ?_, ?_, ?_⟩
  · rw [hlink]
    exact h.alive
  · rw [hlink]
    exact h.paired
  · exact h.follows.congr (congrArg Connection.status hconnection)
      (standing_of_acted (hacted.mono (fun _ => Action.keepsSession_of_isTank)))

end Tracked

end Node

end

/-! ## Workers -/

/-- A worker and the news that it has taken out of its inbox, latest first. -/
structure Watched (τ : Type) where
  worker : Worker τ
  taken : List Dispatch := []

/-- Something that happens to a worker. -/
inductive Move (τ : Type)
  /-- News is put into the inbox. -/
  | send (e : SessionEvent)
  | poll
  /-- Timers that have fallen due since the last poll fire. -/
  | fire
  /-- The clock shows a time. -/
  | clock (reading : Nat)
  /-- The transport changes by itself. -/
  | transport (t : τ)

section

variable {τ : Type} [Transport τ]

namespace Worker

variable (w : Worker τ) {e : SessionEvent}

/-- News of a session that is not the current one leaves no more than a note behind. -/
theorem dispatch_of_stale (h : e.session ≠ Transport.session w.site.transport) :
    w.dispatch e = { w with
      site := w.site.note (.staleEvent e (Transport.session w.site.transport)) } := by
  simp only [dispatch, if_neg h]

theorem dispatch_of_connection (h : e.session = Transport.session w.site.transport)
    {event : ConnectionEvent} (hevent : e.event = .connection event) :
    w.dispatch e = w.run (·.onConnectionEvent event) := by
  simp only [dispatch, if_pos h, hevent]

theorem dispatch_of_publish (h : e.session = Transport.session w.site.transport)
    {topic : String} {payload : Bytes} (hevent : e.event = .publish topic payload) :
    w.dispatch e = w.run fun n s =>
      (n.onTopic topic s).1.onPayload payload true (n.onTopic topic s).2 := by
  simp only [dispatch, if_pos h, hevent]

/-- What the callbacks about news preserve, and the note about news of another session, is
preserved when news is taken in. -/
theorem dispatch_invariant {P : Node × Site τ → Prop}
    (callback : ∀ (c : Callback) (x : Node × Site τ),
      (Happening.callback c : Happening τ).isTimely → P x → P (Node.respond c x.1 x.2))
    (initial : P (w.node, w.site))
    (stale : P (w.node, w.site.note (.staleEvent e (Transport.session w.site.transport)))) :
    P ((w.dispatch e).node, (w.dispatch e).site) := by
  by_cases h : e.session = Transport.session w.site.transport
  · cases hevent : e.event with
    | connection event =>
      rw [dispatch_of_connection w h hevent]
      exact callback (.connection event) (w.node, w.site) rfl initial
    | publish topic payload =>
      rw [dispatch_of_publish w h hevent]
      exact callback (.payload payload true) (w.node.onTopic topic w.site) rfl
        (callback (.topic topic) (w.node, w.site) rfl initial)
  · rw [dispatch_of_stale w h]
    exact stale

/-- What waits is not touched by what is taken in. -/
theorem inbox_dispatch (e : SessionEvent) : (w.dispatch e).inbox = w.inbox := by
  by_cases h : e.session = Transport.session w.site.transport
  · cases hevent : e.event with
    | connection event => rw [dispatch_of_connection w h hevent]; rfl
    | publish topic payload => rw [dispatch_of_publish w h hevent]; rfl
  · rw [dispatch_of_stale w h]

end Worker

/-- What a move makes of a worker that is watched. -/
def Watched.move (w : Watched τ) : Move τ → Watched τ
  | .send e => { w with worker := (w.worker.receive e).2 }
  | .poll =>
    { worker := w.worker.poll.2
      taken := (w.worker.inbox.head?.map
        fun e => ⟨e, Transport.session w.worker.site.transport⟩).toList ++ w.taken }
  | .fire => { w with worker := w.worker.fireDueTimers }
  | .clock reading =>
    { w with worker := { w.worker with site := { w.worker.site with now := reading } } }
  | .transport t =>
    { w with worker := { w.worker with site := { w.worker.site with transport := t } } }

/-- A worker whose node has just been started. -/
def Watched.launched (c : Config) (session : SessionParams) (now : Nat) (t : τ) : Watched τ where
  worker := ({ node := .ofConfig c session, site := { now, transport := t } } : Worker τ).start

variable [NumbersSessions τ]

/-- Whether a move is possible: news is of sessions that have a number by now, and the transport
does not open or renumber sessions by itself. -/
def Watched.Possible (w : Watched τ) : Move τ → Prop
  | .send e => e.session ≤ Transport.session w.worker.site.transport
  | .transport t => standing t = standing w.worker.site.transport
  | .poll | .fire | .clock _ => True

instance (w : Watched τ) (m : Move τ) : Decidable (w.Possible m) :=
  match m with
  | .send e => inferInstanceAs (Decidable (e.session ≤ Transport.session w.worker.site.transport))
  | .transport t => inferInstanceAs (Decidable (standing t = standing w.worker.site.transport))
  | .poll | .fire | .clock _ => inferInstanceAs (Decidable True)

/-- What becomes of a worker by moves, each of them possible when it is made. -/
inductive Watched.Reached (start : Watched τ) : Watched τ → Prop
  | start : Reached start start
  | move {w : Watched τ} (before : Reached start w) {m : Move τ} (possible : w.Possible m) :
      Reached start (w.move m)

namespace Watched

open Node

/-- What holds of a worker at all times. -/
def Sound (w : Watched τ) : Prop :=
  Tracked w.taken w.worker.inbox (w.worker.node, w.worker.site)

/-- News that is taken in changes the status exactly if it is of the current session. -/
theorem sound_dispatch {w : Worker τ} {taken : List Dispatch} {e : SessionEvent}
    {waiting : List SessionEvent} (h : Tracked taken (e :: waiting) (w.node, w.site)) :
    Tracked (⟨e, Transport.session w.site.transport⟩ :: taken) waiting
      ((w.dispatch e).node, (w.dispatch e).site) := by
  have hstatus : w.node.connection.status = statusOf (standing w.site.transport) taken :=
    h.follows.status
  by_cases hcurrent : e.session = Transport.session w.site.transport
  · cases hevent : e.event with
    | connection event =>
      have hlink := link_onConnectionEvent w.node w.site event
      rw [w.dispatch_of_connection hcurrent hevent]
      refine ⟨settled_respond w.node w.site (.connection event) h.settled, ?_, ?_, ?_⟩
      · exact hlink ▸ h.alive.hear _ event
      · exact hlink ▸ h.paired.hear _ event
      · refine h.follows.dispatched (standing_of_acted (Connection.acted_onEvent _ _ _ event)) ?_
        rw [statusOf_cons_of_current hcurrent rfl hevent, ← hstatus]
        exact (congrArg Link.status hlink).trans (Link.status_hear _ _ event)
    | publish topic payload =>
      have htaken : Tracked (⟨e, Transport.session w.site.transport⟩ :: taken) waiting
          (w.node, w.site) := by
        refine ⟨h.settled, h.alive, h.paired, h.follows.dispatched rfl ?_⟩
        rw [statusOf_cons_of_publish hevent]
        exact hstatus
      rw [w.dispatch_of_publish hcurrent hevent]
      exact (htaken.tank (c := .topic topic) rfl).tank (c := .payload payload true) rfl
  · have hlink : link (w.node, w.site.note (.staleEvent e (Transport.session w.site.transport))) =
        link (w.node, w.site) := Link.of_record_of_none _ _ _ rfl
    rw [w.dispatch_of_stale hcurrent]
    refine ⟨h.settled, hlink ▸ h.alive, hlink ▸ h.paired, h.follows.dispatched rfl ?_⟩
    rw [statusOf_cons_of_stale hcurrent]
    exact hstatus

theorem sound_move {w : Watched τ} (h : w.Sound) {m : Move τ} (possible : w.Possible m) :
    (w.move m).Sound := by
  cases m with
  | send e =>
    show Tracked w.taken (w.worker.receive e).2.inbox
      ((w.worker.receive e).2.node, (w.worker.receive e).2.site)
    unfold Worker.receive
    split
    · exact h
    · refine ⟨h.settled, h.alive, h.paired, h.follows.status, h.follows.taken, ?_⟩
      exact List.forall_mem_append.mpr ⟨h.follows.waiting, List.forall_mem_singleton.mpr possible⟩
  | poll =>
    obtain ⟨⟨n, s, inbox, closed⟩, taken⟩ := w
    cases inbox with
    | nil => exact Tracked.passTimeUntil h s.now
    | cons e rest =>
      let popped : Worker τ := { node := n, site := s, inbox := rest, closed }
      have htracked := (sound_dispatch (w := popped) h).passTimeUntil (popped.dispatch e).site.now
      have hinbox : (popped.dispatch e).fireDueTimers.inbox = rest := popped.inbox_dispatch e
      show Tracked _ (popped.dispatch e).fireDueTimers.inbox _
      rw [hinbox]
      exact htracked
  | fire => exact h.passTimeUntil _
  | clock reading => exact ⟨h.settled, h.alive, h.paired, h.follows.congr rfl rfl⟩
  | transport t => exact ⟨h.settled, h.alive, h.paired, h.follows.congr rfl possible⟩

theorem Reached.sound {start w : Watched τ} (h : Reached start w) (sound : start.Sound) :
    w.Sound := by
  induction h with
  | start => exact sound
  | move _ possible ih => exact sound_move ih possible

/-- News comes in and is taken in. -/
theorem Reached.hears {start w : Watched τ} (h : Reached start w) {e : SessionEvent}
    (possible : w.Possible (.send e)) : Reached start ((w.move (.send e)).move .poll) :=
  .move (.move h (m := .send e) possible) (m := .poll) trivial

/-- Time passes, and what is due is fired. -/
theorem Reached.waits {start w : Watched τ} (h : Reached start w) (reading : Nat) :
    Reached start ((w.move (.clock reading)).move .poll) :=
  .move (.move h (m := .clock reading) trivial) (m := .poll) trivial

/-- After every poll of a worker, and at any other time, its node stands where the news of the
current session says, whatever news of other sessions came in between and however many attempts were
refused. News of a session that is not the current one leaves no more than a note behind, and in
each session the two inbound topics were subscribed to once or not at all. -/
theorem status_of_reached (c : Config) (session : SessionParams) (now : Nat) (t : τ)
    (unopened : standing t = (0, false)) {w : Watched τ}
    (reached : Reached (Watched.launched c session now t) w) :
    let (n, s) := (w.worker.node, w.worker.site)
    let current := Transport.session s.transport
    n.connection.status = statusOf (standing s.transport) w.taken ∧
      (∀ e : SessionEvent, e.session ≠ current →
        let after := w.worker.dispatch e
        after.node = n ∧ after.site.timers = s.timers ∧ after.site.transport = s.transport ∧
          after.site.journal = .note (.staleEvent e current) :: s.journal) ∧
      ∀ k, subscribedIn k (s.view Entry.link?) = [] ∨
        subscribedIn k (s.view Entry.link?) = [n.topics.alarm, n.topics.fillRequest] := by
  have hsound := reached.sound (Tracked.launched c session now t unopened)
  refine ⟨hsound.follows.status, fun e hstale => ?_, hsound.paired.pair⟩
  rw [w.worker.dispatch_of_stale hstale]
  exact ⟨rfl, rfl, rfl, rfl⟩

end Watched

end

/-- A session is accepted and lost, and 1000 ms later the next one is asked for. If that is taken,
an acceptance of the first session that comes in again does not make the second one accepted. If it
is refused for want of a thread, the number 2 is used up: what still comes in of the first session,
the number of the last session that there was, leaves no more than a note. -/
theorem Watched.status_after_late_news :
    (let start := Watched.launched {} (Bench.session {}) 0 ({} : Scripted)
    let accepted := (start.move (.send ⟨1, .connection .accepted⟩)).move .poll
    let lost := (accepted.move (.send ⟨1, .connection .disconnected⟩)).move .poll
    let again := (lost.move (.clock 1000)).move .poll
    let last := (again.move (.send ⟨1, .connection .accepted⟩)).move .poll
    standing last.worker.site.transport = (2, true) ∧
      last.worker.node.connection.status = .connecting) ∧
    let start := Watched.launched {} (Bench.session {}) 0 ({ threads := [true, false] } : Threaded)
    let accepted := (start.move (.send ⟨1, .connection .accepted⟩)).move .poll
    let lost := (accepted.move (.send ⟨1, .connection .disconnected⟩)).move .poll
    let refused := (lost.move (.clock 1000)).move .poll
    let late : SessionEvent := ⟨1, .publish Topic.alarm.text (Bytes.utf8 "ON")⟩
    standing refused.worker.site.transport = (2, false) ∧
      refused.worker.node.connection.status = .disconnected ∧
      (refused.worker.dispatch late).node = refused.worker.node ∧
      (refused.worker.dispatch late).site.journal =
        .note (.staleEvent late 2) :: refused.worker.site.journal := by
  refine ⟨?_, ?_⟩
  · intro start accepted lost again last
    have haccepted : Reached start accepted := Reached.start.hears (by decide +kernel)
    have hlost : Reached start lost := haccepted.hears (by decide +kernel)
    have hlast : Reached start last := (hlost.waits 1000).hears (by decide +kernel)
    obtain ⟨hstatus, -⟩ :=
      status_of_reached {} (Bench.session {}) 0 ({} : Scripted) (by decide) hlast
    refine ⟨by decide +kernel, hstatus.trans ?_⟩
    decide +kernel
  · intro start accepted lost refused late
    have haccepted : Reached start accepted := Reached.start.hears (by decide +kernel)
    have hlost : Reached start lost := haccepted.hears (by decide +kernel)
    have hrefused : Reached start refused := hlost.waits 1000
    obtain ⟨hstatus, hstale, -⟩ := status_of_reached {} (Bench.session {}) 0
      ({ threads := [true, false] } : Threaded) (by decide) hrefused
    have hstanding : standing refused.worker.site.transport = (2, false) := by decide +kernel
    have hcurrent : Transport.session refused.worker.site.transport = 2 := by decide +kernel
    have hnews : ∀ current, Transport.session refused.worker.site.transport = current →
        late.session ≠ current →
          (refused.worker.dispatch late).node = refused.worker.node ∧
            (refused.worker.dispatch late).site.journal =
              .note (.staleEvent late current) :: refused.worker.site.journal := by
      rintro current rfl hne
      obtain ⟨hnode, -, -, hjournal⟩ := hstale late hne
      exact ⟨hnode, hjournal⟩
    refine ⟨hstanding, hstatus.trans ?_, hnews 2 hcurrent (by decide)⟩
    decide +kernel

end TankGauge
