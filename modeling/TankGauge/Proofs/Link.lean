import TankGauge.Proofs.Actions

/-!
# The link of a node

A link is what there is to say of the connection of a node: the connection itself, when its two
timers are due, and a log of what has been done about it, newest first (`Link`). All that can happen
to it is that an attempt is made and answered (`Link.ask`), that news of the session comes
(`Link.hear`), and that the node announces itself (`Link.tell`). These are functions of the link and
the time, and do not know of a tank, a transport or a journal.

`Node.link` reads the link off a node and its site. A callback does to it what it should
(`Node.link_connect`, `Node.link_onConnectionEvent`, `Node.link_announce`) and a callback that is
about the tank does nothing to it (`Node.link_respond_of_tank`). So a law of the connection is a law
of these three functions (`Node.link_apply`).
-/

namespace TankGauge

/-- What was done about a connection. -/
inductive LinkEntry
  /-- A session was asked for, with this answer. -/
  | asked (answer : Answer)
  /-- A session was asked for while there was one or one was on its way. -/
  | spurned (status : ConnectionStatus)
  | moved (before after : ConnectionStatus)
  | subscribed (topic : Topic)
  /-- The node was announced to be online. -/
  | announced
deriving DecidableEq

/-- What an entry of the journal tells of the connection. -/
def Entry.link? : Entry → Option LinkEntry
  | .connect _ answer => some (.asked answer)
  | .note (.connectRefused status) => some (.spurned status)
  | .event (.connectionChanged before after) => some (.moved before after)
  | .subscribe topic _ _ => some (.subscribed topic)
  | .publish _ payload _ _ _ => if payload = Publication.onlineWord then some .announced else none
  | _ => none

/-- A connection, when its two timers are due, and what was done about it, newest first. -/
structure Link where
  topics : Topics
  connection : Connection
  retryAt : Option Nat
  announceAt : Option Nat
  log : List LinkEntry

namespace Link

/-- Where the connection stands. -/
def status (l : Link) : ConnectionStatus := l.connection.status

/-- Adds to the log. -/
def add (l : Link) (e : LinkEntry) : Link := { l with log := e :: l.log }

/-- Gives the connection a status. -/
def moveTo (l : Link) (status : ConnectionStatus) : Link :=
  { l with connection := { l.connection with status } }.add (.moved l.status status)

/-- Counts an attempt. -/
def countAttempt (l : Link) : Link :=
  { l with connection := { l.connection with attempts := l.connection.attempts + 1 } }

/-- Plans the next attempt. -/
def retryAfter (l : Link) (now : Nat) (delay : UInt32) : Link :=
  { l with retryAt := some (instantAfter now delay) }

/-- An attempt is made and answered, unless there is a session or one is on its way. -/
def ask (l : Link) (now : Nat) (answer : Answer) : Link :=
  if l.status = .disconnected then
    let asked := (l.moveTo .connecting).countAttempt.add (.asked answer)
    match answer with
    | .taken => asked
    | .refused _ => (asked.moveTo .disconnected).retryAfter now l.connection.longDelay
  else l.add (.spurned l.status)

/-- News of the session comes. -/
def hear (l : Link) (now : Nat) (event : ConnectionEvent) : Link :=
  match l.status, event with
  | .connecting, .accepted =>
    let l := ((l.moveTo .connected).add (.subscribed l.topics.fillRequest)).add
      (.subscribed l.topics.alarm)
    { l with announceAt := some (instantAfter now 0) }
  | .connecting, .rejected | .connecting, .disconnected =>
    (l.moveTo .disconnected).retryAfter now l.connection.longDelay
  | .connected, .rejected | .connected, .disconnected =>
    ({ l with announceAt := none }.moveTo .disconnected).retryAfter now l.connection.shortDelay
  | _, _ => l

/-- The node announces itself. -/
def tell (l : Link) : Link := l.add .announced

/-- The link of a connection on its site. -/
def of {τ : Type} (topics : Topics) (x : Connection × Site τ) : Link where
  topics := topics
  connection := x.1
  retryAt := x.2.timers.deadline? .reconnect
  announceAt := x.2.timers.deadline? .announce
  log := x.2.view Entry.link?

end Link

/-- The link of a node. -/
def Node.link {τ : Type} (x : Node × Site τ) : Link := .of x.1.topics (x.1.connection, x.2)

/-! ## What each action on a site does to the link -/

namespace Link

open Site

variable {τ : Type} (topics : Topics) (c : Connection) (s : Site τ)

theorem of_record (e : Entry) :
    of topics (c, s.record e) =
      { of topics (c, s) with log := e.link?.toList ++ (of topics (c, s)).log } := by
  simp only [of, view_record, timers_record]

theorem of_record_of_none {e : Entry} (h : e.link? = none) :
    of topics (c, s.record e) = of topics (c, s) := by
  rw [of_record, h]
  rfl

theorem of_schedule (role : TimerRole) (delay : UInt32) :
    of topics (c, s.schedule role delay) =
      { of topics (c, s) with
        retryAt := if .reconnect = role then some (instantAfter s.now delay)
          else s.timers.deadline? .reconnect
        announceAt := if .announce = role then some (instantAfter s.now delay)
          else s.timers.deadline? .announce } := by
  simp only [of, timers_schedule, TimerQueue.deadline?_schedule,
    view_schedule s Entry.link? (fun _ => rfl)]
  rfl

/-- Disarming shows if the timer is one of the two of the connection. -/
theorem of_disarmed (role : TimerRole) :
    of topics (c, { s with timers := s.timers.cancel role }) =
      { of topics (c, s) with
        retryAt := if .reconnect = role then none else s.timers.deadline? .reconnect
        announceAt := if .announce = role then none else s.timers.deadline? .announce } := by
  simp only [of, TimerQueue.deadline?_cancel]
  rfl

theorem of_cancel (role : TimerRole) :
    of topics (c, s.cancel role) = of topics (c, { s with timers := s.timers.cancel role }) :=
  of_record_of_none topics c _ rfl

/-- Timers of the walk do not show. -/
theorem of_schedule_of_isWalk {role : TimerRole} (h : role.isWalk) (delay : UInt32) :
    of topics (c, s.schedule role delay) = of topics (c, s) := by
  have hretry : .reconnect ≠ role := by rintro rfl; cases h
  have hannounce : .announce ≠ role := by rintro rfl; cases h
  rw [of_schedule, if_neg hretry, if_neg hannounce]
  rfl

theorem of_disarmed_of_isWalk {role : TimerRole} (h : role.isWalk) :
    of topics (c, { s with timers := s.timers.cancel role }) = of topics (c, s) := by
  have hretry : .reconnect ≠ role := by rintro rfl; cases h
  have hannounce : .announce ≠ role := by rintro rfl; cases h
  rw [of_disarmed, if_neg hretry, if_neg hannounce]
  rfl

theorem of_moveTo (status : ConnectionStatus) :
    of topics (c.moveTo status s) = (of topics (c, s)).moveTo status :=
  of_record topics { c with status } s _

theorem of_retryAfter (delay : UInt32) :
    of topics (c, Connection.retryAfter delay s) = (of topics (c, s)).retryAfter s.now delay := by
  rw [Connection.retryAfter, emit_eq_record, of_record_of_none _ _ _ rfl, of_schedule]
  rfl

theorem of_failAttempt :
    of topics (c.failAttempt s) =
      ((of topics (c, s)).moveTo .disconnected).retryAfter s.now c.longDelay := by
  show of topics ({ c with status := .disconnected },
    Connection.retryAfter c.longDelay (c.moveTo .disconnected s).2) = _
  rw [of_retryAfter]
  exact congrArg (fun l => retryAfter l s.now c.longDelay) (of_moveTo topics c s .disconnected)

variable [Transport τ]

theorem of_connect (session : SessionParams) :
    of topics (c, (s.connect session).2) =
      (of topics (c, s)).add (.asked (s.connect session).1) := by
  simp only [of, view_connect, timers_connect]
  rfl

theorem of_subscribeTo (topic : Topic) :
    of topics (c, Connection.subscribeTo topic s) =
      (of topics (c, s)).add (.subscribed topic) := by
  let called := s.subscribe topic .atLeastOnce
  have hview : called.2.view Entry.link? = .subscribed topic :: s.view Entry.link? :=
    view_subscribe s _ topic .atLeastOnce
  show of topics (c, called.2.record (.event (.subscribed topic called.1))) = _
  rw [of_record_of_none _ _ _ rfl]
  exact congrArg (fun log => { of topics (c, s) with log }) hview

/-- What the tank does to a site does not show. -/
theorem of_perform {a : Action} (h : a.isTank) :
    of topics (c, s.perform a) = of topics (c, s) := by
  cases a with
  | tell e =>
    refine of_record_of_none topics c s ?_
    cases e with
    | connectionChanged => cases h
    | _ => rfl
  | note n =>
    refine of_record_of_none topics c s ?_
    cases n with
    | connectRefused => cases h
    | _ => rfl
  | arm role delay => exact of_schedule_of_isWalk topics c s h delay
  | disarm role => exact (of_cancel topics c s role).trans (of_disarmed_of_isWalk topics c s h)
  | connect | subscribe => cases h
  | publish topic payload qos retain =>
    have hpayload : payload ≠ Publication.onlineWord := bne_iff_ne.mp h
    have hview : (s.publish topic payload qos retain).2.view Entry.link? = s.view Entry.link? := by
      rw [view_publish, Entry.link?, if_neg hpayload]
      rfl
    simp only [of, perform, hview, timers_publish]

theorem of_acted {s' : Site τ} (h : s.Acted Action.isTank s') :
    of topics (c, s') = of topics (c, s) :=
  h.frame (fun s => of topics (c, s)) (fun s _ ha => of_perform topics c s ha)

/-- Asking for a session does to the link what the answer says. -/
theorem of_ask :
    of topics (c.connect s) =
      (of topics (c, s)).ask s.now ((c.asking s).connect c.session).1 := by
  by_cases h : c.status = .disconnected
  · rw [Connection.connect_of_disconnected h]
    unfold ask
    rw [if_pos (show (of topics (c, s)).status = .disconnected from h)]
    let asking : Connection := { c with status := .connecting, attempts := c.attempts + 1 }
    have hasking : of topics (asking, c.asking s) =
        ((of topics (c, s)).moveTo .connecting).countAttempt := by
      rw [Connection.asking, note_eq_record, of_record_of_none _ _ _ rfl]
      exact congrArg countAttempt (of_moveTo topics c s .connecting)
    have hasked := of_connect topics asking (c.asking s) c.session
    rw [hasking] at hasked
    have hnow : ((c.asking s).connect c.session).2.now = s.now := rfl
    rcases hcall : (c.asking s).connect c.session with ⟨_ | reason, s'⟩ <;>
      rw [hcall] at hasked hnow
    · exact hasked
    · show of topics (asking.failAttempt (s'.note (.connectFailed reason))) = _
      rw [of_failAttempt, note_eq_record, of_record_of_none _ _ _ rfl, hasked, now_record, hnow]
      rfl
  · rw [Connection.connect_of_ne_disconnected h]
    unfold ask
    rw [if_neg (show (of topics (c, s)).status ≠ .disconnected from h)]
    exact of_record topics c s _

/-- News of the session does to the link what it says. -/
theorem of_hear (event : ConnectionEvent) :
    of topics (c.onEvent topics event s) = (of topics (c, s)).hear s.now event := by
  have hfailed : of topics (c.failAttempt (s.note .sessionRejected)) =
      ((of topics (c, s)).moveTo .disconnected).retryAfter s.now c.longDelay := by
    rw [of_failAttempt, note_eq_record, of_record_of_none _ _ _ rfl, now_record]
  have hdropped : of topics ({ c with status := .disconnected },
      Connection.retryAfter c.shortDelay
        (c.moveTo .disconnected ((s.note .sessionDropped).cancel .announce)).2) =
      (({ of topics (c, s) with announceAt := none }).moveTo .disconnected).retryAfter s.now
        c.shortDelay := by
    rw [of_retryAfter]
    refine congrArg (fun l => retryAfter l s.now c.shortDelay) ?_
    refine (of_moveTo topics c _ .disconnected).trans (congrArg (moveTo · .disconnected) ?_)
    rw [of_cancel, of_disarmed, note_eq_record, of_record_of_none _ _ _ rfl]
    rfl
  have hstatus : (of topics (c, s)).status = c.status := rfl
  unfold Connection.onEvent hear
  rw [hstatus]
  cases hc : c.status <;> cases event
  case connecting.accepted =>
    show of topics (_, Site.schedule (Connection.subscribeTo topics.alarm
      (Connection.subscribeTo topics.fillRequest (c.moveTo .connected s).2)) .announce 0) = _
    rw [of_schedule, of_subscribeTo, of_subscribeTo]
    have hmoved : of topics ({ c with status := .connected }, (c.moveTo .connected s).2) =
        (of topics (c, s)).moveTo .connected := of_moveTo topics c s .connected
    rw [← hmoved]
    rfl
  case connecting.rejected | connecting.disconnected => exact hfailed
  case connected.rejected | connected.disconnected => exact hdropped
  all_goals exact of_record_of_none _ _ _ rfl

end Link

/-! ## What each callback does to the link of a node -/

namespace Node

open Site

variable {τ : Type} [Transport τ] (n : Node) (s : Site τ)

theorem link_connect :
    link (n.connect s) =
      (link (n, s)).ask s.now ((n.connection.asking s).connect n.connection.session).1 :=
  Link.of_ask n.topics n.connection s

theorem link_onConnectionEvent (event : ConnectionEvent) :
    link (n.onConnectionEvent event s) = (link (n, s)).hear s.now event :=
  Link.of_hear n.topics n.connection s event

theorem link_announce : link (n.announce s) = (link (n, s)).tell := by
  let p : Publication := .online
  let called := s.publish (p.channel.topic n.topics) p.payload.text .atLeastOnce true
  have houtcome : (Entry.event (p.outcome called.1)).link? = none := by cases called.1 <;> rfl
  have hview : called.2.view Entry.link? = .announced :: s.view Entry.link? :=
    view_publish s Entry.link? _ _ _ _
  have honline : Link.of n.topics (n.connection, sendOne n.topics s p) = (link (n, s)).tell := by
    rw [sendOne_eq, emit_eq_record, Link.of_record_of_none _ _ _ houtcome]
    exact congrArg (fun log => { link (n, s) with log }) hview
  have hnews : (sendOne n.topics s p).Acted Action.isTank (n.announce s).2 := by
    rw [snd_announce, send_cons]
    exact Acted.refl.send_of_ne_onlineWord n.topics
      (fun _ hmem => Policy.ne_onlineWord_of_mem_news hmem)
  exact (Link.of_acted n.topics n.connection _ hnews).trans honline

theorem link_respond_of_tank (settled : n.Settled) {c : Callback} (tank : c.isTank) :
    link (respond c n s) = link (n, s) := by
  obtain ⟨hconnection, hacted⟩ := acted_respond_of_tank n s settled tank
  show Link.of (respond c n s).1.topics ((respond c n s).1.connection, (respond c n s).2) = _
  rw [topics_respond n s settled, hconnection]
  exact Link.of_acted n.topics n.connection s hacted

end Node

/-! ## What happens to the link of a node -/

/-- What may become of a link without news of the session: nothing happens to it, or one of its two
timers goes off. -/
inductive Link.Lapses (now : Nat) (l : Link) : Link → Prop
  | stays : l.Lapses now l
  | retries (due : l.retryAt.isSome) (answer : Answer) :
      l.Lapses now ({ l with retryAt := none }.ask now answer)
  | announces (due : l.announceAt.isSome) : l.Lapses now { l with announceAt := none }.tell

namespace Node

open Site

variable {τ : Type} [Transport τ] (n : Node) (s : Site τ)

omit [Transport τ] in
theorem link_fired (reading deadline : Nat) (role : TimerRole) :
    link (n, { s with now := reading, timers := s.timers.cancel role }.record
      (.fire role deadline)) =
      { link (n, s) with
        retryAt := if .reconnect = role then none else (link (n, s)).retryAt
        announceAt := if .announce = role then none else (link (n, s)).announceAt } :=
  (Link.of_record_of_none _ _ _ rfl).trans
    (Link.of_disarmed n.topics n.connection { s with now := reading } role)

/-- Whatever a clock does by itself, the link stays or a timer of its own goes off. -/
theorem lapses_apply (settled : n.Settled) {h : Happening τ} (clockwork : h.isClockwork) :
    (link (n, s)).Lapses s.now (link (h.apply respond (n, s))) := by
  cases h with
  | callback | transport => cases clockwork
  | clock reading => exact .stays
  | expiry role =>
    cases hslot : s.timers.slots.get role with
    | none =>
      simp only [Happening.apply, hslot]
      exact .stays
    | some t =>
      let s₁ := { s with timers := s.timers.cancel role }.record (.fire role t.deadline)
      have hfired : link (n, s₁) = _ := link_fired n s s.now t.deadline role
      have hdue : (s.timers.deadline? role).isSome := by
        rw [← TimerQueue.isArmed_eq_isSome, TimerQueue.isArmed, hslot]
        rfl
      have htank (role : TimerRole) (hwalk : role.isWalk) :
          link (n.onTimer role s₁) = link (n, s₁) :=
        link_respond_of_tank n s₁ settled (c := .timer role) hwalk
      simp only [Happening.apply, hslot]
      show Link.Lapses _ _ (link (n.onTimer role s₁))
      cases role with
      | decrease | increase | resume =>
        rw [htank _ rfl, hfired]
        exact .stays
      | reconnect =>
        rw [show link (n.onTimer .reconnect s₁) = _ from link_connect n s₁, hfired]
        exact .retries hdue _
      | announce =>
        rw [show link (n.onTimer .announce s₁) = _ from link_announce n s₁, hfired]
        exact .announces hdue

/-- Whatever happens in time, the link lapses or hears news of the session. -/
theorem link_apply (settled : n.Settled) {h : Happening τ} (timely : h.isTimely) :
    (link (n, s)).Lapses s.now (link (h.apply respond (n, s))) ∨
      ∃ event, link (h.apply respond (n, s)) = (link (n, s)).hear s.now event := by
  cases h with
  | expiry | clock => exact .inl (lapses_apply n s settled rfl)
  | transport t => exact .inl .stays
  | callback c =>
    cases c with
    | start | timer => cases timely
    | connection event => exact .inr ⟨event, link_onConnectionEvent n s event⟩
    | topic | payload | command =>
      refine .inl ?_
      rw [show link ((Happening.callback _).apply respond (n, s)) = _ from
        link_respond_of_tank n s settled rfl]
      exact .stays

/-- A node that starts asks for its first session, after it has done nothing to its link. -/
theorem exists_connect_start (settled : n.Settled) :
    ∃ (n' : Node) (s' : Site τ), n.start s = n'.connect s' ∧ link (n', s') = link (n, s) ∧
      s.Acted Action.isTank s' := by
  obtain ⟨n', s', hstart, htopics, hconnection, hacted⟩ := acted_started n s settled
  refine ⟨n', s', hstart, ?_, hacted⟩
  show Link.of n'.topics (n'.connection, s') = _
  rw [htopics, hconnection]
  exact Link.of_acted n.topics n.connection s hacted

theorem exists_link_start (settled : n.Settled) :
    ∃ answer, link (n.start s) = (link (n, s)).ask s.now answer := by
  obtain ⟨n', s', hstart, hlink, hacted⟩ := exists_connect_start n s settled
  rw [hstart, link_connect, hlink, hacted.now_eq]
  exact ⟨_, rfl⟩

end Node

end TankGauge
