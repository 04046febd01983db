import TankGauge.Proofs.Alike
import TankGauge.Proofs.WalkTimers

/-!
# A node that keeps two flags

The handler of commands is specified with two flags: whether a fill request stands, and whether an
alarm is active. `FlagNode` is a node that keeps these two and no mode; gauge, policy and connection
are those of `Node`. A node and a flag node to which the same happens cannot be told apart from
outside, as long as timers go off only out of the queue (`Node.flags_of_run`).

`Node.flags` forgets the mode and keeps the flags, and `Sim` says that a flag node is what is left
of a node and that their sites look alike. The flags do not tell the idle mode from the refilling
one, so that a flag node steps up on a firing that an idle node ignores. What makes this harmless is
that no walk timer is armed in the idle mode (`Node.Steady`).
-/

namespace TankGauge

/-- A node that keeps two flags in place of a mode. -/
structure FlagNode where
  topics : Topics
  stepInterval : UInt32
  /-- How long a refill waits after a fill request has ended. -/
  pause : UInt32
  connection : Connection
  gauge : Gauge := .full
  policy : Policy := .ofLevel Gauge.full.level
  /-- Whether a fill request stands. -/
  fill : Bool := false
  /-- Whether an alarm is active. -/
  alarm : Bool := false
  pending : PendingTopic := .none
deriving DecidableEq, Repr

namespace FlagNode

variable {τ : Type}

/-- A flag node that has not been started. -/
def ofConfig (c : Config) (session : SessionParams) : FlagNode where
  topics := c.topics
  stepInterval := c.stepInterval
  pause := c.resumeDelay
  connection := .ofConfig c session

/-- The level of the gauge. -/
def level (n : FlagNode) : UInt8 := n.gauge.level

/-- Disarms the three walk timers. -/
def disarm (s : Site τ) : Site τ := ((s.cancel .decrease).cancel .increase).cancel .resume

variable [Transport τ]

/-- One step of the gauge and what there is to tell about it. -/
def step (n : FlagNode) (d : Direction) (s : Site τ) : FlagNode × Site τ :=
  let (gauge, outcome) := n.gauge.step d
  let (publications, policy) := n.policy.observe outcome.level
  let s := Node.send n.topics publications.items s
  let n := { n with gauge, policy }
  match outcome with
  | .moved _ => (n, s.schedule d.timer n.stepInterval)
  | .atBoundary _ => (n, s)

/-- Tells that the level is stable. -/
def tellStable (n : FlagNode) (s : Site τ) : FlagNode × Site τ :=
  let (stable, policy) := n.policy.forceStable
  ({ n with policy }, Node.send n.topics [stable] s)

/-- Tells that the node is online and what its level is. -/
def announce (n : FlagNode) (s : Site τ) : FlagNode × Site τ :=
  let (publications, policy) := n.policy.announce n.gauge.level
  ({ n with policy }, Node.send n.topics publications.items s)

omit [Transport τ] in
/-- Sets the flag that a command is about. -/
def hear (n : FlagNode) : Command → FlagNode
  | .fillRequest on => { n with fill := on }
  | .alarm on => { n with alarm := on }

/-- Carries out a command as it is specified with the two flags. -/
def handleCommand (n : FlagNode) (command : Command) (s : Site τ) : FlagNode × Site τ :=
  let s := s.emit (.commandReceived command)
  let n := n.hear command
  match command with
  | .fillRequest true => if n.alarm then (n, s) else n.step .decrease (disarm s)
  | .fillRequest false =>
    let (n, s) := n.tellStable s
    if n.alarm then (n, s)
    else (n, ((s.cancel .decrease).cancel .increase).schedule .resume n.pause)
  | .alarm true => n.tellStable (disarm s)
  | .alarm false => if n.fill then n.step .decrease (disarm s) else (n, s)

/-- Lets the connection ask for a session. -/
def connect (n : FlagNode) (s : Site τ) : FlagNode × Site τ :=
  let (connection, s) := n.connection.connect s
  ({ n with connection }, s)

/-- A timer has fired. -/
def onTimer (role : TimerRole) (n : FlagNode) (s : Site τ) : FlagNode × Site τ :=
  match role with
  | .decrease => if n.fill ∧ ¬n.alarm then n.step .decrease s else (n, s)
  | .increase | .resume => if ¬n.fill ∧ ¬n.alarm then n.step .increase s else (n, s)
  | .reconnect => n.connect s
  | .announce => n.announce s

/-- What a flag node makes of callbacks. -/
def respond : Responder FlagNode τ
  | .start, n, s => n.connect s
  | .connection event, n, s =>
    let (connection, s) := n.connection.onEvent n.topics event s
    ({ n with connection }, s)
  | .topic name, n, s => ({ n with pending := PendingTopic.classify n.topics name }, s)
  | .payload data true, n, s =>
    let payload : Payload := BoundedList.truncate data
    match Command.decode n.pending payload.items with
    | some command => { n with pending := .none }.handleCommand command s
    | none => ({ n with pending := .none }, s.emit (.payloadIgnored data.length))
  | .payload _ false, n, s => (n, s)
  | .command c, n, s => n.handleCommand c s
  | .timer role, n, s => n.onTimer role s

/-- A flag node that has just been started. -/
def launched (c : Config) (session : SessionParams) (now : Nat) (t : τ) : FlagNode × Site τ :=
  (ofConfig c session).connect { now, transport := t }

end FlagNode

/-! ## Forgetting the mode -/

/-- What is left of a node when its mode is forgotten and its flags are kept. -/
def Node.flags (n : Node) : FlagNode where
  topics := n.topics
  stepInterval := n.stepInterval
  pause := n.machine.pause
  connection := n.connection
  gauge := n.gauge
  policy := n.policy
  fill := n.fillRequested
  alarm := n.alarmActive
  pending := n.pending

namespace Node

open Site

variable {τ : Type} [Transport τ] {s s' : Site τ}

/-- A flag node is what is left of a node, and their sites look alike. -/
def Sim (x : Node × Site τ) (y : FlagNode × Site τ) : Prop := y.1 = x.1.flags ∧ x.2.Alike y.2

theorem sim_step (h : s.Alike s') (n : Node) (d : Direction) :
    Sim (n.step d s) (n.flags.step d s') := by
  unfold step FlagNode.step
  have hgauge : n.flags.gauge = n.gauge := rfl
  rw [hgauge]
  rcases n.gauge.step d with ⟨g, outcome⟩
  have hsend := h.send n.topics (n.policy.observe outcome.level).1.items
  cases outcome with
  | moved level => exact ⟨rfl, hsend.schedule d.timer n.stepInterval⟩
  | atBoundary level => exact ⟨rfl, hsend.record_left rfl⟩

theorem sim_announce (h : s.Alike s') (n : Node) :
    Sim (n.announce s) (n.flags.announce s') :=
  ⟨rfl, h.send n.topics (n.policy.announce n.gauge.level).1.items⟩

theorem sim_connect (h : s.Alike s') (n : Node) : Sim (n.connect s) (n.flags.connect s') := by
  obtain ⟨hconnection, hsite⟩ := Connection.agree_connect h n.connection
  refine ⟨?_, hsite⟩
  show { n.flags with connection := (n.connection.connect s').1 } = _
  rw [hconnection]
  rfl

/-! ### Commands -/

section

variable (h : s.Alike s') (n : Node)

include h

theorem sim_publishStable :
    Sim (n.applyEffects s [.publishStable]) (n.flags.tellStable s') :=
  ⟨rfl, h.send n.topics [n.policy.forceStable.1]⟩

theorem sim_emptying (pause : UInt32) :
    Sim (n.applyEffects s (Mode.entryEffects pause .emptying))
      (n.flags.step .decrease (FlagNode.disarm s')) :=
  sim_step h.cancel_three n .decrease

theorem sim_refilling :
    Sim (n.applyEffects s (Mode.entryEffects n.machine.pause .refilling))
      ((n.flags.tellStable s').1,
        ((((n.flags.tellStable s').2.cancel .decrease).cancel .increase).schedule .resume
          n.machine.pause)) :=
  ⟨rfl, ((((sim_publishStable h n).2.cancel .decrease).cancel .increase).schedule .resume _)⟩

theorem sim_alarmed (pause : UInt32) :
    Sim (n.applyEffects s (Mode.entryEffects pause .alarmed))
      (n.flags.tellStable (FlagNode.disarm s')) :=
  sim_publishStable (((h.cancel .decrease).cancel .increase).cancel .resume) n

omit [Transport τ] in
theorem alike_heard (c : Command) : (n.heard s c).Alike (s'.emit (.commandReceived c)) := by
  have hheard := (h.record (.event (.commandReceived c))).noteAll_left (n.machine.handle c).2.2
  unfold heard
  cases (n.machine.handle c).1 with
  | none => exact hheard
  | some after => exact hheard.record_left rfl

omit [Transport τ] h in
/-- The machine goes on as the flags do. -/
theorem flags_after (c : Command) :
    { n with machine := n.machine.after c }.flags = n.flags.hear c := by
  have hfill := fillRequested_after n c
  have halarm := alarmActive_after n c
  unfold flags
  rw [hfill, halarm]
  cases c <;> rfl

/-- A command does to a node what is specified with the flags. -/
theorem sim_handleCommand (settled : n.Settled) (c : Command) :
    Sim (n.handleCommand c s) (n.flags.handleCommand c s') := by
  let after : Node := { n with machine := n.machine.after c }
  have hheard := alike_heard h n c
  have hflags : after.flags = n.flags.hear c := flags_after n c
  have hfill : after.flags.fill = _ := fillRequested_after n c
  have halarm : after.flags.alarm = _ := alarmActive_after n c
  rw [handleCommand_eq n s settled, effects_of_flags]
  unfold FlagNode.handleCommand
  rw [← hflags]
  -- The mode is asked before the command, the flags after it. A command leaves the flag that it
  -- is not about as it was.
  cases c with
  | fillRequest on =>
    have hsame : after.flags.alarm = n.alarmActive := halarm
    rw [← hsame]
    cases on with
    | true =>
      dsimp only
      by_cases hactive : after.flags.alarm
      · rw [if_pos hactive, if_pos hactive]
        exact ⟨rfl, hheard⟩
      · rw [if_neg hactive, if_neg hactive]
        exact sim_emptying hheard after _
    | false =>
      dsimp only
      have htold :
          (after.flags.tellStable (s'.emit (.commandReceived (.fillRequest false)))).1.alarm =
            after.flags.alarm := rfl
      rw [htold]
      by_cases hactive : after.flags.alarm
      · rw [if_pos hactive, if_pos hactive]
        exact sim_publishStable hheard after
      · rw [if_neg hactive, if_neg hactive]
        exact sim_refilling hheard after
  | alarm on =>
    cases on with
    | true => exact sim_alarmed hheard after _
    | false =>
      have hsame : after.flags.fill = n.fillRequested := hfill
      rw [← hsame]
      dsimp only
      by_cases hrequested : after.flags.fill
      · rw [if_pos hrequested, if_pos hrequested]
        exact sim_emptying hheard after _
      · rw [if_neg hrequested, if_neg hrequested]
        exact ⟨rfl, hheard⟩

end

/-! ### Other callbacks -/

/-- A walk timer that the mode has a use for is of the same use to the flags. -/
theorem onTimer_flags_of_direction (n : Node) {role : TimerRole} {d : Direction}
    (useful : role.direction? n.mode = some d) (s : Site τ) :
    n.flags.onTimer role s = n.flags.step d s := by
  have hmode : n.machine.mode = n.mode := rfl
  cases role with
  | reconnect | announce => cases useful
  | decrease =>
    cases hm : n.mode <;> rw [hm] at useful <;> cases useful
    have hflags : n.fillRequested ∧ ¬n.alarmActive := by
      rw [fillRequested, alarmActive, hmode, hm]
      exact ⟨rfl, by decide⟩
    exact if_pos hflags
  | increase | resume =>
    cases hm : n.mode <;> rw [hm] at useful <;> cases useful
    have hflags : ¬n.fillRequested ∧ ¬n.alarmActive := by
      rw [fillRequested, alarmActive, hmode, hm]
      exact ⟨Bool.false_ne_true, by decide⟩
    exact if_pos hflags

/-- A timer that goes off does the same, provided that the mode has a use for it. -/
theorem sim_onTimer (h : s.Alike s') (n : Node) {role : TimerRole}
    (useful : role.isWalk → ∃ d, role.direction? n.mode = some d) :
    Sim (n.onTimer role s) (n.flags.onTimer role s') := by
  by_cases hwalk : role.isWalk
  · obtain ⟨d, hd⟩ := useful hwalk
    rw [onTimer_of_direction n s d hd, onTimer_flags_of_direction n hd]
    exact sim_step h n d
  · cases role with
    | decrease | increase | resume => exact absurd rfl hwalk
    | reconnect => exact sim_connect h n
    | announce => exact sim_announce h n

theorem sim_onConnectionEvent (h : s.Alike s') (n : Node) (event : ConnectionEvent) :
    Sim (n.onConnectionEvent event s) (FlagNode.respond (.connection event) n.flags s') := by
  obtain ⟨hconnection, hsite⟩ := Connection.agree_onEvent h n.connection n.topics event
  refine ⟨?_, hsite⟩
  show { n.flags with connection := (n.connection.onEvent n.topics event s').1 } = _
  rw [hconnection]
  rfl

theorem sim_onPayload (h : s.Alike s') (n : Node) (settled : n.Settled) (data : Bytes)
    (last : Bool) :
    Sim (n.onPayload data last s) (FlagNode.respond (.payload data last) n.flags s') := by
  cases last with
  | false => exact ⟨rfl, h.record_left rfl⟩
  | true =>
    let payload : Payload := BoundedList.truncate data
    have hseen : (s.note (.payloadSeen payload.items n.pending)).Alike s' := h.record_left rfl
    have hpending : n.flags.pending = n.pending := rfl
    cases hdecode : Command.decode n.pending payload.items with
    | some command =>
      rw [onPayload_of_command n s hdecode]
      simp only [FlagNode.respond, hpending, payload, hdecode]
      exact sim_handleCommand hseen { n with pending := .none } settled command
    | none =>
      rw [onPayload_of_no_command n s hdecode]
      simp only [FlagNode.respond, hpending, payload, hdecode]
      exact ⟨rfl, hseen.record _⟩

/-! ### Runs -/

theorem sim_launched (c : Config) (session : SessionParams) (now : Nat) (t : τ) :
    Sim (launched c session now t) (FlagNode.launched c session now t) := by
  let blank : Site τ := { now, transport := t }
  rw [launched_eq]
  exact sim_connect (((Alike.refl blank).noteAll_left _).record_left rfl |>.record_left rfl)
    (ofConfig c session)

/-- What happens in time does the same to a steady node and to what is left of it without its
mode. -/
theorem sim_apply {x : Node × Site τ} {y : FlagNode × Site τ} (steady : Steady x) (h : Sim x y)
    {happening : Happening τ} (timely : happening.isTimely) :
    Sim (happening.apply respond x) (happening.apply FlagNode.respond y) := by
  obtain ⟨n, s⟩ := x
  obtain ⟨m, s'⟩ := y
  obtain ⟨hflags, hsite⟩ := h
  obtain rfl : m = n.flags := hflags
  cases happening with
  | callback c =>
    cases c with
    | start | timer => cases timely
    | connection event => exact sim_onConnectionEvent hsite n event
    | topic name => exact ⟨rfl, hsite.record_left rfl⟩
    | payload data last => exact sim_onPayload hsite n steady.settled data last
    | command c => exact sim_handleCommand hsite n steady.settled c
  | expiry role =>
    -- The queues are the same, so that the timer goes off on both sites or on none.
    have htimers : s'.timers = s.timers := hsite.timers
    cases hslot : s.timers.slots.get role with
    | none =>
      simp only [Happening.apply, htimers, hslot]
      exact ⟨rfl, hsite⟩
    | some t =>
      simp only [Happening.apply, htimers, hslot]
      have harmed : s.timers.isArmed role = true := by rw [TimerQueue.isArmed, hslot]; rfl
      have hcancel : s.timers.cancel role = s.timers.cancel role := rfl
      have hfired := (hsite.setTimers hcancel).record (.fire role t.deadline)
      exact sim_onTimer hfired n (fun hwalk => steady.walk.exists_direction hwalk harmed)
  | clock reading => exact ⟨rfl, rfl, hsite.timers, hsite.transport, hsite.outward⟩
  | transport t => exact ⟨rfl, hsite.setTransport t⟩

/-- A node with four modes and a node with two flags cannot be told apart by what happens to them
in time: after every callback they have the same level, the same timers armed with the same
deadlines, and have handed the same messages to the transport. All else that is seen from outside
is the same too, and the flags of one are those of the other. -/
theorem flags_of_run (c : Config) (session : SessionParams) (now : Nat) (t : τ)
    (hs : List (Happening τ)) (timely : ∀ h ∈ hs, h.isTimely) :
    let (n, s) := run respond (launched c session now t) hs
    let (m, s') := run FlagNode.respond (FlagNode.launched c session now t) hs
    m.level = n.level ∧ s'.timers = s.timers ∧ s'.publishes = s.publishes ∧
      s'.outward = s.outward ∧ m = n.flags := by
  -- Alike is not enough for a step of the run: an idle node must have no walk timer armed.
  let Both (x : Node × Site τ) (y : FlagNode × Site τ) : Prop := Steady x ∧ Sim x y
  have hstep : ∀ h ∈ hs, ∀ x y, Both x y → Both (h.apply respond x) (h.apply FlagNode.respond y) :=
    fun h hmem x y hxy => ⟨hxy.1.apply (timely h hmem), sim_apply hxy.1 hxy.2 (timely h hmem)⟩
  have hrun : Both (run respond (launched c session now t) hs)
      (run FlagNode.respond (FlagNode.launched c session now t) hs) :=
    run_relation hstep ⟨Steady.launched c session now t, sim_launched c session now t⟩
  generalize run respond (launched c session now t) hs = x at hrun ⊢
  generalize run FlagNode.respond (FlagNode.launched c session now t) hs = y at hrun ⊢
  obtain ⟨-, hflags, hsite⟩ := hrun
  refine ⟨?_, hsite.timers, hsite.publishes, hsite.outward, hflags⟩
  show y.1.level = x.1.level
  rw [hflags]
  rfl

/-- A fill that takes one step of its own before an alarm stops it leaves both nodes at 98. -/
theorem flags_of_interrupted_fill :
    let hs : List (Happening Scripted) :=
      [.callback (.command (.fillRequest true)), .clock 1000, .expiry .decrease,
        .callback (.command (.alarm true))]
    (∀ h ∈ hs, h.isTimely) ∧
      (run respond (launched {} (Bench.session {}) 0 {}) hs).1.level = 98 ∧
      (run FlagNode.respond (FlagNode.launched {} (Bench.session {}) 0 {}) hs).1.level = 98 := by
  intro hs
  have htimely : ∀ h ∈ hs, h.isTimely := by decide
  have hlevel : (run respond (launched {} (Bench.session {}) 0 {}) hs).1.level = 98 := by rfl
  obtain ⟨hsame, -⟩ := flags_of_run {} (Bench.session {}) 0 ({} : Scripted) hs htimely
  exact ⟨htimely, hlevel, hsame.trans hlevel⟩

end Node

end TankGauge
