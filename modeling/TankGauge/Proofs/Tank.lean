import TankGauge.Proofs.Drain

/-!
# The tank of a node

A tank is what there is to say of the gauge of a node and of the commands that it heeds: the gauge
itself, the mode machine, the topic that awaits a payload, and when the three walk timers are due
(`Tank`). All that happens to it is that a command is obeyed (`Tank.obey`) and that a walk goes on
(`Tank.fire`). These are functions of the tank and the time, and do not know of a connection, a
transport, a policy or a journal.

`Node.tank` reads the tank off a node and its site. A callback that is about the tank does to it
what it should (`Node.tank_respond`), and whatever the connection does, it does nothing to it
(`Node.tank_onConnectionEvent`, `Node.tank_connect`, `Node.tank_announce`).
-/

namespace TankGauge

/-- A gauge, what it heeds, and when its timers are due. -/
structure Tank where
  topics : Topics
  stepInterval : UInt32
  gauge : Gauge
  machine : ModeMachine
  pending : PendingTopic
  /-- When each of the walk timers is due, if it is armed. -/
  dueAt : TimerRole → Option Nat

namespace Tank

/-- Arms or disarms a timer. -/
def arm (k : Tank) (role : TimerRole) (due : Option Nat) : Tank :=
  { k with dueAt := fun other => if other = role then due else k.dueAt other }

/-- The gauge takes a step, and the next one is planned unless this is the end of the scale. -/
def step (k : Tank) (now : Nat) (d : Direction) : Tank :=
  if k.gauge.level = d.boundary then k
  else ({ k with gauge := (k.gauge.step d).1 }).arm d.timer (some (instantAfter now k.stepInterval))

/-- Carries out one effect. -/
def effect (now : Nat) (k : Tank) : Effect → Tank
  | .cancel role => k.arm role none
  | .schedule role delay => k.arm role (some (instantAfter now delay))
  | .startDecrease => k.step now .decrease
  | .publishStable => k

/-- Obeys a command. -/
def obey (k : Tank) (now : Nat) (c : Command) : Tank :=
  (k.machine.mode.effects k.machine.pause k.machine.fillPending c).foldl (effect now)
    { k with machine := k.machine.after c }

/-- A walk goes on, if the mode has a use for that. -/
def fire (k : Tank) (now : Nat) (role : TimerRole) : Tank :=
  match role.direction? k.machine.mode with
  | some d => k.step now d
  | none => k

/-- What a callback does to a tank. -/
def respond (k : Tank) (now : Nat) : Callback → Tank
  | .topic name => { k with pending := PendingTopic.classify k.topics name }
  | .payload data true =>
    match Command.decode k.pending (BoundedList.truncate data : Payload).items with
    | some c => { k with pending := .none }.obey now c
    | none => { k with pending := .none }
  | .payload _ false => k
  | .command c => k.obey now c
  | .timer role => k.fire now role
  | .start | .connection _ => k

end Tank

namespace Node

open Site

variable {τ : Type}

/-- The tank of a node. -/
def tank (x : Node × Site τ) : Tank where
  topics := x.1.topics
  stepInterval := x.1.stepInterval
  gauge := x.1.gauge
  machine := x.1.machine
  pending := x.1.pending
  dueAt role := if role.isWalk then x.2.timers.deadline? role else none

section

variable (n : Node) (s : Site τ)

/-- Only the timers of the walk show. -/
theorem tank_congr {s' : Site τ}
    (same : ∀ role, role.isWalk → s'.timers.deadline? role = s.timers.deadline? role) :
    tank (n, s') = tank (n, s) := by
  have hdue (role : TimerRole) : (if role.isWalk then s'.timers.deadline? role else none) =
      if role.isWalk then s.timers.deadline? role else none := by
    split
    · exact same role ‹_›
    · rfl
  exact congrArg (fun dueAt => { tank (n, s) with dueAt }) (funext hdue)

theorem tank_of_untouched {s' : Site τ} (h : s.Untouched s') : tank (n, s') = tank (n, s) := by
  refine tank_congr n s (fun role hwalk => ?_)
  rw [TimerQueue.deadline?, h.slots role hwalk, TimerQueue.deadline?]

/-- Changing the deadline of one walk timer shows as such. -/
theorem tank_of_deadline {s' : Site τ} {role : TimerRole} (hwalk : role.isWalk) {due : Option Nat}
    (changed : ∀ other, s'.timers.deadline? other =
      if other = role then due else s.timers.deadline? other) :
    tank (n, s') = (tank (n, s)).arm role due := by
  have hdue (other : TimerRole) : (if other.isWalk then s'.timers.deadline? other else none) =
      if other = role then due else if other.isWalk then s.timers.deadline? other else none := by
    rw [changed]
    by_cases h : other = role
    · rw [if_pos h, if_pos h, h, if_pos hwalk]
    · rw [if_neg h, if_neg h]
  exact congrArg (fun dueAt => { tank (n, s) with dueAt }) (funext hdue)

theorem tank_cancel {role : TimerRole} (hwalk : role.isWalk) :
    tank (n, s.cancel role) = (tank (n, s)).arm role none :=
  tank_of_deadline n s hwalk (fun other => TimerQueue.deadline?_cancel s.timers role other)

theorem tank_schedule {role : TimerRole} (hwalk : role.isWalk) (delay : UInt32) :
    tank (n, s.schedule role delay) =
      (tank (n, s)).arm role (some (instantAfter s.now delay)) := by
  refine tank_of_deadline n s hwalk (fun other => ?_)
  rw [timers_schedule, TimerQueue.deadline?_schedule]

/-- A timer of the walk that goes off shows as being armed no more. -/
theorem tank_fired {role : TimerRole} (hwalk : role.isWalk) (deadline : Nat) :
    tank (n, s.fired role deadline) = (tank (n, s)).arm role none :=
  tank_of_deadline n s hwalk (fun other => TimerQueue.deadline?_cancel s.timers role other)

/-- A timer of the connection that goes off does not show. -/
theorem tank_fired_of_not_isWalk {role : TimerRole} (h : role.isWalk = false) (deadline : Nat) :
    tank (n, s.fired role deadline) = tank (n, s) := by
  refine tank_congr n s (fun other hwalk => ?_)
  have hne : other ≠ role := by
    rintro rfl
    exact absurd hwalk (by simp [h])
  show (s.timers.cancel role).deadline? other = _
  rw [TimerQueue.deadline?_cancel, if_neg hne]

end

section

variable [Transport τ] (n : Node) (s : Site τ)

/-! ## What does nothing to the tank -/

theorem tank_send (topics : Topics) (ps : List Publication) :
    tank (n, send topics ps s) = tank (n, s) :=
  tank_congr n s (fun _ _ => by rw [timers_send])

theorem tank_connect : tank (n.connect s) = tank (n, s) :=
  tank_of_untouched n s (Connection.untouched_connect n.connection s)

theorem tank_onConnectionEvent (event : ConnectionEvent) :
    tank (n.onConnectionEvent event s) = tank (n, s) :=
  tank_of_untouched n s (Connection.untouched_onEvent n.connection s n.topics event)

theorem tank_announce : tank (n.announce s) = tank (n, s) := by
  rw [show n.announce s = ((n.announce s).1, (n.announce s).2) from rfl, snd_announce]
  exact tank_send n s n.topics _

/-! ## What a callback does to the tank -/

theorem tank_step (d : Direction) : tank (n.step d s) = (tank (n, s)).step s.now d := by
  have hgauge : tank ((n.step d s).1, s) = { tank (n, s) with gauge := (n.gauge.step d).1 } := by
    rw [fst_step]
    rfl
  have hpair : n.step d s = ((n.step d s).1, (n.step d s).2) := rfl
  unfold Tank.step
  rw [hpair]
  by_cases h : n.level = d.boundary
  · rw [if_pos (show (tank (n, s)).gauge.level = d.boundary from h),
      snd_step_of_boundary n s d h]
    -- At the end of the scale the gauge stays, and what is sent and noted does not show.
    have hsame : (n.gauge.step d).1 = n.gauge := by rw [Gauge.step_of_boundary h]
    refine (tank_congr _ s (fun role _ => ?_)).trans (hgauge.trans ?_)
    · rw [note_eq_record, timers_record, timers_send]
    · rw [hsame]
      rfl
  · rw [if_neg (show ¬ (tank (n, s)).gauge.level = d.boundary from h),
      snd_step_of_ne_boundary n s d h, tank_schedule _ _ d.isWalk_timer, tank_send, now_send, hgauge]
    rfl

theorem now_applyEffect (e : Effect) : (n.applyEffect s e).2.now = s.now := by
  cases e with
  | cancel => rfl
  | schedule role delay => exact now_schedule s role delay
  | startDecrease => exact (acted_step n s .decrease).now_eq
  | publishStable => exact now_send n.topics _ s

theorem tank_applyEffects {effects : List Effect} (h : ∀ e ∈ effects, e.isTank) :
    tank (n.applyEffects s effects) = effects.foldl (Tank.effect s.now) (tank (n, s)) := by
  induction effects generalizing n s with
  | nil => rfl
  | cons e rest ih =>
    have hone : tank (n.applyEffect s e) = Tank.effect s.now (tank (n, s)) e := by
      have htank := h e List.mem_cons_self
      cases e with
      | cancel role => exact tank_cancel n s htank
      | schedule role delay => exact tank_schedule n s htank delay
      | startDecrease => exact tank_step n s .decrease
      | publishStable => exact tank_send n s n.topics _
    rw [applyEffects_cons, ih _ _ (fun e' hmem => h e' (List.mem_cons_of_mem e hmem)),
      now_applyEffect, List.foldl_cons]
    exact congrArg (fun k => rest.foldl (Tank.effect s.now) k) hone

theorem tank_handleCommand (settled : n.Settled) (c : Command) :
    tank (n.handleCommand c s) = (tank (n, s)).obey s.now c := by
  have hheard : tank ({ n with machine := n.machine.after c }, n.heard s c) =
      { tank (n, s) with machine := n.machine.after c } :=
    tank_congr { n with machine := n.machine.after c } s (fun _ _ => by rw [timers_heard])
  have hnow : (n.heard s c).now = s.now := (acted_heard n s c).now_eq
  rw [handleCommand_eq n s settled, tank_applyEffects _ _ Mode.isTank_of_mem_effects, hheard, hnow]
  rfl

/-- A callback that is about the tank does to the tank what it should. -/
theorem tank_respond (settled : n.Settled) {c : Callback} (h : c.isTank) :
    tank (Node.respond c n s) = (tank (n, s)).respond s.now c := by
  cases c with
  | start | connection => cases h
  | topic name => rfl
  | command c => exact tank_handleCommand n s settled c
  | payload data last =>
    cases last with
    | false => rfl
    | true =>
      show tank (n.onPayload data true s) =
        match Command.decode n.pending (BoundedList.truncate data : Payload).items with
        | some c => { tank (n, s) with pending := .none }.obey s.now c
        | none => { tank (n, s) with pending := .none }
      cases hdecode : Command.decode n.pending (BoundedList.truncate data : Payload).items with
      | some command =>
        rw [onPayload_of_command n s hdecode]
        exact tank_handleCommand { n with pending := .none }
          (s.note (.payloadSeen (BoundedList.truncate data : Payload).items n.pending))
          settled command
      | none =>
        rw [onPayload_of_no_command n s hdecode]
        rfl
  | timer role =>
    show tank (n.onTimer role s) =
      match role.direction? n.mode with
      | some d => (tank (n, s)).step s.now d
      | none => tank (n, s)
    cases hdirection : role.direction? n.mode with
    | some d =>
      rw [onTimer_of_direction n s d hdirection]
      exact tank_step n s d
    | none =>
      rw [onTimer_of_stale n s h hdirection]
      rfl

end

end Node

end TankGauge
