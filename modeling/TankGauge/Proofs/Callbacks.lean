import TankGauge.Proofs.Effects
import TankGauge.Proofs.Journal

/-!
# What callbacks do to a node and its site

Each callback is given by what it does and by what it leaves alone, so that the laws of a node need
not look into it. A step moves the gauge and arms its timer again, or stays and arms nothing
(`Node.snd_step_of_ne_boundary`, `Node.snd_step_of_boundary`). A command is the machine's next
state with the effects that it leads to carried out (`Node.handleCommand_eq`). And whatever the
connection does, it leaves the tank untouched (`Connection.untouched_connect`,
`Connection.untouched_onEvent`): it publishes nothing and does not touch the walk timers.
-/

namespace TankGauge

/-! ## Sites whose tank is untouched -/

/-- Whether an entry tells of no publication, no command and no walk timer. -/
def Entry.isQuiet (e : Entry) : Bool :=
  !e.isPublishing && e.command?.isNone && e.walkArming?.isNone

namespace Entry

variable {e : Entry} (h : e.isQuiet)

include h

theorem isPublishing_of_isQuiet : e.isPublishing = false := by
  simp only [isQuiet, Bool.and_eq_true, Bool.not_eq_true'] at h
  exact h.1.1

theorem command?_of_isQuiet : e.command? = none := by
  simp only [isQuiet, Bool.and_eq_true, Option.isNone_iff_eq_none] at h
  exact h.1.2

theorem walkArming?_of_isQuiet : e.walkArming? = none := by
  simp only [isQuiet, Bool.and_eq_true, Option.isNone_iff_eq_none] at h
  exact h.2

end Entry

namespace Site

variable {τ : Type}

/-- `s'` came out of `s` at the same time, with nothing published, no command taken in and the walk
timers left alone. -/
structure Untouched (s s' : Site τ) : Prop where
  now : s'.now = s.now
  added : ∃ news, s'.journal = news ++ s.journal ∧ ∀ e ∈ news, e.isQuiet
  slots : ∀ role, role.isWalk → s'.timers.slots.get role = s.timers.slots.get role

namespace Untouched

section

variable {s s' : Site τ} (h : s.Untouched s')

include h

theorem attempts : s'.attempts = s.attempts := by
  obtain ⟨news, hjournal, hquiet⟩ := h.added
  rw [Site.attempts, hjournal]
  exact attemptsIn_append (fun e hmem => Entry.isPublishing_of_isQuiet (hquiet e hmem)) s.journal

/-- A view in which nothing quiet shows is left alone. -/
theorem view_eq {β : Type} (f : Entry → Option β) (hidden : ∀ e, e.isQuiet → f e = none) :
    s'.view f = s.view f := by
  obtain ⟨news, hjournal, hquiet⟩ := h.added
  have hnone : news.filterMap f = [] :=
    List.filterMap_eq_nil_iff.mpr (fun e hmem => hidden e (hquiet e hmem))
  rw [view, hjournal, List.filterMap_append, hnone]
  rfl

theorem commands : s'.commands = s.commands := h.view_eq _ (fun _ => Entry.command?_of_isQuiet)

theorem walkArmings : s'.walkArmings = s.walkArmings :=
  h.view_eq _ (fun _ => Entry.walkArming?_of_isQuiet)

end

theorem refl (s : Site τ) : s.Untouched s :=
  ⟨rfl, ⟨[], rfl, fun _ hmem => absurd hmem List.not_mem_nil⟩, fun _ _ => rfl⟩

theorem trans {s₁ s₂ s₃ : Site τ} (h : s₁.Untouched s₂) (h' : s₂.Untouched s₃) :
    s₁.Untouched s₃ where
  now := h'.now.trans h.now
  added := by
    obtain ⟨first, hfirst, hquiet⟩ := h.added
    obtain ⟨second, hsecond, hquiet'⟩ := h'.added
    refine ⟨second ++ first, ?_, List.forall_mem_append.mpr ⟨hquiet', hquiet⟩⟩
    rw [hsecond, hfirst, List.append_assoc]
  slots role hwalk := (h'.slots role hwalk).trans (h.slots role hwalk)

/-- Quiet entries leave the tank untouched. -/
theorem record (s : Site τ) {e : Entry} (h : e.isQuiet) : s.Untouched (s.record e) :=
  ⟨rfl, ⟨[e], rfl, List.forall_mem_singleton.mpr h⟩, fun _ _ => rfl⟩

theorem noteAll (s : Site τ) (notes : List Note) : s.Untouched (s.noteAll notes) := by
  induction notes generalizing s with
  | nil => exact refl s
  | cons n rest ih => exact (record s rfl).trans (ih (s.record (.note n)))

/-- Arming a timer of the connection leaves the tank untouched. -/
theorem schedule (s : Site τ) {r : TimerRole} (h : r.isWalk = false) (delay : UInt32) :
    s.Untouched (s.schedule r delay) := by
  refine ⟨now_schedule s r delay, ?_, ?_⟩
  · have hquiet : (Entry.schedule r delay).isQuiet := by
      simp [Entry.isQuiet, Entry.isPublishing, Entry.command?, Entry.walkArming?, h]
    unfold Site.schedule
    split
    · exact ⟨[.note (.timerRearmed r), .schedule r delay], rfl,
        List.forall_mem_cons.mpr ⟨rfl, List.forall_mem_singleton.mpr hquiet⟩⟩
    · exact ⟨[.schedule r delay], rfl, List.forall_mem_singleton.mpr hquiet⟩
  · intro role hwalk
    have hne : role ≠ r := by
      rintro rfl
      exact absurd hwalk (by simp [h])
    rw [timers_schedule, TimerQueue.slots_schedule, if_neg hne]

/-- Disarming a timer of the connection leaves the tank untouched. -/
theorem cancel (s : Site τ) {r : TimerRole} (h : r.isWalk = false) :
    s.Untouched (s.cancel r) := by
  refine ⟨rfl, ⟨[_], journal_cancel s r, List.forall_mem_singleton.mpr rfl⟩, ?_⟩
  intro role hwalk
  have hne : role ≠ r := by
    rintro rfl
    exact absurd hwalk (by simp [h])
  rw [timers_cancel, TimerQueue.slots_cancel, if_neg hne]

variable [Transport τ]

theorem connect (s : Site τ) (session : SessionParams) : s.Untouched (s.connect session).2 :=
  ⟨rfl, ⟨[_], journal_connect s session, List.forall_mem_singleton.mpr rfl⟩, fun _ _ => rfl⟩

theorem subscribe (s : Site τ) (topic : Topic) (qos : QoS) :
    s.Untouched (s.subscribe topic qos).2 :=
  ⟨rfl, ⟨[_], journal_subscribe s topic qos, List.forall_mem_singleton.mpr rfl⟩, fun _ _ => rfl⟩

end Untouched

/-- Walk timers of an untouched tank are armed or not as before. -/
theorem Untouched.isArmed {s s' : Site τ} (h : s.Untouched s') {role : TimerRole}
    (hwalk : role.isWalk) : s'.timers.isArmed role = s.timers.isArmed role := by
  rw [TimerQueue.isArmed, h.slots role hwalk, TimerQueue.isArmed]

end Site

/-! ## The connection -/

namespace Connection

open Site

variable {τ : Type} (c : Connection) (s : Site τ)

theorem untouched_moveTo (status : ConnectionStatus) : s.Untouched (c.moveTo status s).2 :=
  Untouched.record s rfl

theorem untouched_retryAfter (delay : UInt32) : s.Untouched (retryAfter delay s) :=
  (Untouched.schedule s rfl delay).trans (Untouched.record _ rfl)

theorem untouched_failAttempt : s.Untouched (c.failAttempt s).2 :=
  (untouched_moveTo c s .disconnected).trans (untouched_retryAfter _ c.longDelay)

variable [Transport τ]

/-- Asking for a session leaves the tank untouched. -/
theorem untouched_connect : s.Untouched (c.connect s).2 := by
  by_cases h : c.status = .disconnected
  · rw [connect_of_disconnected h]
    have hasked : s.Untouched ((c.asking s).connect c.session).2 :=
      ((untouched_moveTo c s .connecting).trans (Untouched.record _ rfl)).trans
        (Untouched.connect (c.asking s) c.session)
    rcases hcall : (c.asking s).connect c.session with ⟨_ | reason, s'⟩ <;> rw [hcall] at hasked
    · exact hasked
    · have hnote : s'.Untouched (s'.note (.connectFailed reason)) := Untouched.record s' rfl
      exact (hasked.trans hnote).trans (untouched_failAttempt _ _)
  · rw [connect_of_ne_disconnected h]
    exact Untouched.record s rfl

theorem untouched_subscribeTo (topic : Topic) : s.Untouched (subscribeTo topic s) :=
  (Untouched.subscribe s topic .atLeastOnce).trans (Untouched.record _ rfl)

/-- News of the session leaves the tank untouched. -/
theorem untouched_onEvent (topics : Topics) (event : ConnectionEvent) :
    s.Untouched (c.onEvent topics event s).2 := by
  unfold onEvent
  split
  · exact (((untouched_moveTo c s .connected).trans (untouched_subscribeTo _ _)).trans
      (untouched_subscribeTo _ _)).trans (Untouched.schedule _ rfl 0)
  · exact (Untouched.record s rfl).trans (untouched_failAttempt c _)
  · exact (Untouched.record s rfl).trans (untouched_failAttempt c _)
  · exact (((Untouched.record s rfl).trans (Untouched.cancel _ rfl)).trans
      (untouched_moveTo c _ .disconnected)).trans (untouched_retryAfter _ c.shortDelay)
  · exact (((Untouched.record s rfl).trans (Untouched.cancel _ rfl)).trans
      (untouched_moveTo c _ .disconnected)).trans (untouched_retryAfter _ c.shortDelay)
  · exact Untouched.record s rfl

end Connection

/-! ## Steps, announcements and effects -/

/-- Which way a firing walks the gauge in a mode, if it is of use there. -/
def TimerRole.direction? : TimerRole → Mode → Option Direction
  | .decrease, .emptying => some .decrease
  | .increase, .refilling | .resume, .refilling => some .increase
  | _, _ => none

/-- The mode in which the gauge is walked in a direction. -/
def Direction.mode : Direction → Mode
  | .decrease => .emptying
  | .increase => .refilling

theorem Direction.isWalk_timer (d : Direction) : d.timer.isWalk := by cases d <;> rfl

/-- A mode that has a use for a role walks in the direction that the role is for. -/
theorem TimerRole.mode_of_direction? {role : TimerRole} {mode : Mode} {d : Direction}
    (h : role.direction? mode = some d) : mode = d.mode := by
  cases role <;> cases mode <;> cases h <;> rfl

namespace Node

open Site

variable {τ : Type} [Transport τ] (n : Node) (s : Site τ) (d : Direction)

theorem fst_step :
    (n.step d s).1 =
      { n with
        gauge := (n.gauge.step d).1
        policy := (n.policy.observe (n.gauge.step d).1.level).2 } := by
  rw [← Gauge.level_step]
  unfold step
  rcases n.gauge.step d with ⟨g, _ | _⟩ <;> rfl

/-- Before the end of the scale a step tells the next level and arms its timer. -/
theorem snd_step_of_ne_boundary (h : n.level ≠ d.boundary) :
    (n.step d s).2 =
      (send n.topics (n.policy.news (d.next n.level)) s).schedule d.timer n.stepInterval := by
  obtain ⟨-, houtcome⟩ := Gauge.step_of_ne_boundary h
  unfold step
  rcases hstep : n.gauge.step d with ⟨g, outcome⟩
  rw [hstep] at houtcome
  subst houtcome
  simp only [StepOutcome.level, Policy.items_observe]
  rfl

/-- At the end of the scale a step tells the level once more and arms nothing. -/
theorem snd_step_of_boundary (h : n.level = d.boundary) :
    (n.step d s).2 = (send n.topics (n.policy.news n.level) s).note (.gaugeSettled n.level) := by
  have hstep : n.gauge.step d = (n.gauge, .atBoundary n.gauge.level) := Gauge.step_of_boundary h
  unfold step
  rw [hstep]
  simp only [StepOutcome.level, Policy.items_observe]
  rfl

theorem level_step_of_ne_boundary (h : n.level ≠ d.boundary) :
    (n.step d s).1.level = d.next n.level := by
  rw [fst_step]
  exact (Gauge.step_of_ne_boundary h).1

theorem level_step_of_boundary (h : n.level = d.boundary) : (n.step d s).1.level = n.level := by
  have hstep : n.gauge.step d = (n.gauge, .atBoundary n.gauge.level) := Gauge.step_of_boundary h
  rw [fst_step, hstep]
  rfl

/-- A step observes the level that it comes to. -/
theorem policy_step : (n.step d s).1.policy = (n.policy.observe (n.step d s).1.level).2 := by
  rw [fst_step]
  rfl

/-- A step tells what there is to tell of the level that it comes to. -/
theorem attempts_step :
    (n.step d s).2.attempts =
      (send n.topics (n.policy.news (n.step d s).1.level) s).attempts := by
  by_cases h : n.level = d.boundary
  · rw [snd_step_of_boundary n s d h, level_step_of_boundary n s d h, note_eq_record,
      attempts_record _ rfl]
  · rw [snd_step_of_ne_boundary n s d h, level_step_of_ne_boundary n s d h, attempts_schedule]

theorem fst_announce :
    (n.announce s).1 = { n with policy := (n.policy.observe n.level).2 } := rfl

theorem snd_announce :
    (n.announce s).2 = send n.topics (.online :: n.policy.news n.level) s := by
  rw [← Policy.items_announce]
  rfl

/-- Effects change nothing of a node but its gauge and its policy. -/
theorem fst_applyEffects (effects : List Effect) :
    ∃ gauge policy, (n.applyEffects s effects).1 = { n with gauge, policy } := by
  induction effects generalizing n s with
  | nil => exact ⟨n.gauge, n.policy, rfl⟩
  | cons e rest ih =>
    obtain ⟨gauge, policy, h⟩ := ih (n.applyEffect s e).1 (n.applyEffect s e).2
    have happly : (n.applyEffects s (e :: rest)).1 =
        ((n.applyEffect s e).1.applyEffects (n.applyEffect s e).2 rest).1 := rfl
    rw [happly, h]
    cases e with
    | cancel | schedule => exact ⟨gauge, policy, rfl⟩
    | startDecrease =>
      refine ⟨gauge, policy, ?_⟩
      rw [applyEffect, fst_step]
    | publishStable => exact ⟨gauge, policy, rfl⟩

theorem onTimer_of_direction {role : TimerRole} (h : role.direction? n.mode = some d) :
    n.onTimer role s = n.step d s := by
  have hmode : n.machine.mode = n.mode := rfl
  unfold onTimer
  rw [hmode]
  cases role <;> cases hm : n.mode <;> rw [hm] at h <;>
    simp only [TimerRole.direction?, Option.some.injEq, reduceCtorEq] at h <;> subst h <;> rfl

/-- A walk timer that the mode has no use for leaves nothing but a note. -/
theorem onTimer_of_stale {role : TimerRole} (hwalk : role.isWalk)
    (h : role.direction? n.mode = none) :
    n.onTimer role s = (n, s.note (.staleTimer role n.mode)) := by
  have hmode : n.machine.mode = n.mode := rfl
  unfold onTimer
  rw [hmode]
  cases role with
  | reconnect | announce => exact absurd hwalk (by decide)
  | decrease =>
    cases hm : n.mode with
    | emptying => rw [hm] at h; cases h
    | idle | refilling | alarmed => rfl
  | increase | resume =>
    cases hm : n.mode with
    | refilling => rw [hm] at h; cases h
    | idle | emptying | alarmed => rfl

/-! ## Commands -/

/-- No effects wait. -/
def Settled (n : Node) : Prop := n.machine.effects = .empty

/-- The site of a node that has taken in a command and is about to carry out its effects. -/
def heard (c : Command) : Site τ :=
  let s := (s.emit (.commandReceived c)).noteAll (n.machine.handle c).2.2
  match (n.machine.handle c).1 with
  | none => s
  | some after => s.emit (.modeChanged n.machine.mode after)

/-- A node that has taken in a command carries out all effects that wait. -/
theorem handleCommand_eq_applyEffects (c : Command) :
    n.handleCommand c s =
      { n with machine := (n.machine.handle c).2.1.takeEffects.2 }.applyEffects (n.heard s c)
        (n.machine.handle c).2.1.takeEffects.1 := rfl

/-- A command takes the machine on and has the effects carried out that it leads to. -/
theorem handleCommand_eq (settled : n.Settled) (c : Command) :
    n.handleCommand c s =
      { n with machine := n.machine.after c }.applyEffects (n.heard s c)
        (n.mode.effects n.machine.pause n.machine.fillPending c) := by
  obtain ⟨-, htake⟩ := ModeMachine.handle_of_empty n.machine c settled
  rw [handleCommand_eq_applyEffects, htake]
  rfl

/-- A payload that decodes to a command has it carried out. -/
theorem onPayload_of_command {data : Bytes} {command : Command}
    (h : Command.decode n.pending (BoundedList.truncate data : Payload).items = some command) :
    n.onPayload data true s =
      { n with pending := .none }.handleCommand command
        (s.note (.payloadSeen (BoundedList.truncate data : Payload).items n.pending)) := by
  simp only [onPayload, if_true, h]

/-- A payload that decodes to no command is ignored, and uses up the topic all the same. -/
theorem onPayload_of_no_command {data : Bytes}
    (h : Command.decode n.pending (BoundedList.truncate data : Payload).items = none) :
    n.onPayload data true s =
      ({ n with pending := .none },
        (s.note (.payloadSeen (BoundedList.truncate data : Payload).items n.pending)).emit
          (.payloadIgnored data.length)) := by
  simp only [onPayload, if_true, h]

section

omit [Transport τ]

variable (c : Command)

/-- What a node leaves in the journal about a command, the arrival itself apart, is quiet. -/
theorem untouched_heard : (s.emit (.commandReceived c)).Untouched (n.heard s c) := by
  unfold heard
  have h := Untouched.noteAll (s.emit (.commandReceived c)) (n.machine.handle c).2.2
  cases (n.machine.handle c).1 with
  | none => exact h
  | some after => exact h.trans (Untouched.record _ rfl)

@[simp] theorem timers_heard : (n.heard s c).timers = s.timers := by
  unfold heard
  cases (n.machine.handle c).1 <;> simp

@[simp] theorem attempts_heard : (n.heard s c).attempts = s.attempts :=
  (untouched_heard n s c).attempts.trans (attempts_record s rfl)

@[simp] theorem commands_heard : (n.heard s c).commands = c :: s.commands :=
  (untouched_heard n s c).commands.trans (view_record s _ _)

@[simp] theorem walkArmings_heard : (n.heard s c).walkArmings = s.walkArmings :=
  (untouched_heard n s c).walkArmings.trans (view_record s _ _)

end

end Node

end TankGauge
