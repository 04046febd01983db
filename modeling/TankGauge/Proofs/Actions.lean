import TankGauge.Proofs.Responses

/-!
# Callbacks as actions on a site

Whatever a callback does to its site is done by actions, one after the other: an event or a note is
recorded, a timer is armed or disarmed, the transport is called (`Action`). So what each action
preserves, every callback preserves, and nobody needs to look into callbacks for that
(`Node.acted_respond`). No callback tells of an effect that was dropped
(`Node.acted_respond_keepsEffects`).

The callbacks that are about the tank get by with fewer actions (`Action.isTank`). They call the
transport only to publish, and never that the node is online; they touch no timer of the connection
and tell of no change of its status (`Node.acted_respond_of_tank`).

What a part of a callback does is said for every kind of action that allows it, so that each kind
takes from it what it needs.
-/

namespace TankGauge

/-- Something done to a site. -/
inductive Action
  | tell (e : Event)
  | note (n : Note)
  | arm (role : TimerRole) (delay : UInt32)
  | disarm (role : TimerRole)
  | connect (session : SessionParams)
  | subscribe (topic : Topic) (qos : QoS)
  | publish (topic : Topic) (payload : String) (qos : QoS) (retain : Bool)

namespace Action

/-- Any action whatever. -/
def any (_ : Action) : Bool := true

/-- Whether an action leaves the connection and its timers alone and does not announce the node. -/
def isTank : Action → Bool
  | tell (.connectionChanged ..) | note (.connectRefused _) => false
  | tell _ | note _ => true
  | arm role _ | disarm role => role.isWalk
  | connect _ | subscribe .. => false
  | publish _ payload .. => payload != Publication.onlineWord

/-- Whether an action asks for no session. -/
def keepsSession : Action → Bool
  | connect _ => false
  | tell _ | note _ | arm .. | disarm _ | subscribe .. | publish .. => true

/-- Whether an action subscribes to nothing and tells of no session that was accepted. -/
def keepsSubscriptions : Action → Bool
  | subscribe .. | tell (.connectionChanged _ .connected) => false
  | tell _ | note _ | arm .. | disarm _ | connect _ | publish .. => true

/-- Whether an action leaves a word in the journal and does nothing else, and the word is not about
a publication. -/
def isRemark : Action → Bool
  | tell (.published _) | tell (.publishFailed ..) => false
  | tell _ | note _ => true
  | arm .. | disarm _ | connect _ | subscribe .. | publish .. => false

/-- Whether an action tells of no effect that was dropped. -/
def keepsEffects : Action → Bool
  | note (.effectDropped _) => false
  | tell _ | note _ | arm .. | disarm _ | connect _ | subscribe .. | publish .. => true

theorem keepsSession_of_isTank {a : Action} (h : a.isTank) : a.keepsSession := by
  cases a with
  | connect => cases h
  | tell | note | arm | disarm | subscribe | publish => rfl

theorem keepsSubscriptions_of_isTank {a : Action} (h : a.isTank) : a.keepsSubscriptions := by
  cases a with
  | tell e =>
    cases e with
    | connectionChanged => cases h
    | _ => rfl
  | subscribe => cases h
  | note | arm | disarm | connect | publish => rfl

theorem isTank_of_isOfMode {n : Note} (h : n.isOfMode) : (note n).isTank := by
  cases n with
  | connectRefused => cases h
  | _ => rfl

theorem keepsEffects_of_ne {n : Note} (h : ∀ e, n ≠ .effectDropped e) : (note n).keepsEffects := by
  cases n with
  | effectDropped e => exact absurd rfl (h e)
  | _ => rfl

end Action

namespace Site

variable {τ : Type} [Transport τ]

/-- Does one thing to a site. -/
def perform (s : Site τ) : Action → Site τ
  | .tell e => s.emit e
  | .note n => s.note n
  | .arm role delay => s.schedule role delay
  | .disarm role => s.cancel role
  | .connect session => (s.connect session).2
  | .subscribe topic qos => (s.subscribe topic qos).2
  | .publish topic payload qos retain => (s.publish topic payload qos retain).2

@[simp] theorem now_perform (s : Site τ) (a : Action) : (s.perform a).now = s.now := by
  cases a with
  | arm role delay => exact now_schedule s role delay
  | tell | note | disarm | connect | subscribe | publish => rfl

/-- A site comes out of `s` by actions that satisfy `P`. -/
inductive Acted (P : Action → Bool) (s : Site τ) : Site τ → Prop
  | refl : Acted P s s
  | tail {s' : Site τ} (before : Acted P s s') {a : Action} (h : P a) : Acted P s (s'.perform a)

namespace Acted

variable {P : Action → Bool} {s s' : Site τ}

theorem trans {s₂ : Site τ} (h : s.Acted P s') (h' : s'.Acted P s₂) : s.Acted P s₂ := by
  induction h' with
  | refl => exact h
  | tail _ ha ih => exact ih.tail ha

theorem mono {Q : Action → Bool} (h : s.Acted P s') (weaker : ∀ a, P a → Q a) :
    s.Acted Q s' := by
  induction h with
  | refl => exact .refl
  | tail _ ha ih => exact ih.tail (weaker _ ha)

theorem any (h : s.Acted P s') : s.Acted Action.any s' := h.mono (fun _ _ => rfl)

/-- What each action preserves is preserved. -/
theorem invariant {I : Site τ → Prop} (h : s.Acted P s')
    (preserved : ∀ s a, P a → I s → I (s.perform a)) (initial : I s) : I s' := by
  induction h with
  | refl => exact initial
  | tail _ ha ih => exact preserved _ _ ha ih

/-- What each action leaves alone is left alone. -/
theorem frame {γ : Type} (h : s.Acted P s') (f : Site τ → γ)
    (same : ∀ s a, P a → f (s.perform a) = f s) : f s' = f s := by
  induction h with
  | refl => rfl
  | tail _ ha ih => exact (same _ _ ha).trans ih

theorem now_eq (h : s.Acted P s') : s'.now = s.now :=
  h.frame Site.now (fun s a _ => now_perform s a)

/-! ### One action more -/

section

variable (h : s.Acted P s')

include h

theorem emit {e : Event} (ha : P (.tell e)) : s.Acted P (s'.emit e) := h.tail ha

theorem note {n : Note} (ha : P (.note n)) : s.Acted P (s'.note n) := h.tail ha

theorem schedule {role : TimerRole} {delay : UInt32} (ha : P (.arm role delay)) :
    s.Acted P (s'.schedule role delay) := h.tail ha

theorem cancel {role : TimerRole} (ha : P (.disarm role)) : s.Acted P (s'.cancel role) := h.tail ha

theorem connect {session : SessionParams} (ha : P (.connect session)) :
    s.Acted P (s'.connect session).2 := h.tail ha

theorem subscribe {topic : Topic} {qos : QoS} (ha : P (.subscribe topic qos)) :
    s.Acted P (s'.subscribe topic qos).2 := h.tail ha

theorem publish {topic : Topic} {payload : String} {qos : QoS} {retain : Bool}
    (ha : P (.publish topic payload qos retain)) :
    s.Acted P (s'.publish topic payload qos retain).2 := h.tail ha

theorem noteAll {notes : List Note} (hall : ∀ n ∈ notes, P (.note n)) :
    s.Acted P (s'.noteAll notes) := by
  induction notes generalizing s' with
  | nil => exact h
  | cons n rest ih =>
    refine ih (h.note (hall n List.mem_cons_self)) ?_
    exact fun m hmem => hall m (List.mem_cons_of_mem n hmem)

/-- Publications are calls, and events that tell how these were answered. -/
theorem send (topics : Topics) {ps : List Publication}
    (hcall : ∀ p ∈ ps, P (.publish (p.channel.topic topics) p.payload.text .atLeastOnce true))
    (htold : ∀ p ∈ ps, ∀ answer, P (.tell (p.outcome answer))) :
    s.Acted P (Node.send topics ps s') := by
  induction ps generalizing s' with
  | nil => exact h
  | cons p rest ih =>
    rw [Node.send_cons, Node.sendOne_eq]
    refine ih ((h.publish (hcall p List.mem_cons_self)).emit (htold p List.mem_cons_self _)) ?_ ?_
    · exact fun q hmem => hcall q (List.mem_cons_of_mem p hmem)
    · exact fun q hmem => htold q (List.mem_cons_of_mem p hmem)

end

/-- Publications that do not announce the node leave the connection alone. -/
theorem send_of_allowed (allowed : ∀ a, a.isTank → a.keepsEffects → P a) (h : s.Acted P s')
    (topics : Topics) {ps : List Publication}
    (hps : ∀ p ∈ ps, p.payload.text ≠ Publication.onlineWord) :
    s.Acted P (Node.send topics ps s') := by
  refine h.send topics (fun p hmem => allowed _ (bne_iff_ne.mpr (hps p hmem)) rfl)
    (fun p _ answer => ?_)
  cases answer <;> exact allowed _ rfl rfl

theorem send_of_ne_onlineWord (h : s.Acted Action.isTank s') (topics : Topics)
    {ps : List Publication} (hps : ∀ p ∈ ps, p.payload.text ≠ Publication.onlineWord) :
    s.Acted Action.isTank (Node.send topics ps s') :=
  h.send_of_allowed (fun _ htank _ => htank) topics hps

end Acted

end Site

/-! ## What the tank does -/

/-- An observation never announces the node. -/
theorem Policy.ne_onlineWord_of_mem_news {p : Policy} {level : UInt8} {q : Publication}
    (h : q ∈ p.news level) : q.payload.text ≠ Publication.onlineWord := by
  have hlevel : (Publication.ofLevel level).payload.text ≠ Publication.onlineWord := by
    rw [Publication.text_ofLevel]
    exact Publication.decimal_ne_onlineWord level
  have htrend (t : Trend) : (Publication.ofTrend t).payload.text ≠ Publication.onlineWord := by
    cases t <;> decide
  unfold news at h
  rcases List.mem_append.mp h with h | h
  · split at h
    · cases h
    · rw [List.mem_singleton.mp h]
      exact hlevel
  · split at h
    · cases h
    · rw [List.mem_singleton.mp h]
      exact htrend _

/-- Whether an effect touches no timer but those of the walk. -/
def Effect.isTank : Effect → Bool
  | .cancel role | .schedule role _ => role.isWalk
  | .startDecrease | .publishStable => true

namespace Mode

theorem isTank_of_mem_entryEffects (pause : UInt32) (mode : Mode) :
    ∀ e ∈ mode.entryEffects pause, e.isTank := by
  have hall : (mode.entryEffects pause).all Effect.isTank := by cases mode <;> rfl
  exact List.all_eq_true.mp hall

/-- No command leads to anything about the connection. -/
theorem isTank_of_mem_effects {mode : Mode} {pause : UInt32} {fillPending : Bool} {c : Command} :
    ∀ e ∈ mode.effects pause fillPending c, e.isTank := by
  rcases effects_cases mode pause fillPending c with ⟨-, h | h⟩ | ⟨next, -, h, -⟩
  · rw [h]
    exact fun e hmem => absurd hmem List.not_mem_nil
  · rw [h]
    exact List.forall_mem_singleton.mpr rfl
  · rw [h]
    exact isTank_of_mem_entryEffects pause next

end Mode

/-- Whether a callback is about the tank and not about the connection. -/
def Callback.isTank : Callback → Bool
  | .topic _ | .payload .. | .command _ => true
  | .timer role => role.isWalk
  | .start | .connection _ => false

namespace Node

open Site

variable {τ : Type} [Transport τ] (n : Node) (s : Site τ)

theorem acted_heard_of_allowed {P : Action → Bool} {c : Command}
    (hreceived : P (.tell (.commandReceived c)))
    (hchanged : ∀ before after, P (.tell (.modeChanged before after)))
    (hnotes : ∀ note ∈ (n.machine.handle c).2.2, P (.note note)) : s.Acted P (n.heard s c) := by
  have hheard : s.Acted P (s.emit (.commandReceived c)) := Acted.refl.emit hreceived
  have hnoted := hheard.noteAll hnotes
  unfold heard
  cases (n.machine.handle c).1 with
  | none => exact hnoted
  | some after => exact hnoted.emit (hchanged _ after)

section

variable {P : Action → Bool} (allowed : ∀ a, a.isTank → a.keepsEffects → P a)

include allowed

theorem acted_step_of_allowed (d : Direction) : s.Acted P (n.step d s).2 := by
  have hsend (level : UInt8) : s.Acted P (send n.topics (n.policy.news level) s) :=
    Acted.refl.send_of_allowed allowed n.topics
      (fun _ hmem => Policy.ne_onlineWord_of_mem_news hmem)
  by_cases h : n.level = d.boundary
  · rw [snd_step_of_boundary n s d h]
    exact (hsend _).note (allowed _ rfl rfl)
  · rw [snd_step_of_ne_boundary n s d h]
    refine (hsend _).schedule (allowed _ ?_ rfl)
    cases d <;> rfl

theorem acted_applyEffects {effects : List Effect} (h : ∀ e ∈ effects, e.isTank) :
    s.Acted P (n.applyEffects s effects).2 := by
  refine applyEffects_invariant n s (P := fun _ s' => s.Acted P s') ?_ .refl
  intro e hmem n' s' hacted
  have htank := h e hmem
  cases e with
  | cancel role => exact hacted.cancel (allowed _ htank rfl)
  | schedule role delay => exact hacted.schedule (allowed _ htank rfl)
  | startDecrease => exact hacted.trans (acted_step_of_allowed n' s' allowed .decrease)
  | publishStable =>
    refine hacted.send_of_allowed allowed n'.topics (fun p hp => ?_)
    rw [List.mem_singleton.mp hp]
    decide

theorem acted_handleCommand (settled : n.Settled) (c : Command) :
    s.Acted P (n.handleCommand c s).2 := by
  rw [handleCommand_eq n s settled]
  have hnotes : ∀ note ∈ (n.machine.handle c).2.2, P (.note note) := by
    intro note hmem
    refine allowed _ (Action.isTank_of_isOfMode
      (ModeMachine.isOfMode_of_mem_handle n.machine c note hmem)) (Action.keepsEffects_of_ne ?_)
    rintro e rfl
    exact ModeMachine.effectDropped_not_mem_handle settled c hmem
  have hheard : s.Acted P (n.heard s c) :=
    acted_heard_of_allowed n s (allowed _ rfl rfl) (fun _ _ => allowed _ rfl rfl) hnotes
  exact hheard.trans (acted_applyEffects _ _ allowed Mode.isTank_of_mem_effects)

end

theorem acted_step (d : Direction) : s.Acted Action.isTank (n.step d s).2 :=
  acted_step_of_allowed n s (fun _ htank _ => htank) d

theorem acted_heard (c : Command) : s.Acted Action.isTank (n.heard s c) :=
  acted_heard_of_allowed n s rfl (fun _ _ => rfl) (fun note hmem =>
    Action.isTank_of_isOfMode (ModeMachine.isOfMode_of_mem_handle n.machine c note hmem))

theorem connection_applyEffects (effects : List Effect) :
    (n.applyEffects s effects).1.connection = n.connection := by
  obtain ⟨gauge, policy, h⟩ := fst_applyEffects n s effects
  rw [h]

theorem connection_handleCommand (settled : n.Settled) (c : Command) :
    (n.handleCommand c s).1.connection = n.connection := by
  rw [handleCommand_eq n s settled, connection_applyEffects]

/-- A callback that is about the tank leaves the connection as it is, and what it does to the site
neither shows that there is one nor drops an effect. -/
theorem respond_of_tank {P : Action → Bool} (allowed : ∀ a, a.isTank → a.keepsEffects → P a)
    (settled : n.Settled) {c : Callback} (tank : c.isTank) :
    (respond c n s).1.connection = n.connection ∧ s.Acted P (respond c n s).2 := by
  cases c with
  | start | connection => cases tank
  | topic name => exact ⟨rfl, Acted.refl.note (allowed _ rfl rfl)⟩
  | command c =>
    exact ⟨connection_handleCommand n s settled c, acted_handleCommand n s allowed settled c⟩
  | payload data last =>
    cases last with
    | false => exact ⟨rfl, Acted.refl.note (allowed _ rfl rfl)⟩
    | true =>
      let payload : Payload := BoundedList.truncate data
      have hseen : s.Acted P (s.note (.payloadSeen payload.items n.pending)) :=
        Acted.refl.note (allowed _ rfl rfl)
      show (n.onPayload data true s).1.connection = _ ∧ s.Acted _ (n.onPayload data true s).2
      cases hdecode : Command.decode n.pending payload.items with
      | some command =>
        let n' := { n with pending := .none }
        rw [onPayload_of_command n s hdecode]
        exact ⟨connection_handleCommand n' _ settled command,
          hseen.trans (acted_handleCommand n' _ allowed settled command)⟩
      | none =>
        rw [onPayload_of_no_command n s hdecode]
        exact ⟨rfl, hseen.emit (allowed _ rfl rfl)⟩
  | timer role =>
    have hwalk : role.isWalk := tank
    show (n.onTimer role s).1.connection = _ ∧ s.Acted _ (n.onTimer role s).2
    cases hdirection : role.direction? n.mode with
    | some d =>
      rw [onTimer_of_direction n s d hdirection]
      refine ⟨?_, acted_step_of_allowed n s allowed d⟩
      rw [fst_step]
    | none =>
      rw [onTimer_of_stale n s hwalk hdirection]
      exact ⟨rfl, Acted.refl.note (allowed _ rfl rfl)⟩

theorem acted_respond_of_tank (settled : n.Settled) {c : Callback} (tank : c.isTank) :
    (respond c n s).1.connection = n.connection ∧ s.Acted Action.isTank (respond c n s).2 :=
  respond_of_tank n s (fun _ htank _ => htank) settled tank

end Node

/-! ## What the connection does -/

namespace Connection

open Site

variable {τ : Type} [Transport τ] (c : Connection) (s : Site τ)

/-- An attempt that fails asks for no session at once, and subscribes to nothing. -/
theorem acted_failAttempt {P : Action → Bool}
    (h : ∀ a, a.keepsSession → a.keepsSubscriptions → a.keepsEffects → P a) :
    s.Acted P (c.failAttempt s).2 :=
  ((Acted.refl.emit (h _ rfl rfl rfl)).schedule (h _ rfl rfl rfl)).emit (h _ rfl rfl rfl)

theorem acted_connect_of_allowed {P : Action → Bool}
    (h : ∀ a, a.keepsSubscriptions → a.keepsEffects → P a) : s.Acted P (c.connect s).2 := by
  by_cases hstatus : c.status = .disconnected
  · rw [connect_of_disconnected hstatus]
    have hasking : s.Acted P (c.asking s) := (Acted.refl.emit (h _ rfl rfl)).note (h _ rfl rfl)
    have hasked : s.Acted P ((c.asking s).connect c.session).2 := hasking.connect (h _ rfl rfl)
    rcases hcall : (c.asking s).connect c.session with ⟨_ | reason, s'⟩ <;> rw [hcall] at hasked
    · exact hasked
    · exact (hasked.note (h _ rfl rfl)).trans (acted_failAttempt _ _ (fun a _ => h a))
  · rw [connect_of_ne_disconnected hstatus]
    exact Acted.refl.note (h _ rfl rfl)

theorem acted_connect : s.Acted Action.keepsSubscriptions (c.connect s).2 :=
  acted_connect_of_allowed c s (fun _ hkeeps _ => hkeeps)

/-- News that is not the acceptance of an attempt asks for no session at once, and leads to no
subscription. -/
theorem acted_onEvent_of_not_accepted {P : Action → Bool}
    (h : ∀ a, a.keepsSession → a.keepsSubscriptions → a.keepsEffects → P a) (topics : Topics)
    (event : ConnectionEvent) (unaccepted : ¬ (c.status = .connecting ∧ event = .accepted)) :
    s.Acted P (c.onEvent topics event s).2 := by
  have hfailed : s.Acted P (c.failAttempt (s.note .sessionRejected)).2 :=
    (Acted.refl.note (h _ rfl rfl rfl)).trans (acted_failAttempt c _ h)
  let ended := c.moveTo .disconnected ((s.note .sessionDropped).cancel .announce)
  have hended : s.Acted P ended.2 :=
    ((Acted.refl.note (h _ rfl rfl rfl)).cancel (h _ rfl rfl rfl)).emit (h _ rfl rfl rfl)
  have hlost : s.Acted P (retryAfter c.shortDelay ended.2) :=
    (hended.schedule (h _ rfl rfl rfl)).emit (h _ rfl rfl rfl)
  unfold onEvent
  split
  · exact absurd ⟨‹_›, rfl⟩ unaccepted
  · exact hfailed
  · exact hfailed
  · exact hlost
  · exact hlost
  · exact Acted.refl.emit (h _ rfl rfl rfl)

theorem acted_subscribeTo {P : Action → Bool} (h : ∀ a, a.keepsSession → a.keepsEffects → P a)
    (topic : Topic) : s.Acted P (subscribeTo topic s) :=
  (Acted.refl.subscribe (h _ rfl rfl)).emit (h _ rfl rfl)

theorem acted_onEvent_of_allowed {P : Action → Bool}
    (h : ∀ a, a.keepsSession → a.keepsEffects → P a) (topics : Topics) (event : ConnectionEvent) :
    s.Acted P (c.onEvent topics event s).2 := by
  by_cases haccepted : c.status = .connecting ∧ event = .accepted
  · obtain ⟨hstatus, rfl⟩ := haccepted
    have hmoved : s.Acted P (c.moveTo .connected s).2 := Acted.refl.emit (h _ rfl rfl)
    simp only [onEvent, hstatus]
    exact ((hmoved.trans (acted_subscribeTo _ h _)).trans (acted_subscribeTo _ h _)).schedule
      (h _ rfl rfl)
  · exact acted_onEvent_of_not_accepted c s (fun a hsession _ => h a hsession) topics event
      haccepted

theorem acted_onEvent (topics : Topics) (event : ConnectionEvent) :
    s.Acted Action.keepsSession (c.onEvent topics event s).2 :=
  acted_onEvent_of_allowed c s (fun _ hkeeps _ => hkeeps) topics event

end Connection

namespace Node

open Site

variable {τ : Type} [Transport τ] (n : Node) (s : Site τ)

/-- An announcement asks for no session and subscribes to nothing. -/
theorem acted_announce {P : Action → Bool}
    (h : ∀ a, a.keepsSession → a.keepsSubscriptions → a.keepsEffects → P a) :
    s.Acted P (n.announce s).2 := by
  rw [snd_announce]
  refine Acted.refl.send n.topics (fun _ _ => h _ rfl rfl rfl) (fun p _ answer => ?_)
  cases answer <;> exact h _ rfl rfl rfl

/-- Before it asks for a session, a node that starts does what its mode asks for on entry. -/
theorem acted_started_of_allowed {P : Action → Bool}
    (allowed : ∀ a, a.isTank → a.keepsEffects → P a) (settled : n.Settled) :
    ∃ (n' : Node) (s' : Site τ), n.start s = n'.connect s' ∧ n'.topics = n.topics ∧
      n'.connection = n.connection ∧ s.Acted P s' := by
  have hnotes : ∀ note ∈ n.machine.start.2, P (.note note) := by
    intro note hmem
    refine allowed _ (Action.isTank_of_isOfMode
      (ModeMachine.isOfMode_of_mem_start n.machine note hmem)) (Action.keepsEffects_of_ne ?_)
    rintro e rfl
    exact ModeMachine.effectDropped_not_mem_start settled hmem
  have hnoted : s.Acted P (s.noteAll n.machine.start.2) := Acted.refl.noteAll hnotes
  have hentered := hnoted.trans (acted_applyEffects n _ allowed
    (Mode.isTank_of_mem_entryEffects n.machine.pause n.mode))
  refine ⟨_, _, start_eq n s settled, topics_applyEffects n _ _, connection_applyEffects n _ _, ?_⟩
  exact (hentered.emit (allowed _ rfl rfl)).note (allowed _ rfl rfl)

theorem acted_started (settled : n.Settled) :
    ∃ (n' : Node) (s' : Site τ), n.start s = n'.connect s' ∧ n'.topics = n.topics ∧
      n'.connection = n.connection ∧ s.Acted Action.isTank s' :=
  acted_started_of_allowed n s (fun _ htank _ => htank) settled

/-- Whatever a callback does to its site is done by actions, and none of them tells of an effect
that was dropped. -/
theorem acted_respond_keepsEffects (settled : n.Settled) (c : Callback) :
    s.Acted Action.keepsEffects (respond c n s).2 := by
  by_cases htank : c.isTank
  · exact (respond_of_tank n s (fun _ _ hkeeps => hkeeps) settled htank).2
  · cases c with
    | topic | payload | command => exact absurd rfl htank
    | start =>
      obtain ⟨n', s', hstart, -, -, hacted⟩ :=
        acted_started_of_allowed n s (fun _ _ hkeeps => hkeeps) settled
      show s.Acted Action.keepsEffects (n.start s).2
      rw [hstart]
      exact hacted.trans
        (Connection.acted_connect_of_allowed n'.connection s' (fun _ _ hkeeps => hkeeps))
    | connection event =>
      exact Connection.acted_onEvent_of_allowed n.connection s (fun _ _ hkeeps => hkeeps)
        n.topics event
    | timer role =>
      cases role with
      | decrease | increase | resume => exact absurd rfl htank
      | reconnect =>
        exact Connection.acted_connect_of_allowed n.connection s (fun _ _ hkeeps => hkeeps)
      | announce => exact acted_announce n s (fun _ _ _ hkeeps => hkeeps)

theorem acted_respond (settled : n.Settled) (c : Callback) :
    s.Acted Action.any (respond c n s).2 :=
  (acted_respond_keepsEffects n s settled c).any

end Node

end TankGauge
