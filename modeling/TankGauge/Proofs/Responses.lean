import TankGauge.Proofs.Callbacks
import TankGauge.Proofs.Run

/-!
# The five ways to respond

A callback comes to one of five things (`Node.Responds`): the tank is left alone, the gauge takes a
step, the node announces itself, a command is carried out, or the node starts. A law of all runs
is proved by looking at these five, and needs to know no callback.

That the five are all there is (`Node.responds`) depends on the list of effects being empty between
two callbacks, which every callback sees to (`Node.settled_respond`).
-/

namespace TankGauge

/-- The command that a callback brings to a node that awaits a payload on `pending`. -/
def Callback.command? (pending : PendingTopic) : Callback → Option Command
  | .command c => some c
  | .payload data true => Command.decode pending (BoundedList.truncate data : Payload).items
  | _ => none

namespace Node

open Site

variable {τ : Type} [Transport τ]

/-! ## Effects, one by one -/

section

variable (n : Node) (s : Site τ) (rest : List Effect)

@[simp] theorem applyEffects_nil : n.applyEffects s [] = (n, s) := rfl

theorem applyEffects_cons (e : Effect) :
    n.applyEffects s (e :: rest) =
      (n.applyEffect s e).1.applyEffects (n.applyEffect s e).2 rest := rfl

@[simp] theorem applyEffects_cancel (role : TimerRole) :
    n.applyEffects s (.cancel role :: rest) = n.applyEffects (s.cancel role) rest := rfl

@[simp] theorem applyEffects_schedule (role : TimerRole) (delay : UInt32) :
    n.applyEffects s (.schedule role delay :: rest) =
      n.applyEffects (s.schedule role delay) rest := rfl

@[simp] theorem applyEffects_startDecrease :
    n.applyEffects s (.startDecrease :: rest) =
      (n.step .decrease s).1.applyEffects (n.step .decrease s).2 rest := rfl

@[simp] theorem applyEffects_publishStable :
    n.applyEffects s (.publishStable :: rest) =
      { n with policy := n.policy.forceStable.2 }.applyEffects
        (send n.topics [n.policy.forceStable.1] s) rest := rfl

/-- What each effect preserves, a list of effects preserves. -/
theorem applyEffects_invariant {P : Node → Site τ → Prop} {effects : List Effect}
    (preserved : ∀ e ∈ effects, ∀ n s, P n s → P (n.applyEffect s e).1 (n.applyEffect s e).2)
    (initial : P n s) : P (n.applyEffects s effects).1 (n.applyEffects s effects).2 := by
  induction effects generalizing n s with
  | nil => exact initial
  | cons e rest ih =>
    rw [applyEffects_cons]
    refine ih _ _ (fun e' hmem => preserved e' (List.mem_cons_of_mem e hmem)) ?_
    exact preserved e List.mem_cons_self n s initial

/-- The timers after a step: the timer of the walk is armed anew unless the walk is over. -/
theorem timers_step (d : Direction) :
    (n.step d s).2.timers =
      if n.level = d.boundary then s.timers
      else s.timers.schedule d.timer n.stepInterval s.now := by
  by_cases h : n.level = d.boundary
  · rw [if_pos h, snd_step_of_boundary n s d h, note_eq_record, timers_record, timers_send]
  · rw [if_neg h, snd_step_of_ne_boundary n s d h, timers_schedule, timers_send, now_send]

/-- A view in which the work of effects does not show is left alone by a step. -/
theorem view_step {β : Type} (f : Entry → Option β) (hidden : ∀ e, e.isWork → f e = none)
    (d : Direction) : (n.step d s).2.view f = s.view f := by
  have hsend (ps : List Publication) : (send n.topics ps s).view f = s.view f :=
    view_send n.topics f (fun e he => hidden e (Entry.isWork_of_isPublishing he)) ps s
  by_cases hl : n.level = d.boundary
  · rw [snd_step_of_boundary n s d hl, note_eq_record, view_record, hidden _ rfl, hsend]
    rfl
  · rw [snd_step_of_ne_boundary n s d hl, view_schedule _ f (fun _ => hidden _ rfl),
      hidden _ rfl, hsend]
    rfl

/-- A view in which the work of effects does not show is left alone by effects. -/
theorem view_applyEffects {β : Type} (f : Entry → Option β) (hidden : ∀ e, e.isWork → f e = none)
    (effects : List Effect) : (n.applyEffects s effects).2.view f = s.view f := by
  refine applyEffects_invariant n s (P := fun _ s' => s'.view f = s.view f) ?_ rfl
  intro e _ n' s' h
  rw [← h]
  cases e with
  | cancel role =>
    show (s'.cancel role).view f = s'.view f
    rw [view_cancel, hidden _ rfl]
    rfl
  | schedule role delay =>
    show (s'.schedule role delay).view f = s'.view f
    rw [view_schedule s' f (fun _ => hidden _ rfl), hidden _ rfl]
    rfl
  | startDecrease => exact view_step n' s' f hidden .decrease
  | publishStable =>
    exact view_send n'.topics f (fun e he => hidden e (Entry.isWork_of_isPublishing he))
      [n'.policy.forceStable.1] s'

end

/-! ## What a callback comes to -/

/-- The five things that a callback may come to. -/
inductive Responds (n : Node) (s : Site τ) : Callback → Node × Site τ → Prop
  /-- The tank is left alone, since the callback is about the session or there is nothing to do. -/
  | aside {c : Callback} {s' : Site τ} (connection : Connection) (pending : PendingTopic)
      (silent : c.command? n.pending = none)
      (useless : ∀ role, c = .timer role → role.isWalk → role.direction? n.mode = none)
      (untouched : s.Untouched s') : Responds n s c ({ n with connection, pending }, s')
  /-- The gauge takes a step. -/
  | walks {role : TimerRole} {d : Direction} (useful : role.direction? n.mode = some d) :
      Responds n s (.timer role) (n.step d s)
  /-- The node announces itself. -/
  | announces : Responds n s (.timer .announce) (n.announce s)
  /-- A command is carried out. -/
  | obeys {c : Callback} {s' : Site τ} (command : Command) (pending : PendingTopic)
      (brought : c.command? n.pending = some command) (untouched : s.Untouched s')
      (timers : s'.timers = s.timers) :
      Responds n s c ({ n with pending }.handleCommand command s')
  /-- The node enters the mode that it is in, and asks for a session. -/
  | starts {s₁ s₂ : Site τ} (connection : Connection) (before : s.Untouched s₁)
      (timers : s₁.timers = s.timers)
      (after : (n.applyEffects s₁ (n.mode.entryEffects n.machine.pause)).2.Untouched s₂) :
      Responds n s .start
        ({ (n.applyEffects s₁ (n.mode.entryEffects n.machine.pause)).1 with connection }, s₂)

section

variable (n : Node) (s : Site τ)

/-- A node with no effects waiting starts with what its mode asks for on entry. -/
theorem start_eq (settled : n.Settled) :
    n.start s =
      let (n', s') := n.applyEffects (s.noteAll n.machine.start.2)
        (n.mode.entryEffects n.machine.pause)
      n'.connect
        ((s'.emit (.started n'.machine.mode)).note
          (.nodeStarted n'.machine.mode n'.gauge.level)) := by
  have hstart : n.machine.start.1.takeEffects =
      (n.mode.entryEffects n.machine.pause, n.machine) :=
    ModeMachine.start_of_empty n.machine settled
  have hsettle : n.start s =
      let (n', s') := { n with machine := n.machine.start.1.takeEffects.2 }.applyEffects
        (s.noteAll n.machine.start.2) n.machine.start.1.takeEffects.1
      n'.connect
        ((s'.emit (.started n'.machine.mode)).note (.nodeStarted n'.machine.mode n'.gauge.level)) :=
    rfl
  rw [hsettle, hstart]

/-- Between two callbacks no effects wait, so each callback comes to one of the five things. -/
theorem responds (settled : n.Settled) (c : Callback) :
    n.Responds s c (respond c n s) := by
  cases c with
  | start =>
    show n.Responds s .start (n.start s)
    rw [start_eq n s settled]
    exact .starts _ (.noteAll s _) (timers_noteAll s _)
      (((Untouched.record _ rfl).trans (.record _ rfl)).trans (Connection.untouched_connect _ _))
  | connection event =>
    exact .aside _ n.pending rfl (fun _ h => nomatch h)
      (Connection.untouched_onEvent n.connection s n.topics event)
  | topic name =>
    exact .aside n.connection _ rfl (fun _ h => nomatch h) (.record s rfl)
  | payload data last =>
    cases last with
    | false => exact .aside n.connection n.pending rfl (fun _ h => nomatch h) (.record s rfl)
    | true =>
      show n.Responds s (.payload data true) (n.onPayload data true s)
      cases hdecode : Command.decode n.pending (BoundedList.truncate data : Payload).items with
      | some command =>
        rw [onPayload_of_command n s hdecode]
        exact .obeys command .none hdecode (.record s rfl) rfl
      | none =>
        rw [onPayload_of_no_command n s hdecode]
        exact .aside n.connection .none hdecode (fun _ h => nomatch h)
          ((Untouched.record s rfl).trans (.record _ rfl))
  | command c => exact .obeys c n.pending rfl (.refl s) rfl
  | timer role =>
    show n.Responds s (.timer role) (n.onTimer role s)
    cases hdirection : role.direction? n.mode with
    | some d =>
      rw [onTimer_of_direction n s d hdirection]
      exact .walks hdirection
    | none =>
      -- Of no use is a walk timer that the mode does not await, or any timer of the session.
      by_cases hwalk : role.isWalk
      · rw [onTimer_of_stale n s hwalk hdirection]
        exact .aside n.connection n.pending rfl
          (fun role' h _ => by rw [← Callback.timer.inj h]; exact hdirection) (.record s rfl)
      · cases role with
        | decrease | increase | resume => exact absurd rfl hwalk
        | reconnect =>
          exact .aside _ n.pending rfl (fun role' h h' => by
            rw [← Callback.timer.inj h] at h'
            exact absurd h' (by decide)) (Connection.untouched_connect n.connection s)
        | announce => exact .announces

end

/-! ## What every response has in common -/

theorem machine_applyEffects (n : Node) (s : Site τ) (effects : List Effect) :
    (n.applyEffects s effects).1.machine = n.machine := by
  obtain ⟨gauge, policy, h⟩ := fst_applyEffects n s effects
  rw [h]

theorem topics_applyEffects (n : Node) (s : Site τ) (effects : List Effect) :
    (n.applyEffects s effects).1.topics = n.topics := by
  obtain ⟨gauge, policy, h⟩ := fst_applyEffects n s effects
  rw [h]

theorem pending_applyEffects (n : Node) (s : Site τ) (effects : List Effect) :
    (n.applyEffects s effects).1.pending = n.pending := by
  obtain ⟨gauge, policy, h⟩ := fst_applyEffects n s effects
  rw [h]

theorem commands_applyEffects (n : Node) (s : Site τ) (effects : List Effect) :
    (n.applyEffects s effects).2.commands = s.commands :=
  view_applyEffects n s _ (fun _ he => Entry.command?_of_isWork he) effects

namespace Responds

variable {n : Node} {s : Site τ} {c : Callback} {result : Node × Site τ}

/-- The machine goes on with the command that a callback brings, and stays as it is otherwise. -/
theorem machine_eq (h : n.Responds s c result) (settled : n.Settled) :
    result.1.machine = ((c.command? n.pending).map n.machine.after).getD n.machine := by
  cases h with
  | aside connection pending silent => rw [silent]; rfl
  | @walks role d =>
    rw [fst_step]
    rfl
  | announces => rfl
  | @obeys _ s' command pending brought =>
    rw [handleCommand_eq { n with pending } s' settled, machine_applyEffects, brought]
    rfl
  | starts => exact machine_applyEffects n _ _

/-- The command that a callback brings is taken down, and no other. -/
theorem commands_eq (h : n.Responds s c result) (settled : n.Settled) :
    result.2.commands = (c.command? n.pending).toList ++ s.commands := by
  cases h with
  | aside connection pending silent _ untouched => rw [silent, untouched.commands]; rfl
  | @walks role d => exact view_step n s _ (fun _ he => Entry.command?_of_isWork he) d
  | announces =>
    rw [snd_announce]
    exact view_send n.topics _
      (fun _ he => Entry.command?_of_isWork (Entry.isWork_of_isPublishing he)) _ s
  | @obeys _ s' command pending brought untouched =>
    rw [handleCommand_eq { n with pending } s' settled, commands_applyEffects, commands_heard,
      untouched.commands, brought]
    rfl
  | starts connection before _ after =>
    rw [after.commands, commands_applyEffects, before.commands]
    rfl

end Responds

/-- A callback that brings a command has it carried out, after at most a note. -/
theorem exists_handleCommand (n : Node) (s : Site τ) (settled : n.Settled)
    {c : Callback} {command : Command} (brought : c.command? n.pending = some command) :
    ∃ pending s', s.Untouched s' ∧ s'.timers = s.timers ∧
      respond c n s = { n with pending }.handleCommand command s' := by
  have h := responds n s settled c
  generalize respond c n s = result at h ⊢
  cases h with
  | aside _ _ silent =>
    rw [brought] at silent
    cases silent
  | walks | announces | starts => cases brought
  | @obeys _ s' command' pending brought' untouched timers =>
    obtain rfl : command' = command := Option.some.inj (brought'.symm.trans brought)
    exact ⟨pending, s', untouched, timers, rfl⟩

theorem settled_ofConfig (c : Config) (session : SessionParams) : (ofConfig c session).Settled :=
  rfl

/-- A node that is started enters the idle mode, which asks for nothing, and asks for a session. -/
theorem launched_eq (c : Config) (session : SessionParams) (now : Nat) (t : τ) :
    launched c session now t =
      let n := ofConfig c session
      let s := ({ now, transport := t } : Site τ).noteAll n.machine.start.2
      n.connect ((s.emit (.started n.mode)).note (.nodeStarted n.mode n.level)) :=
  start_eq _ _ (settled_ofConfig c session)

theorem settled_respond (n : Node) (s : Site τ) (c : Callback) (settled : n.Settled) :
    (respond c n s).1.Settled := by
  have h := (responds n s settled c).machine_eq settled
  unfold Settled
  rw [h]
  cases c.command? n.pending with
  | none => exact settled
  | some command => rfl

theorem topics_respond (n : Node) (s : Site τ) (settled : n.Settled) (c : Callback) :
    (respond c n s).1.topics = n.topics := by
  have h := responds n s settled c
  generalize respond c n s = result at h ⊢
  cases h with
  | aside | announces => rfl
  | walks => rw [fst_step]
  | @obeys _ s' command pending =>
    rw [handleCommand_eq { n with pending } s' settled, topics_applyEffects]
  | starts => exact topics_applyEffects n _ _

/-! ## The two flags

Whether a fill request stands and whether an alarm is active are all that a command looks at, and
all that it changes, although the machine keeps four modes.
-/

/-- A fill request stands or does not stand as the last command about it says. -/
theorem fillRequested_after (n : Node) (c : Command) :
    { n with machine := n.machine.after c }.fillRequested =
      match c with
      | .fillRequest on => on
      | .alarm _ => n.fillRequested := by
  rcases hmachine : n.machine with ⟨mode, fillPending, pause, effects, transitions⟩
  simp only [fillRequested, hmachine]
  cases c with
  | fillRequest on => cases on <;> cases mode <;> rfl
  | alarm on => cases on <;> cases mode <;> cases fillPending <;> rfl

/-- An alarm is active or not as the last command about it says. -/
theorem alarmActive_after (n : Node) (c : Command) :
    { n with machine := n.machine.after c }.alarmActive =
      match c with
      | .fillRequest _ => n.alarmActive
      | .alarm on => on := by
  rcases hmachine : n.machine with ⟨mode, fillPending, pause, effects, transitions⟩
  simp only [alarmActive, hmachine]
  cases c with
  | fillRequest on => cases on <;> cases mode <;> rfl
  | alarm on => cases on <;> cases mode <;> cases fillPending <;> rfl

/-- What a command asks for, told by the flags. -/
theorem effects_of_flags (n : Node) (c : Command) :
    n.mode.effects n.machine.pause n.machine.fillPending c =
      match c with
      | .fillRequest true =>
        if n.alarmActive then [] else Mode.entryEffects n.machine.pause .emptying
      | .fillRequest false =>
        if n.alarmActive then [.publishStable] else Mode.entryEffects n.machine.pause .refilling
      | .alarm true => Mode.entryEffects n.machine.pause .alarmed
      | .alarm false =>
        if n.fillRequested then Mode.entryEffects n.machine.pause .emptying else [] := by
  rcases hmachine : n.machine with ⟨mode, fillPending, pause, effects, transitions⟩
  simp only [Node.mode, alarmActive, fillRequested, hmachine]
  cases c with
  | fillRequest on => cases on <;> cases mode <;> rfl
  | alarm on => cases on <;> cases mode <;> cases fillPending <;> rfl

end Node

end TankGauge
