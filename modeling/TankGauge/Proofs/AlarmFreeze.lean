import TankGauge.Proofs.Happenings
import TankGauge.Proofs.WalkTimers

/-!
# An alarm freezes the gauge

From the command that raises an alarm to the one that clears it nothing moves the gauge and nothing
speaks of a move (`FrozenSince`), in whatever order commands, payloads, news of the session and
timers arrive, and even if timers go off that nobody has armed. The end of the alarm goes on from
the level that was held.

Two facts of every run make this so (`Known`). The level that the policy has last spoken of is
always the level of the gauge, so that an announcement during an alarm finds no new level and, the
trend being told as stable already, no new trend. And whether a fill request stands is what the
last command about it says, be it one that came during the alarm.
-/

namespace TankGauge

/-- The fill command among commands. -/
def Command.fill? : Command → Option Bool
  | .fillRequest on => some on
  | .alarm _ => none

/-- Whether the last fill command, if there is one, switches on; the latest command comes first. -/
def lastFill (commands : List Command) : Bool := (commands.findSome? Command.fill?).getD false

/-- An attempt that speaks of no level, and of no trend but a stable one. -/
def Attempt.IsStill (a : Attempt) : Prop :=
  a.channel ≠ .level ∧ (a.channel = .fillState → a.payload = "STABLE")

/-- An effect that neither moves the gauge nor arms a timer. -/
def Effect.isStill : Effect → Bool
  | .cancel _ | .publishStable => true
  | .schedule .. | .startDecrease => false

namespace Node

open Site

variable {τ : Type} [Transport τ]

/-! ## What is known of a node at any time -/

/-- What holds between two callbacks of a node, whatever has happened to it: no effects wait, the
policy has last spoken of the level, and a fill request stands as the last command says. -/
structure Known (state : Node × Site τ) : Prop where
  settled : state.1.Settled
  abreast : state.1.Abreast
  requested : state.1.fillRequested = lastFill state.2.commands

namespace Known

variable {n : Node} {s : Site τ}

omit [Transport τ] in
theorem fresh (c : Config) (session : SessionParams) (now : Nat) (t : τ) :
    Known (fresh c session now t) := ⟨rfl, rfl, rfl⟩

theorem callback (h : Known (n, s)) (c : Callback) : Known (respond c n s) := by
  have hresponds := responds n s h.settled c
  have hmachine := hresponds.machine_eq h.settled
  refine ⟨settled_respond n s c h.settled, abreast_law.respond h.settled h.abreast c, ?_⟩
  have hrequested : (respond c n s).1.fillRequested =
      { n with machine := (respond c n s).1.machine }.fillRequested := rfl
  rw [hrequested, hmachine, hresponds.commands_eq h.settled]
  cases c.command? n.pending with
  | none => exact h.requested
  | some command =>
    have hafter := fillRequested_after n command
    cases command with
    | fillRequest on => exact hafter
    | alarm on => exact hafter.trans h.requested

theorem apply {state : Node × Site τ} (h : Known state) (happening : Happening τ) :
    Known (happening.apply Node.respond state) := by
  obtain ⟨n, s⟩ := state
  obtain ⟨s', hpassed, hcases⟩ := apply_cases happening n s
  have hknown : Known (n, s') :=
    ⟨h.settled, h.abreast, h.requested.trans (congrArg lastFill hpassed.commands.symm)⟩
  rcases hcases with ⟨happly, -⟩ | ⟨c, happly, -⟩
  · rw [happly]
    exact hknown
  · rw [happly]
    exact hknown.callback c

theorem run {state : Node × Site τ} (h : Known state) (hs : List (Happening τ)) :
    Known (run Node.respond state hs) :=
  run_invariant (fun h' _ _ hstate => hstate.apply h') h

end Known

/-! ## While the alarm holds -/

/-- Nothing has moved since `base`, and nothing has been said of a move. -/
structure FrozenSince (base state : Node × Site τ) : Prop where
  settled : state.1.Settled
  mode : state.1.mode = .alarmed
  level : state.1.level = base.1.level
  policy : state.1.policy = ⟨base.1.level, some .stable⟩
  still : state.2.timers.Still
  walkArmings : state.2.walkArmings = base.2.walkArmings
  attempts : ∃ news, state.2.attempts = news ++ base.2.attempts ∧ ∀ a ∈ news, a.IsStill

/-- The commands that an alarm does not end with lead to effects that do not move the gauge. -/
theorem isStill_of_mem_effects {n : Node} (hmode : n.mode = .alarmed) {c : Command}
    (hc : c ≠ .alarm false) :
    ∀ e ∈ n.mode.effects n.machine.pause n.machine.fillPending c, e.isStill := by
  rw [hmode]
  cases c with
  | fillRequest on =>
    cases on
    · exact List.forall_mem_singleton.mpr rfl
    · exact fun e hmem => absurd hmem List.not_mem_nil
  | alarm on =>
    cases on
    · exact absurd rfl hc
    · exact List.all_eq_true.mp rfl

theorem mode_after_alarmed {n : Node} (hmode : n.mode = .alarmed) {c : Command}
    (hc : c ≠ .alarm false) : (n.machine.after c).mode = .alarmed := by
  have hmachine : n.machine.mode = .alarmed := hmode
  unfold ModeMachine.after
  rw [hmachine]
  cases c with
  | fillRequest on => cases on <;> rfl
  | alarm on =>
    cases on
    · exact absurd rfl hc
    · rfl

namespace FrozenSince

variable {base : Node × Site τ} {n : Node} {s : Site τ}

omit [Transport τ] in
/-- What leaves the tank untouched leaves it frozen. -/
theorem untouched (h : FrozenSince base (n, s)) {s' : Site τ} (u : s.Untouched s') :
    FrozenSince base (n, s') := by
  refine ⟨h.settled, h.mode, h.level, h.policy, ?_, u.walkArmings.trans h.walkArmings, ?_⟩
  · intro role hwalk
    rw [u.isArmed hwalk]
    exact h.still role hwalk
  · obtain ⟨news, hnews, hstill⟩ := h.attempts
    exact ⟨news, u.attempts.trans hnews, hstill⟩

omit [Transport τ] in
/-- The session, the payload that is awaited and what the policy already knows do not count. -/
theorem congr (h : FrozenSince base (n, s)) {n' : Node} (machine : n'.machine = n.machine)
    (gauge : n'.gauge = n.gauge) (policy : n'.policy = ⟨base.1.level, some .stable⟩) :
    FrozenSince base (n', s) := by
  refine ⟨?_, ?_, ?_, policy, h.still, h.walkArmings, h.attempts⟩
  · exact (congrArg ModeMachine.effects machine).trans h.settled
  · exact (congrArg ModeMachine.mode machine).trans h.mode
  · exact (congrArg Gauge.level gauge).trans h.level

/-- Publications that speak of no move leave the gauge frozen. -/
theorem send (h : FrozenSince base (n, s)) {ps : List Publication}
    (quiet : ∀ p ∈ ps, ∀ answer, (Attempt.mk p.channel p.payload.text answer).IsStill) :
    FrozenSince base (n, Node.send n.topics ps s) := by
  refine ⟨h.settled, h.mode, h.level, h.policy, ?_, ?_, ?_⟩
  · rw [timers_send]
    exact h.still
  · rw [← h.walkArmings]
    exact view_send n.topics _ (fun _ he => Entry.walkArming?_of_isPublishing he) ps s
  · obtain ⟨news, hnews, hstill⟩ := h.attempts
    obtain ⟨more, hmore, htold⟩ := attempts_send n.topics ps s
    refine ⟨more ++ news, ?_, ?_⟩
    · rw [hmore, hnews, List.append_assoc]
    · intro a hmem
      rcases List.mem_append.mp hmem with hmem | hmem
      · have htold' : a.told ∈ (ps.map Publication.told).reverse := by
          rw [← htold]
          exact List.mem_map_of_mem hmem
        rw [List.mem_reverse, List.mem_map] at htold'
        obtain ⟨p, hp, heq⟩ := htold'
        obtain ⟨hchannel, hpayload⟩ := Prod.mk.inj heq
        have hquiet := quiet p hp a.answer
        rw [hchannel, hpayload] at hquiet
        exact hquiet
      · exact hstill a hmem

/-- Effects that do not move the gauge leave it frozen. -/
theorem applyEffects (h : FrozenSince base (n, s)) {effects : List Effect}
    (quiet : ∀ e ∈ effects, e.isStill) : FrozenSince base (n.applyEffects s effects) := by
  refine applyEffects_invariant n s (P := fun n s => FrozenSince base (n, s)) ?_ h
  intro e hmem n s h
  cases e with
  | cancel role =>
    refine ⟨h.settled, h.mode, h.level, h.policy, ?_, ?_, ?_⟩
    · intro other hwalk
      show (s.timers.cancel role).isArmed other = false
      rw [TimerQueue.isArmed_cancel, h.still other hwalk, Bool.and_false]
    · rw [← h.walkArmings]
      exact view_cancel s _ role
    · obtain ⟨news, hnews, hstill⟩ := h.attempts
      exact ⟨news, (attempts_cancel s role).trans hnews, hstill⟩
  | publishStable =>
    have hquiet : ∀ p ∈ [n.policy.forceStable.1], ∀ answer,
        (Attempt.mk p.channel p.payload.text answer).IsStill := by
      intro p hp answer
      rw [List.mem_singleton.mp hp]
      exact ⟨(nomatch ·), fun _ => rfl⟩
    refine (h.send hquiet).congr rfl rfl ?_
    show { n.policy with lastTrend := some .stable } = _
    rw [h.policy]
  | schedule | startDecrease => cases quiet _ hmem

/-- An announcement finds nothing new to tell while the gauge is frozen. -/
theorem announce (h : FrozenSince base (n, s)) : FrozenSince base (n.announce s) := by
  have hlevel : n.level = base.1.level := h.level
  have hpolicy : n.policy = ⟨base.1.level, some .stable⟩ := h.policy
  have hnews : n.policy.news n.level = [] := by
    rw [hpolicy, hlevel, Policy.news_of_told]
  have hquiet : ∀ p ∈ Publication.online :: n.policy.news n.level, ∀ answer,
      (Attempt.mk p.channel p.payload.text answer).IsStill := by
    intro p hp answer
    rw [hnews] at hp
    rw [List.mem_singleton.mp hp]
    exact ⟨(nomatch ·), (nomatch ·)⟩
  have hsent := h.send hquiet
  rw [← snd_announce] at hsent
  refine hsent.congr rfl rfl ?_
  show (n.policy.observe n.level).2 = _
  rw [Policy.observe_snd, hpolicy, hlevel, Trend.between_self]

/-- A command other than the one that clears the alarm leaves the gauge frozen. -/
theorem handleCommand (h : FrozenSince base (n, s)) {c : Command} (held : c ≠ .alarm false) :
    FrozenSince base (n.handleCommand c s) := by
  have hmode : n.mode = .alarmed := h.mode
  have hheard : FrozenSince base ({ n with machine := n.machine.after c }, n.heard s c) := by
    refine ⟨rfl, mode_after_alarmed hmode held, h.level, h.policy, ?_, ?_, ?_⟩
    · rw [timers_heard]
      exact h.still
    · rw [walkArmings_heard]
      exact h.walkArmings
    · rw [attempts_heard]
      exact h.attempts
  rw [handleCommand_eq n s h.settled]
  exact hheard.applyEffects (isStill_of_mem_effects hmode held)

/-- No callback moves a frozen gauge, unless it brings the command that clears the alarm. -/
theorem callback (h : FrozenSince base (n, s)) {c : Callback}
    (held : c.command? n.pending ≠ some (.alarm false)) : FrozenSince base (respond c n s) := by
  have hresponds := responds n s h.settled c
  generalize respond c n s = result at hresponds ⊢
  cases hresponds with
  | aside connection pending _ _ u => exact (h.untouched u).congr rfl rfl h.policy
  | @walks role d useful =>
    have hmode : n.mode = .alarmed := h.mode
    rw [hmode] at useful
    cases role <;> cases useful
  | announces => exact h.announce
  | @obeys _ s' command pending brought u =>
    have hpending : FrozenSince base ({ n with pending }, s') :=
      (h.untouched u).congr rfl rfl h.policy
    refine hpending.handleCommand ?_
    rintro rfl
    exact held brought
  | @starts s₁ s₂ connection before _ after =>
    have hmode : n.mode = .alarmed := h.mode
    have hentered : FrozenSince base (n.applyEffects s₁ (n.mode.entryEffects n.machine.pause)) :=
      (h.untouched before).applyEffects (by rw [hmode]; exact List.all_eq_true.mp rfl)
    exact (hentered.untouched after).congr rfl rfl hentered.policy

/-- Nothing that happens moves a frozen gauge, unless it brings the command that clears the
alarm. -/
theorem apply {state : Node × Site τ} (h : FrozenSince base state) {happening : Happening τ}
    (held : happening.command? state.1 ≠ some (.alarm false)) :
    FrozenSince base (happening.apply respond state) := by
  obtain ⟨n, s⟩ := state
  obtain ⟨s', hpassed, hcases⟩ := apply_cases happening n s
  have hframe : FrozenSince base (n, s') := by
    refine ⟨h.settled, h.mode, h.level, h.policy, ?_, hpassed.walkArmings.trans h.walkArmings, ?_⟩
    · exact fun role hwalk => hpassed.armed role (h.still role hwalk)
    · obtain ⟨news, hnews, hstill⟩ := h.attempts
      exact ⟨news, hpassed.attempts.trans hnews, hstill⟩
  rcases hcases with ⟨happly, -⟩ | ⟨c, happly, hcommand⟩
  · rw [happly]
    exact hframe
  · rw [happly]
    refine hframe.callback ?_
    rw [← hcommand]
    exact held

/-- No run moves a frozen gauge, unless it brings the command that clears the alarm. -/
theorem run {state : Node × Site τ} (h : FrozenSince base state) {hs : List (Happening τ)}
    (held : .alarm false ∉ broughtBy state hs) : FrozenSince base (run respond state hs) := by
  -- `run_invariant` does not apply, since what a happening brings depends on the state it meets.
  induction hs generalizing state with
  | nil => exact h
  | cons happening rest ih =>
    rw [broughtBy, List.mem_append, not_or] at held
    rw [run_cons]
    refine ih (h.apply ?_) held.2
    intro hcommand
    rw [hcommand] at held
    exact held.1 (List.mem_singleton.mpr rfl)

end FrozenSince

/-! ## The alarm is raised -/

/-- The command that raises the alarm freezes the gauge at its level, and all it tells is that the
level is stable. -/
theorem frozenSince_handleCommand (n : Node) (s : Site τ) (settled : n.Settled)
    (abreast : n.Abreast) :
    let raised := n.handleCommand (.alarm true) s
    FrozenSince raised raised ∧ raised.1.level = n.level ∧
      ∃ answer, raised.2.attempts = ⟨.fillState, "STABLE", answer⟩ :: s.attempts := by
  let after : Node := { n with machine := n.machine.after (.alarm true) }
  let cleared : Site τ :=
    (((n.heard s (.alarm true)).cancel .decrease).cancel .increase).cancel .resume
  let stable : Publication := .ofTrend .stable
  have hraised : n.handleCommand (.alarm true) s =
      ({ after with policy := n.policy.forceStable.2 }, sendOne n.topics cleared stable) := by
    rw [handleCommand_eq n s settled, effects_of_flags]
    rfl
  have hmode : after.mode = .alarmed := of_decide_eq_true (alarmActive_after n (.alarm true))
  have hpolicy : n.policy.forceStable.2 = ⟨n.level, some .stable⟩ := by
    rw [← abreast]
    rfl
  have htimers : (sendOne n.topics cleared stable).timers = cleared.timers :=
    timers_send n.topics [stable] cleared
  intro raised
  have heq : raised = _ := hraised
  refine ⟨⟨?_, ?_, rfl, ?_, ?_, rfl, [], rfl, fun _ h => nomatch h⟩, ?_, ?_⟩
  · rw [heq]; rfl
  · rw [heq]; exact hmode
  · rw [heq]; exact hpolicy
  · rw [heq]
    show (sendOne n.topics cleared stable).timers.Still
    rw [htimers]
    exact TimerQueue.still_of_cancelled (fun role => by cases role <;> decide) rfl
  · rw [heq]; rfl
  · have hattempts : cleared.attempts = s.attempts := by
      simp only [cleared, attempts_cancel, attempts_heard]
    let answer := (cleared.publish (stable.channel.topic n.topics) stable.payload.text
      .atLeastOnce true).1
    refine ⟨answer, ?_⟩
    rw [heq, ← hattempts]
    exact attempts_sendOne n.topics cleared stable

/-! ## The alarm is cleared -/

/-- What the end of an alarm makes of a gauge that has been held while a fill request stands: one
step down, which is told, or none at the lowest level. -/
structure Resumes (held freed : Node × Site τ) : Prop where
  mode : freed.1.mode = .emptying
  level : freed.1.level = if held.1.level = 1 then 1 else held.1.level - 1
  armed : freed.2.timers.isArmed .decrease = decide (held.1.level ≠ 1)
  told : ∃ news, freed.2.attempts = news ++ held.2.attempts ∧
    news.map Attempt.told =
      if held.1.level = 1 then []
      else [(Publication.ofTrend .decrease).told, (Publication.ofLevel (held.1.level - 1)).told]

/-- What the end of an alarm makes of a gauge that has been held while no fill request stands:
nothing moves, nothing is armed and nothing is told. -/
structure Rests (held freed : Node × Site τ) : Prop where
  mode : freed.1.mode = .idle
  level : freed.1.level = held.1.level
  timers : freed.2.timers = held.2.timers
  attempts : freed.2.attempts = held.2.attempts

section

variable {base : Node × Site τ} {n : Node} {s : Site τ}

theorem mode_after_clearing (hmode : n.mode = .alarmed) :
    (n.machine.after (.alarm false)).mode = if n.fillRequested then .emptying else .idle := by
  have hmachine : n.machine.mode = .alarmed := hmode
  unfold ModeMachine.after fillRequested
  rw [hmachine]
  cases n.machine.fillPending <;> rfl

/-- The end of an alarm with no fill request standing does nothing. -/
theorem rests_of_frozen (h : FrozenSince base (n, s)) (requested : n.fillRequested = false) :
    Rests (n, s) (n.handleCommand (.alarm false) s) := by
  have hmode := mode_after_clearing h.mode
  have hfreed : n.handleCommand (.alarm false) s =
      ({ n with machine := n.machine.after (.alarm false) }, n.heard s (.alarm false)) := by
    rw [handleCommand_eq n s h.settled, effects_of_flags, requested]
    rfl
  rw [requested] at hmode
  rw [hfreed]
  exact ⟨hmode, rfl, timers_heard n s _, attempts_heard n s _⟩

/-- The end of an alarm with a fill request standing takes the next step down from the level that
was held. -/
theorem resumes_of_frozen (h : FrozenSince base (n, s)) (requested : n.fillRequested = true) :
    Resumes (n, s) (n.handleCommand (.alarm false) s) := by
  have hmode := mode_after_clearing h.mode
  rw [requested] at hmode
  let after : Node := { n with machine := n.machine.after (.alarm false) }
  let cleared : Site τ :=
    (((n.heard s (.alarm false)).cancel .increase).cancel .resume).cancel .decrease
  have hfreed : n.handleCommand (.alarm false) s = after.step .decrease cleared := by
    rw [handleCommand_eq n s h.settled, effects_of_flags, requested]
    rfl
  have hstill : cleared.timers.Still :=
    TimerQueue.still_of_cancelled (fun role => by cases role <;> decide) rfl
  have hattempts : cleared.attempts = s.attempts := by
    simp only [cleared, attempts_cancel, attempts_heard]
  have hpolicy : after.policy = ⟨after.level, some .stable⟩ := by
    have hlevel : after.level = base.1.level := h.level
    rw [hlevel]
    exact h.policy
  rw [hfreed]
  refine ⟨?_, ?_, ?_, ?_⟩
  · rw [fst_step]
    exact hmode
  · by_cases hlow : n.level = 1
    · rw [level_step_of_boundary after cleared .decrease hlow, if_pos hlow]
      exact hlow
    · rw [level_step_of_ne_boundary after cleared .decrease hlow, if_neg hlow]
      rfl
  · -- Everything was disarmed first, so that the step alone decides what is armed.
    rw [timers_step]
    by_cases hlow : after.level = Direction.decrease.boundary
    · rw [if_pos hlow, hstill _ rfl]
      exact (decide_eq_false (not_not_intro hlow)).symm
    · rw [if_neg hlow, TimerQueue.isArmed_schedule]
      exact (decide_eq_true hlow).symm
  · by_cases hlow : n.level = 1
    · rw [snd_step_of_boundary after cleared .decrease hlow, hpolicy, Policy.news_of_told]
      refine ⟨[], ?_, (if_pos hlow).symm⟩
      exact (attempts_record _ rfl).trans hattempts
    · obtain ⟨news, hnews, htold⟩ :=
        attempts_send after.topics (after.policy.news (Direction.decrease.next after.level)) cleared
      rw [snd_step_of_ne_boundary after cleared .decrease hlow, attempts_schedule]
      refine ⟨news, hnews.trans (by rw [hattempts]), ?_⟩
      have hlower : Direction.decrease.next after.level < after.level := n.gauge.next_decrease_lt
      rw [htold, hpolicy, Policy.news_of_lower hlower]
      exact (if_neg hlow).symm

end

/-! ## From the first command to the last -/

theorem frozenSince_of_raised {start : Node × Site τ} (known : Known start)
    {happening : Happening τ} (brought : happening.command? start.1 = some (.alarm true)) :
    let raised := happening.apply respond start
    FrozenSince raised raised ∧ raised.1.level = start.1.level ∧
      ∃ answer, raised.2.attempts = ⟨.fillState, "STABLE", answer⟩ :: start.2.attempts := by
  obtain ⟨pending, s', u, -, happly⟩ := exists_handleCommand_of_apply known.settled brought
  have h := frozenSince_handleCommand { start.1 with pending } s' known.settled known.abreast
  rw [← happly, u.attempts] at h
  exact h

theorem freed_of_frozen {base held : Node × Site τ} (h : FrozenSince base held)
    {happening : Happening τ} (brought : happening.command? held.1 = some (.alarm false)) :
    if held.1.fillRequested then Resumes held (happening.apply respond held)
    else Rests held (happening.apply respond held) := by
  obtain ⟨pending, s', u, htimers, happly⟩ := exists_handleCommand_of_apply h.settled brought
  have hpending : FrozenSince base ({ held.1 with pending }, s') :=
    (h.untouched u).congr rfl rfl h.policy
  rw [happly]
  cases hrequested : held.1.fillRequested with
  | false =>
    have hrests := rests_of_frozen hpending hrequested
    exact ⟨hrests.mode, hrests.level, hrests.timers.trans htimers,
      hrests.attempts.trans u.attempts⟩
  | true =>
    have hresumes := resumes_of_frozen hpending hrequested
    obtain ⟨news, hnews, htold⟩ := hresumes.told
    exact ⟨hresumes.mode, hresumes.level, hresumes.armed, news,
      hnews.trans (by rw [u.attempts]), htold⟩

/-- From the command that raises an alarm to the one that clears it the gauge is frozen, whatever
happened before and whatever happens meanwhile. All that the first command tells is that the level
is stable. Then the level stays, no level is told and no trend but a stable one, and no walk timer
is armed. The command that clears the alarm goes on from the level that was held: with a step down
if the last fill command was to fill, and with nothing otherwise. -/
theorem frozen_of_alarm (c : Config) (session : SessionParams) (now : Nat) (t : τ)
    (before after : List (Happening τ)) (first last : Happening τ) :
    let start := run respond (fresh c session now t) before
    let raised := first.apply respond start
    let held := run respond raised after
    let freed := last.apply respond held
    first.command? start.1 = some (.alarm true) → .alarm false ∉ broughtBy raised after →
      (∃ answer, raised.2.attempts = ⟨.fillState, "STABLE", answer⟩ :: start.2.attempts) ∧
      raised.1.level = start.1.level ∧
      held.1.level = raised.1.level ∧
      (∀ a ∈ since held.2.attempts raised.2.attempts, a.IsStill) ∧
      held.2.walkArmings = raised.2.walkArmings ∧
      held.2.timers.Still ∧
      (last.command? held.1 = some (.alarm false) →
        if lastFill held.2.commands then Resumes held freed else Rests held freed) := by
  intro start raised held freed hraise hheld
  have hstart : Known start := (Known.fresh c session now t).run before
  obtain ⟨hfrozen, hlevel, htold⟩ := frozenSince_of_raised hstart hraise
  have hheld' : FrozenSince raised held := hfrozen.run hheld
  obtain ⟨news, hnews, hstill⟩ := hheld'.attempts
  have hrequested : held.1.fillRequested = lastFill held.2.commands :=
    (((hstart.apply first).run after)).requested
  refine ⟨htold, hlevel, hheld'.level, ?_, hheld'.walkArmings, hheld'.still, fun hclear => ?_⟩
  · rw [hnews, since_append]
    exact hstill
  · rw [← hrequested]
    exact freed_of_frozen hheld' hclear

/-- An alarm during a fill holds the gauge at 99, even against a timer that nobody has armed, and
the end of the alarm takes the step to 98. -/
theorem frozen_of_alarm_in_fill :
    let start : Node × Site Scripted :=
      run respond (fresh {} (Bench.session {}) 0 {}) [.callback (.command (.fillRequest true))]
    let raised := (Happening.callback (.command (.alarm true))).apply respond start
    let held := run respond raised [.callback (.timer .decrease)]
    let freed := (Happening.callback (.command (.alarm false))).apply respond held
    held.1.level = 99 ∧ freed.1.level = 98 := by
  intro start raised held freed
  have hbrought : (Happening.callback (τ := Scripted) (.command (.alarm true))).command? start.1 =
      some (.alarm true) := rfl
  have hheld : .alarm false ∉ broughtBy raised [.callback (.timer .decrease)] :=
    List.not_mem_nil
  have hlevel : start.1.level = 99 := rfl
  have hfill : lastFill held.2.commands = true := rfl
  obtain ⟨-, hraised, hsame, -, -, -, hfreed⟩ := frozen_of_alarm {} (Bench.session {}) 0
    ({} : Scripted) [.callback (.command (.fillRequest true))] [.callback (.timer .decrease)]
    (.callback (.command (.alarm true))) (.callback (.command (.alarm false))) hbrought hheld
  have hresumes := hfreed rfl
  rw [if_pos hfill] at hresumes
  have hheldLevel : held.1.level = 99 := hsame.trans (hraised.trans hlevel)
  refine ⟨hheldLevel, hresumes.level.trans ?_⟩
  rw [hheldLevel]
  decide

end Node

end TankGauge
