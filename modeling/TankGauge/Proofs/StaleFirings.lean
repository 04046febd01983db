import TankGauge.Proofs.Outbound
import TankGauge.Proofs.WalkTimers

/-!
# Firings that come too late

A timer may fire while it is being cancelled, and then its callback is made although the queue
holds the timer no more. The node tells such a firing by its mode alone: a mode that has no use for
the role drops it. A mode that has a use for it takes the firing for a good one, and steps.

Most of these steps change nothing. A walk whose own timer is not armed has told `STABLE` last
(`Node.AtRest`), so that a walk down, which is left without its timer only at the lower end, finds
there nothing to do and nothing to tell. But the mode that refills has a use for two roles and has
only one of them armed at a time. It may be entered again while it walks, and a step that was
cancelled by that and fires all the same walks the gauge during the pause
(`Node.steps_after_cancellation`). `Node.dropped_iff_of_run` says exactly when a firing is dropped.
-/

namespace TankGauge

/-- Two roles are of use for a walk up, and only in the mode that refills. -/
theorem TimerRole.direction?_eq_increase_iff {role : TimerRole} (hwalk : role.isWalk)
    {mode : Mode} :
    role.direction? mode = some .increase ↔ mode = .refilling ∧ role ≠ .decrease := by
  cases role <;> cases mode <;> simp [direction?] at hwalk ⊢ <;> cases hwalk

namespace Node

open Site

variable {τ : Type} [Transport τ]

/-- The callback of a role leaves the gauge, the mode, the policy and the queue as they are, and
publishes nothing. -/
structure Dropped (role : TimerRole) (n : Node) (s : Site τ) : Prop where
  level : (n.onTimer role s).1.level = n.level
  mode : (n.onTimer role s).1.mode = n.mode
  policy : (n.onTimer role s).1.policy = n.policy
  timers : (n.onTimer role s).2.timers = s.timers
  attempts : (n.onTimer role s).2.attempts = s.attempts

/-! ## A walk that does not go on has told so -/

/-- A walk whose timer is not armed has told `STABLE` last. -/
def AtRest (n : Node) (q : TimerQueue) : Prop :=
  ∀ d : Direction, n.mode = d.mode → q.isArmed d.timer = false → n.policy.lastTrend = some .stable

section

variable {n : Node} {s : Site τ}

/-- An observation of the level that the policy knows tells that it is stable. -/
theorem lastTrend_observe_of_abreast (abreast : n.Abreast) :
    (n.policy.observe n.level).2.lastTrend = some .stable := by
  have hlast : n.policy.lastLevel = n.level := abreast
  rw [Policy.observe_snd, hlast, Trend.between_self]

/-- A step that arms no timer finds the level unchanged. -/
theorem atRest_step (abreast : n.Abreast) {d : Direction} (walks : n.mode = d.mode) :
    (n.step d s).1.AtRest (n.step d s).2.timers := by
  intro d' hmode hidle
  obtain rfl : d' = d := by
    have hsame : d'.mode = d.mode := by rw [← hmode, ← walks, fst_step]; rfl
    cases d' <;> cases d <;> first | rfl | cases hsame
  by_cases hend : n.level = d'.boundary
  · rw [policy_step, level_step_of_boundary n s d' hend]
    exact lastTrend_observe_of_abreast abreast
  · rw [timers_step, if_neg hend, TimerQueue.isArmed_schedule, beq_self_eq_true] at hidle
    cases hidle

/-- On entry a mode steps, or tells `STABLE`, or does not walk. -/
theorem atRest_entered (abreast : n.Abreast) (pause : UInt32) :
    (n.applyEffects s (n.mode.entryEffects pause)).1.AtRest
      (n.applyEffects s (n.mode.entryEffects pause)).2.timers := by
  cases hmode : n.mode with
  | idle =>
    intro d hd
    cases d <;> cases hmode.symm.trans hd
  | emptying =>
    exact atRest_step (s := ((s.cancel .increase).cancel .resume).cancel .decrease) abreast
      (d := .decrease) hmode
  | refilling | alarmed => exact fun _ _ _ => rfl

/-- A command enters a mode, or tells `STABLE`, or changes nothing of the walk. -/
theorem atRest_handleCommand (settled : n.Settled) (abreast : n.Abreast)
    (rest : n.AtRest s.timers) (c : Command) :
    (n.handleCommand c s).1.AtRest (n.handleCommand c s).2.timers := by
  let n' : Node := { n with machine := n.machine.after c }
  have hmode : n'.mode = ((n.mode.react n.machine.fillPending c).next).getD n.mode := rfl
  rw [handleCommand_eq n s settled]
  rcases Mode.effects_cases n.mode n.machine.pause n.machine.fillPending c with
    ⟨hnext, heffects | heffects⟩ | ⟨next, hnext, heffects, -⟩ <;> rw [hnext] at hmode <;>
    rw [heffects]
  · intro d hd hidle
    rw [applyEffects_nil, timers_heard] at hidle
    exact rest d (hmode.symm.trans hd) hidle
  · exact fun _ _ _ => rfl
  · have hentered : n'.mode = next := hmode
    rw [← hentered]
    exact atRest_entered (n := n') abreast n.machine.pause

end

/-! ## Runs -/

/-- What holds between two callbacks of a node whose timers come out of the queue: the walk timers
are armed as the mode says, the policy has last spoken of the level, and a walk whose timer is not
armed has told so. -/
structure Poised (state : Node × Site τ) : Prop extends Steady state where
  abreast : state.1.Abreast
  rest : state.1.AtRest state.2.timers

namespace Poised

variable {n : Node} {s : Site τ}

omit [Transport τ] in
/-- What leaves the tank untouched leaves a walk at rest that was at rest. -/
theorem atRest_of_untouched (rest : n.AtRest s.timers) {s' : Site τ} (u : s.Untouched s')
    (connection : Connection) (pending : PendingTopic) :
    ({ n with connection, pending } : Node).AtRest s'.timers := by
  intro d hd hidle
  exact rest d hd ((u.isArmed d.isWalk_timer).symm.trans hidle)

/-- A node that has just been started is idle, and walks in no direction. -/
theorem launched (c : Config) (session : SessionParams) (now : Nat) (t : τ) :
    Poised (launched c session now t) := by
  let fresh := ofConfig c session
  have hsettled : fresh.Settled := settled_ofConfig c session
  have hstart : Node.launched c session now t =
      respond .start fresh { now, transport := t } := rfl
  have hmachine := (responds fresh { now, transport := t } hsettled .start).machine_eq hsettled
  refine ⟨.launched c session now t, ?_, ?_⟩
  · rw [hstart]
    exact abreast_law.respond hsettled rfl .start
  · rw [hstart]
    intro d hd
    have hidle : (respond .start fresh { now, transport := t }).1.mode = .idle :=
      congrArg ModeMachine.mode hmachine
    cases d <;> cases hidle.symm.trans hd

/-- A callback that is neither a start nor a timer leaves a walk at rest if its timer is not
armed. -/
theorem callback (h : Poised (n, s)) {c : Callback} (started : c ≠ .start)
    (timed : ∀ role, c ≠ .timer role) : Poised (respond c n s) := by
  refine ⟨h.toSteady.callback started timed, abreast_law.respond h.settled h.abreast c, ?_⟩
  have hresponds := responds n s h.settled c
  generalize respond c n s = result at hresponds ⊢
  cases hresponds with
  | aside connection pending _ _ untouched =>
    exact atRest_of_untouched h.rest untouched connection pending
  | walks => exact absurd rfl (timed _)
  | announces => exact absurd rfl (timed _)
  | @obeys _ s' command pending _ untouched =>
    exact atRest_handleCommand (n := { n with pending }) h.settled h.abreast
      (atRest_of_untouched h.rest untouched n.connection pending) command
  | starts => exact absurd rfl started

/-- A timer that goes off leads to a step, or to an announcement, or has nothing to do with the
walk. -/
theorem expiry (h : Poised (n, s)) (role : TimerRole) :
    Poised ((Happening.expiry role).apply respond (n, s)) := by
  refine ⟨h.toSteady.expiry role, abreast_law.run h.settled h.abreast [.expiry role], ?_⟩
  cases hslot : s.timers.slots.get role with
  | none => simpa only [Happening.apply, hslot] using h.rest
  | some t =>
    let s₁ := { s with timers := s.timers.cancel role }.record (.fire role t.deadline)
    have harmed : s.timers.isArmed role = true := by rw [TimerQueue.isArmed, hslot]; rfl
    have hresponds := responds n s₁ h.settled (.timer role)
    have hresult : (Happening.expiry role).apply respond (n, s) = respond (.timer role) n s₁ := by
      simp only [Happening.apply, hslot, s₁]
    rw [hresult]
    generalize respond (.timer role) n s₁ = result at hresponds ⊢
    cases hresponds with
    | aside connection pending _ useless untouched =>
      refine atRest_of_untouched (s := s₁) (fun d hd hidle => h.rest d hd ?_) untouched connection
        pending
      -- The mode would have a use for an armed timer of the walk, so the role is none of those.
      have hne : d.timer ≠ role := by
        rintro rfl
        obtain ⟨d', hd'⟩ := h.walk.exists_direction d.isWalk_timer harmed
        rw [useless _ rfl d.isWalk_timer] at hd'
        cases hd'
      rw [← hidle]
      show _ = (s.timers.cancel role).isArmed d.timer
      rw [TimerQueue.isArmed_cancel, bne_iff_ne.mpr hne, Bool.true_and]
    | walks useful => exact atRest_step h.abreast (TimerRole.mode_of_direction? useful)
    | announces => exact fun _ _ _ => lastTrend_observe_of_abreast h.abreast
    | obeys command pending brought => cases brought

theorem apply {state : Node × Site τ} (h : Poised state) {happening : Happening τ}
    (timely : happening.isTimely) : Poised (happening.apply respond state) := by
  cases happening with
  | callback c =>
    refine h.callback ?_ ?_
    · rintro rfl
      cases timely
    · rintro role rfl
      cases timely
  | expiry role => exact h.expiry role
  | clock | transport => exact ⟨⟨h.settled, h.walk⟩, h.abreast, h.rest⟩

theorem run {state : Node × Site τ} (h : Poised state) {hs : List (Happening τ)}
    (timely : ∀ h ∈ hs, h.isTimely) : Poised (run respond state hs) :=
  run_invariant (P := Poised) (fun h' hmem _ hstate => hstate.apply (timely h' hmem)) h

end Poised

/-! ## When a firing is dropped -/

section

variable {n : Node} {s : Site τ} {role : TimerRole} {d : Direction}

/-- A firing that the mode has no use for is dropped. -/
theorem dropped_of_useless (hwalk : role.isWalk) (useless : role.direction? n.mode = none) :
    Dropped role n s := by
  have hfired := onTimer_of_stale n s hwalk useless
  constructor <;> rw [hfired]
  · rfl
  · exact attempts_record s rfl

/-- At the end of the scale, a firing that the mode has a use for is dropped if `STABLE` is what was
told last, and tells it otherwise. -/
theorem dropped_iff_of_boundary (abreast : n.Abreast) (useful : role.direction? n.mode = some d)
    (hend : n.level = d.boundary) :
    Dropped role n s ↔ n.policy.lastTrend = some .stable := by
  have hfired := onTimer_of_direction n s d useful
  have hlevel := level_step_of_boundary n s d hend
  have hlast : n.policy.lastLevel = n.level := abreast
  constructor
  · intro h
    have hpolicy := h.policy
    rw [hfired, policy_step, hlevel] at hpolicy
    rw [← hpolicy]
    exact lastTrend_observe_of_abreast abreast
  · intro hstable
    have hpolicy : n.policy = ⟨n.level, some .stable⟩ := by rw [← hlast, ← hstable]
    constructor <;> rw [hfired]
    · exact hlevel
    · rw [fst_step]; rfl
    · rw [policy_step, hlevel, Policy.observe_snd, hlast, Trend.between_self, hpolicy]
    · rw [timers_step, if_pos hend]
    · rw [attempts_step, hlevel, hpolicy, Policy.news_of_told]
      rfl

/-- Before the end of the scale, a firing that the mode has a use for moves the gauge. -/
theorem not_dropped_of_ne_boundary (useful : role.direction? n.mode = some d)
    (hend : n.level ≠ d.boundary) : ¬ Dropped role n s := by
  intro h
  have hlevel := h.level
  rw [onTimer_of_direction n s d useful, level_step_of_ne_boundary n s d hend] at hlevel
  cases d with
  | decrease => exact UInt8.ne_of_lt (Gauge.next_decrease_lt n.gauge) hlevel
  | increase => exact UInt8.ne_of_lt (Gauge.lt_next_increase hend) hlevel.symm

/-- A firing that the mode has no use for, or that finds the gauge at the end of the scale with
`STABLE` told, is dropped; any other is not. -/
theorem dropped_iff (abreast : n.Abreast) (hwalk : role.isWalk) :
    Dropped role n s ↔
      ∀ d, role.direction? n.mode = some d →
        n.level = d.boundary ∧ n.policy.lastTrend = some .stable := by
  cases useful : role.direction? n.mode with
  | none => exact iff_of_true (dropped_of_useless hwalk useful) nofun
  | some d =>
    constructor
    · intro h d' hd'
      obtain rfl := Option.some.inj hd'
      by_cases hend : n.level = d.boundary
      · exact ⟨hend, (dropped_iff_of_boundary abreast useful hend).mp h⟩
      · exact absurd h (not_dropped_of_ne_boundary useful hend)
    · intro h
      obtain ⟨hend, hstable⟩ := h d rfl
      exact (dropped_iff_of_boundary abreast useful hend).mpr hstable

omit [Transport τ] in
/-- A walk down that is left without its timer is at the lower end and has told so, and one up that
is left without either of its timers is at the upper end and has told so. -/
theorem Poised.at_end (h : Poised (n, s)) (walks : n.mode = d.mode)
    (idle : ∀ role, role.direction? n.mode = some d → s.timers.isArmed role = false) :
    n.level = d.boundary ∧ n.policy.lastTrend = some .stable := by
  have hwalk := h.walk
  rw [walks] at idle
  have htimer : s.timers.isArmed d.timer = false := idle d.timer (by cases d <;> rfl)
  refine ⟨?_, h.rest d walks htimer⟩
  rw [walks] at hwalk
  cases d with
  | decrease =>
    obtain ⟨-, -, harmed | hlow⟩ := hwalk
    · cases htimer.symm.trans harmed
    · exact hlow
  | increase =>
    obtain ⟨-, hone | ⟨-, -, hfull⟩⟩ := hwalk
    · exact absurd ((idle .resume rfl).trans htimer.symm) hone
    · exact hfull

/-- A firing of a timer that is not armed is dropped unless it walks the gauge up and has
something to do or to tell. -/
theorem Poised.dropped_iff (h : Poised (n, s)) (hwalk : role.isWalk)
    (unarmed : s.timers.isArmed role = false) :
    Dropped role n s ↔
      ¬ (role.direction? n.mode = some .increase ∧
        (n.level ≠ 100 ∨ n.policy.lastTrend ≠ some .stable)) := by
  rw [Node.dropped_iff h.abreast hwalk]
  constructor
  · rintro hdropped ⟨useful, hmore⟩
    obtain ⟨hfull, hstable⟩ := hdropped .increase useful
    exact hmore.elim (absurd hfull) (absurd hstable)
  · intro hnot d useful
    cases d with
    | decrease =>
      -- Only one role is of use for a walk down, so that the walk is left without its timer.
      have hmode := TimerRole.mode_of_direction? useful
      refine h.at_end hmode (fun other hother => ?_)
      rw [hmode] at useful hother
      cases role <;> cases useful
      cases other <;> cases hother
      exact unarmed
    | increase =>
      by_contra hmore
      exact hnot ⟨useful, not_and_or.mp hmore⟩

omit [Transport τ] in
/-- While a walk up has something to do or to tell, one of its two timers is armed. -/
theorem Poised.exists_other (h : Poised (n, s)) (useful : role.direction? n.mode = some .increase)
    (unarmed : s.timers.isArmed role = false)
    (more : n.level ≠ 100 ∨ n.policy.lastTrend ≠ some .stable) :
    ∃ other, other.isWalk ∧ other ≠ role ∧ s.timers.isArmed other := by
  by_contra hnone
  have hidle (other : TimerRole) (hother : other.direction? n.mode = some .increase) :
      s.timers.isArmed other = false := by
    by_cases hsame : other = role
    · rw [hsame]
      exact unarmed
    · refine Bool.eq_false_iff.mpr fun harmed => hnone ⟨other, ?_, hsame, harmed⟩
      cases other <;> first | rfl | cases hother
  obtain ⟨hfull, hstable⟩ := h.at_end (TimerRole.mode_of_direction? useful) hidle
  exact more.elim (absurd hfull) (absurd hstable)

end

/-- At any time between two callbacks of a node that was started once and whose timers come out of
the queue, the firing of a walk timer that is not armed is dropped, unless the mode is the one that
refills, the role is one of the two that it has a use for, and the gauge is not full or something
other than `STABLE` was told last. In that case the other of the two is armed, and the firing is
taken for a step up. -/
theorem dropped_iff_of_run (c : Config) (session : SessionParams) (now : Nat) (t : τ)
    (hs : List (Happening τ)) (timely : ∀ h ∈ hs, h.isTimely) (role : TimerRole)
    (hwalk : role.isWalk) :
    let state := TankGauge.run respond (Node.launched c session now t) hs
    state.2.timers.isArmed role = false →
      (Dropped role state.1 state.2 ↔
        ¬ (state.1.mode = .refilling ∧ role ≠ .decrease ∧
          (state.1.level ≠ 100 ∨ state.1.policy.lastTrend ≠ some .stable))) ∧
      (¬ Dropped role state.1 state.2 →
        state.1.onTimer role state.2 = state.1.step .increase state.2 ∧
          ∃ other, other.isWalk ∧ other ≠ role ∧ state.2.timers.isArmed other) := by
  intro state unarmed
  have hpoised : Poised (state.1, state.2) := (Poised.launched c session now t).run timely
  have hiff := hpoised.dropped_iff hwalk unarmed
  refine ⟨?_, fun hmoved => ?_⟩
  · rw [hiff, TimerRole.direction?_eq_increase_iff hwalk, and_assoc]
  · obtain ⟨useful, hmore⟩ := not_not.mp (mt hiff.mpr hmoved)
    exact ⟨onTimer_of_direction state.1 state.2 .increase useful,
      hpoised.exists_other useful unarmed hmore⟩

/-- The firing of a step down that the end of a fill request has cancelled is dropped. -/
theorem dropped_after_fill_request :
    let hs : List (Happening Scripted) :=
      [.callback (.command (.fillRequest true)), .callback (.command (.fillRequest false))]
    let state := TankGauge.run respond (Node.launched {} (Bench.session {}) 0 {}) hs
    (∀ h ∈ hs, h.isTimely) ∧ state.2.timers.isArmed .decrease = false ∧
      Dropped .decrease state.1 state.2 := by
  intro hs state
  have htimely : ∀ h ∈ hs, h.isTimely := by decide
  have hunarmed : state.2.timers.isArmed .decrease = false := by decide +kernel
  obtain ⟨hiff, -⟩ := dropped_iff_of_run {} (Bench.session {}) 0 ({} : Scripted) hs htimely
    .decrease rfl hunarmed
  exact ⟨htimely, hunarmed, hiff.mpr fun h => h.2.1 rfl⟩

/-- The firing of a step up is taken for a good one although the mode has been entered again since
and has cancelled it: the gauge moves during the pause, and then two walk timers are armed. -/
theorem steps_after_cancellation :
    let before : List (Happening Scripted) :=
      [.callback (.command (.fillRequest true)), .clock 10, .expiry .decrease, .clock 20,
        .expiry .decrease, .callback (.command (.fillRequest false)), .clock 5020, .expiry .resume]
    let walking := TankGauge.run respond (Node.launched {} (Bench.session {}) 0 {}) before
    let paused := TankGauge.run respond walking [.callback (.command (.fillRequest false))]
    let late := paused.1.onTimer .increase paused.2
    (∀ h ∈ before, h.isTimely) ∧ walking.2.timers.isArmed .increase ∧
      paused.2.timers.isArmed .increase = false ∧ ¬ Dropped .increase paused.1 paused.2 ∧
      paused.1.level = 98 ∧ late.1.level = 99 ∧
      late.2.timers.armed.filter TimerRole.isWalk = [.increase, .resume] := by
  intro before walking paused late
  have hbefore : paused.1.level = 98 := by decide +kernel
  have hafter : late.1.level = 99 := by decide +kernel
  have hmoved : ¬ Dropped .increase paused.1 paused.2 := by
    intro h
    have hlevel : late.1.level = paused.1.level := h.level
    rw [hbefore, hafter] at hlevel
    cases hlevel
  exact ⟨by decide, by decide +kernel, by decide +kernel, hmoved, hbefore, hafter,
    by decide +kernel⟩

end Node

end TankGauge
