import TankGauge.Proofs.Responses

/-!
# Which walk timers are armed

The mode and the level say which of the three walk timers may be armed (`Mode.WalkArmed`). A mode
that does not walk has none of them armed. A mode that walks has exactly the one armed that takes
the walk on, until the gauge has come to the end of its scale.

Each mode sees to this on entry, whatever was armed before, because it disarms what it must not
inherit. From then on a timer that goes off is one that the mode has a use for
(`Mode.WalkArmed.exists_direction`), it leaves no other armed (`Mode.WalkArmed.still_cancel`), and
the step that it leads to arms the next one.
-/

namespace TankGauge

/-- No walk timer is armed. -/
def TimerQueue.Still (q : TimerQueue) : Prop := ∀ role, role.isWalk → q.isArmed role = false

/-- What a mode and a level say of the walk timers of a queue. -/
def Mode.WalkArmed (mode : Mode) (level : UInt8) (q : TimerQueue) : Prop :=
  match mode with
  | .idle | .alarmed => q.Still
  | .emptying =>
    q.isArmed .increase = false ∧ q.isArmed .resume = false ∧
      (q.isArmed .decrease = true ∨ level = 1)
  | .refilling =>
    q.isArmed .decrease = false ∧
      (q.isArmed .resume ≠ q.isArmed .increase ∨
        q.isArmed .resume = false ∧ q.isArmed .increase = false ∧ level = 100)

/-- Once the three have been disarmed, in whatever order, none is armed. -/
theorem TimerQueue.still_of_cancelled {q q' : TimerQueue} {first second third : TimerRole}
    (all : ∀ role, role.isWalk → role = first ∨ role = second ∨ role = third)
    (h : q' = ((q.cancel first).cancel second).cancel third) : q'.Still := by
  intro role hwalk
  rw [h, isArmed_cancel, isArmed_cancel, isArmed_cancel]
  rcases all role hwalk with rfl | rfl | rfl
  · simp
  · simp
  · simp

namespace Mode.WalkArmed

variable {mode : Mode} {level : UInt8} {q q' : TimerQueue}

/-- Only the walk timers count. -/
theorem congr (h : mode.WalkArmed level q)
    (same : ∀ role, role.isWalk → q'.isArmed role = q.isArmed role) :
    mode.WalkArmed level q' := by
  cases mode with
  | idle | alarmed => exact fun role hwalk => (same role hwalk).trans (h role hwalk)
  | emptying | refilling =>
    have hdecrease := same .decrease rfl
    have hincrease := same .increase rfl
    have hresume := same .resume rfl
    simpa only [WalkArmed, hdecrease, hincrease, hresume] using h

/-- A walk timer that is armed is one that the mode has a use for. -/
theorem exists_direction (h : mode.WalkArmed level q) {role : TimerRole} (hwalk : role.isWalk)
    (armed : q.isArmed role = true) : ∃ d, role.direction? mode = some d := by
  cases mode with
  | idle | alarmed =>
    rw [h role hwalk] at armed
    cases armed
  | emptying =>
    obtain ⟨hincrease, hresume, -⟩ := h
    cases role with
    | decrease => exact ⟨.decrease, rfl⟩
    | increase => rw [hincrease] at armed; cases armed
    | resume => rw [hresume] at armed; cases armed
    | reconnect | announce => cases hwalk
  | refilling =>
    obtain ⟨hdecrease, -⟩ := h
    cases role with
    | decrease => rw [hdecrease] at armed; cases armed
    | increase | resume => exact ⟨.increase, rfl⟩
    | reconnect | announce => cases hwalk

/-- No two walk timers are armed at a time. -/
theorem eq_of_armed (h : mode.WalkArmed level q) {role other : TimerRole} (hwalk : role.isWalk)
    (armed : q.isArmed role = true) (hwalk' : other.isWalk) (armed' : q.isArmed other = true) :
    other = role := by
  cases mode with
  | idle | alarmed =>
    rw [h role hwalk] at armed
    cases armed
  | emptying =>
    obtain ⟨hincrease, hresume, -⟩ := h
    cases role <;> cases other <;> simp_all [TimerRole.isWalk]
  | refilling =>
    obtain ⟨hdecrease, h⟩ := h
    cases role <;> cases other <;> simp_all [TimerRole.isWalk]

/-- With the walk timer that goes off, the last one is gone. -/
theorem still_cancel (h : mode.WalkArmed level q) {role : TimerRole} (hwalk : role.isWalk)
    (armed : q.isArmed role = true) : (q.cancel role).Still := by
  intro other hwalk'
  rw [TimerQueue.isArmed_cancel]
  cases harmed : q.isArmed other with
  | false => exact Bool.and_false _
  | true =>
    rw [h.eq_of_armed hwalk armed hwalk' harmed]
    simp

/-- At most one walk timer is armed. -/
theorem length_le_one (h : mode.WalkArmed level q) :
    (q.armed.filter TimerRole.isWalk).length ≤ 1 := by
  have hnodup : (q.armed.filter TimerRole.isWalk).Nodup :=
    (List.filter_sublist.trans List.filter_sublist).nodup (by decide)
  have heq : ∀ role ∈ q.armed.filter TimerRole.isWalk,
      ∀ other ∈ q.armed.filter TimerRole.isWalk, other = role := by
    intro role hrole other hother
    rw [List.mem_filter, TimerQueue.armed, List.mem_filter] at hrole hother
    exact h.eq_of_armed hrole.2 hrole.1.2 hother.2 hother.1.2
  generalize q.armed.filter TimerRole.isWalk = armed at hnodup heq
  match armed with
  | [] | [_] => simp
  | first :: second :: rest =>
    have hsame := heq first (by simp) second (by simp)
    rw [hsame] at hnodup
    simp at hnodup

end Mode.WalkArmed

/-! ## Steps and entries -/

namespace Node

open Site

variable {τ : Type} [Transport τ] (n : Node) (s : Site τ)

/-- A step that a mode has a use for leaves nothing armed but the timer of the next one. -/
theorem walkArmed_step {mode : Mode} {role : TimerRole} {d : Direction}
    (useful : role.direction? mode = some d) (still : s.timers.Still) :
    mode.WalkArmed (n.step d s).1.level (n.step d s).2.timers := by
  -- Nothing was armed before, so that at most the timer of the next step is armed afterwards.
  have hother : ∀ other, other.isWalk → other ≠ d.timer →
      (s.timers.schedule d.timer n.stepInterval s.now).isArmed other = false := by
    intro other hwalk hne
    rw [TimerQueue.isArmed_schedule, still other hwalk, beq_false_of_ne hne]
    rfl
  have hnext : (s.timers.schedule d.timer n.stepInterval s.now).isArmed d.timer = true := by
    rw [TimerQueue.isArmed_schedule, beq_self_eq_true]
    rfl
  rw [timers_step]
  by_cases h : n.level = d.boundary
  · rw [if_pos h, level_step_of_boundary n s d h]
    cases mode <;> cases role <;> cases useful
    · exact ⟨still _ rfl, still _ rfl, .inr h⟩
    all_goals exact ⟨still _ rfl, .inr ⟨still _ rfl, still _ rfl, h⟩⟩
  · rw [if_neg h]
    cases mode <;> cases role <;> cases useful
    · exact ⟨hother _ rfl (by decide), hother _ rfl (by decide), .inl hnext⟩
    all_goals
      refine ⟨hother _ rfl (by decide), .inl ?_⟩
      rw [hother .resume rfl (by decide)]
      exact fun hfalse => Bool.false_ne_true (hfalse.trans hnext)

/-- Whatever was armed before, a mode other than the idle one has on entry armed what it says. -/
theorem walkArmed_entered (pause : UInt32) {mode : Mode} (h : mode ≠ .idle) :
    mode.WalkArmed (n.applyEffects s (mode.entryEffects pause)).1.level
      (n.applyEffects s (mode.entryEffects pause)).2.timers := by
  cases mode with
  | idle => exact absurd rfl h
  | emptying =>
    have useful : TimerRole.decrease.direction? .emptying = some .decrease := rfl
    refine walkArmed_step n (((s.cancel .increase).cancel .resume).cancel .decrease) useful ?_
    exact TimerQueue.still_of_cancelled (fun role => by cases role <;> decide) rfl
  | refilling =>
    simp only [Mode.entryEffects_refilling, applyEffects_publishStable, applyEffects_cancel,
      applyEffects_schedule, applyEffects_nil, timers_schedule, timers_cancel]
    refine ⟨?_, .inl ?_⟩
    · simp only [TimerQueue.isArmed_schedule, TimerQueue.isArmed_cancel]; rfl
    · simp only [TimerQueue.isArmed_schedule, TimerQueue.isArmed_cancel]
      exact Bool.false_ne_true.symm
  | alarmed =>
    simp only [Mode.entryEffects_alarmed, applyEffects_publishStable, applyEffects_cancel,
      applyEffects_nil, timers_send]
    exact TimerQueue.still_of_cancelled (fun role => by cases role <;> decide) rfl

/-- A command leaves armed what the mode after it says. -/
theorem walkArmed_handleCommand (settled : n.Settled)
    (walk : n.mode.WalkArmed n.level s.timers) (c : Command) :
    (n.handleCommand c s).1.mode.WalkArmed (n.handleCommand c s).1.level
      (n.handleCommand c s).2.timers := by
  have hmode : (n.handleCommand c s).1.mode =
      ((n.mode.react n.machine.fillPending c).next).getD n.mode := by
    rw [handleCommand_eq n s settled, mode, machine_applyEffects]
    rfl
  rw [hmode, handleCommand_eq n s settled]
  rcases Mode.effects_cases n.mode n.machine.pause n.machine.fillPending c with
    ⟨hnext, heffects | heffects⟩ | ⟨next, hnext, heffects, hidle⟩
  · rw [hnext, heffects, applyEffects_nil, timers_heard]
    exact walk
  · rw [hnext, heffects, applyEffects_publishStable, applyEffects_nil, timers_send, timers_heard]
    exact walk
  · rw [hnext, heffects]
    by_cases h : next = .idle
    · rw [h, Mode.entryEffects_idle, applyEffects_nil, timers_heard]
      -- The idle mode is entered from the alarm only, which has nothing armed either.
      rw [hidle h] at walk
      exact walk
    · exact walkArmed_entered _ _ _ h

/-! ## Runs -/

/-- What holds between two callbacks of a node whose timers come out of the queue: no effects wait,
and the walk timers are armed as the mode says. -/
structure Steady (state : Node × Site τ) : Prop where
  settled : state.1.Settled
  walk : state.1.mode.WalkArmed state.1.level state.2.timers

namespace Steady

variable {n s}

/-- A node that has just been started is steady. -/
theorem launched (c : Config) (session : SessionParams) (now : Nat) (t : τ) :
    Steady (launched c session now t) := by
  let fresh := ofConfig c session
  have h := responds fresh { now, transport := t } (settled_ofConfig c session) .start
  refine ⟨settled_respond fresh _ .start (settled_ofConfig c session), ?_⟩
  have hstart : Node.launched c session now t =
      respond .start fresh { now, transport := t } := rfl
  rw [hstart]
  generalize respond .start fresh { now, transport := t } = result at h ⊢
  have still : ({} : TimerQueue).Still := fun role _ => by cases role <;> rfl
  cases h with
  | aside connection pending _ _ untouched =>
    exact Mode.WalkArmed.congr still (fun role hwalk => untouched.isArmed hwalk)
  | obeys command pending brought => cases brought
  | starts connection before _ after =>
    -- Entering the idle mode asks for nothing.
    exact Mode.WalkArmed.congr still (fun role hwalk => (before.trans after).isArmed hwalk)

/-- A callback that is neither a start nor a timer leaves armed what the mode says. -/
theorem callback (h : Steady (n, s)) {c : Callback} (started : c ≠ .start)
    (timed : ∀ role, c ≠ .timer role) : Steady (respond c n s) := by
  refine ⟨settled_respond n s c h.settled, ?_⟩
  have hresponds := responds n s h.settled c
  generalize respond c n s = result at hresponds ⊢
  cases hresponds with
  | aside connection pending _ _ untouched =>
    exact h.walk.congr (fun role hwalk => untouched.isArmed hwalk)
  | walks => exact absurd rfl (timed _)
  | announces => exact absurd rfl (timed _)
  | @obeys _ s' command pending _ _ timers =>
    refine walkArmed_handleCommand { n with pending } s' h.settled ?_ command
    rw [timers]
    exact h.walk
  | starts => exact absurd rfl started

/-- A walk timer that goes off is one that the mode has a use for, and leaves no other armed. So
the step that it leads to leaves armed what the mode says. -/
theorem fired (h : Steady (n, s)) {role : TimerRole} (armed : s.timers.isArmed role = true)
    {s₁ : Site τ} (gone : s₁.timers = s.timers.cancel role) :
    Steady (respond (.timer role) n s₁) := by
  have hresponds := responds n s₁ h.settled (.timer role)
  refine ⟨settled_respond n s₁ _ h.settled, ?_⟩
  generalize respond (.timer role) n s₁ = result at hresponds ⊢
  -- A timer of the connection is no walk timer: the walk timers stay as they are.
  have hother (hwalk : role.isWalk = false) : n.mode.WalkArmed n.level s₁.timers := by
    refine h.walk.congr (fun other hother => ?_)
    have hne : other ≠ role := by
      rintro rfl
      rw [hwalk] at hother
      cases hother
    rw [gone, TimerQueue.isArmed_cancel, bne_iff_ne.mpr hne, Bool.true_and]
  cases hresponds with
  | aside connection pending _ useless untouched =>
    have hwalk : role.isWalk = false := by
      cases hwalk : role.isWalk with
      | false => rfl
      | true =>
        obtain ⟨d, hd⟩ := h.walk.exists_direction hwalk armed
        rw [useless role rfl hwalk] at hd
        cases hd
    exact (hother hwalk).congr (fun other hwalk' => untouched.isArmed hwalk')
  | @walks _ d useful =>
    have hmode : (n.step d s₁).1.mode = n.mode := by rw [fst_step]; rfl
    have hwalk : role.isWalk := by cases role <;> first | rfl | cases useful
    have still : s₁.timers.Still := by
      rw [gone]
      exact h.walk.still_cancel hwalk armed
    rw [hmode]
    exact walkArmed_step n s₁ useful still
  | announces =>
    have htimers : (n.announce s₁).2.timers = s₁.timers := by rw [snd_announce, timers_send]
    rw [htimers]
    exact hother rfl
  | obeys command pending brought => cases brought

/-- A timer that expires leaves armed what the mode says. -/
theorem expiry (h : Steady (n, s)) (role : TimerRole) :
    Steady ((Happening.expiry role).apply respond (n, s)) := by
  cases hslot : s.timers.slots.get role with
  | none => simpa only [Happening.apply, hslot] using h
  | some t =>
    have harmed : s.timers.isArmed role = true := by rw [TimerQueue.isArmed, hslot]; rfl
    let s₁ := { s with timers := s.timers.cancel role }.record (.fire role t.deadline)
    have hresult : (Happening.expiry role).apply respond (n, s) = respond (.timer role) n s₁ := by
      simp only [Happening.apply, hslot, s₁]
    rw [hresult]
    exact h.fired harmed rfl

/-- Whatever happens in time leaves armed what the mode says. -/
theorem apply {state : Node × Site τ} (h : Steady state) {happening : Happening τ}
    (timely : happening.isTimely) : Steady (happening.apply respond state) := by
  cases happening with
  | callback c =>
    refine h.callback ?_ ?_
    · rintro rfl
      cases timely
    · rintro role rfl
      cases timely
  | expiry role => exact h.expiry role
  | clock | transport => exact ⟨h.settled, h.walk⟩

/-- A run of what happens in time keeps the walk timers armed as the mode says. -/
theorem run {state : Node × Site τ} (h : Steady state) {hs : List (Happening τ)}
    (timely : ∀ h ∈ hs, h.isTimely) : Steady (run respond state hs) :=
  run_invariant (P := Steady) (fun h' hmem _ hstate => hstate.apply (timely h' hmem)) h

end Steady

/-- After every callback of a node that was started once and whose timers come out of the queue,
the walk timers are armed as the mode and the level say. So at most one of them is armed, and a
gauge that has somewhere to go has its timer. -/
theorem walkArmed_of_run (c : Config) (session : SessionParams) (now : Nat) (t : τ)
    (hs : List (Happening τ)) (timely : ∀ h ∈ hs, h.isTimely) :
    let (n, s) := TankGauge.run respond (Node.launched c session now t) hs
    n.mode.WalkArmed n.level s.timers ∧
      (s.timers.armed.filter TimerRole.isWalk).length ≤ 1 ∧
      (n.mode = .emptying → n.level ≠ 1 → s.timers.isArmed .decrease) ∧
      (n.mode = .refilling → n.level ≠ 100 →
        s.timers.isArmed .resume ∨ s.timers.isArmed .increase) := by
  obtain ⟨-, hwalk⟩ := (Steady.launched c session now t).run timely
  generalize TankGauge.run respond (Node.launched c session now t) hs = state at hwalk ⊢
  obtain ⟨n, s⟩ := state
  refine ⟨hwalk, hwalk.length_le_one, ?_, ?_⟩
  · intro hmode hlevel
    rw [hmode] at hwalk
    obtain ⟨-, -, harmed | hlow⟩ := hwalk
    · exact harmed
    · exact absurd hlow hlevel
  · intro hmode hlevel
    rw [hmode] at hwalk
    obtain ⟨-, hone | ⟨-, -, hfull⟩⟩ := hwalk
    · cases hresume : s.timers.isArmed .resume with
      | true => exact .inl rfl
      | false =>
        rw [hresume] at hone
        exact .inr (eq_true_of_ne_false hone.symm)
    · exact absurd hfull hlevel

/-- A fill request on a node that has just been started leaves the next step down armed. -/
theorem walkArmed_of_fill_request :
    let hs : List (Happening Scripted) := [.callback (.command (.fillRequest true))]
    (∀ h ∈ hs, h.isTimely) ∧
      (TankGauge.run respond (Node.launched {} (Bench.session {}) 0 {}) hs).2.timers.isArmed
        .decrease := by
  have htimely : ∀ h ∈ [Happening.callback (τ := Scripted) (.command (.fillRequest true))],
      h.isTimely := by decide
  refine ⟨htimely, ?_⟩
  obtain ⟨-, -, harmed, -⟩ := walkArmed_of_run {} (Bench.session {}) 0 ({} : Scripted)
    [.callback (.command (.fillRequest true))] htimely
  exact harmed (by rfl) (by decide)

end Node

end TankGauge
