import TankGauge.Proofs.Responses

/-!
# What happens to a node

A happening makes one callback at most. Before the callback is made its timer may have been taken
out of the queue, and the clock and the transport may change with no callback made at all; none of
this hands over a publication, brings a command or arms a timer (`Node.apply_cases`).

From this two kinds of law of whole runs follow. The journal keeps the commands that a run brings
(`Node.commands_run`). And what steps, announcements and forced `STABLE`s keep true of the level,
the policy and the publications so far, every run keeps true (`Node.TankLaw.run`).
-/

namespace TankGauge

/-- The command that a happening brings to a node. -/
def Happening.command? {τ : Type} (n : Node) : Happening τ → Option Command
  | .callback c => c.command? n.pending
  | _ => none

/-- `s'` came out of `s` with no callback made. -/
structure Site.Passed {τ : Type} (s s' : Site τ) : Prop where
  attempts : s'.attempts = s.attempts
  commands : s'.commands = s.commands
  walkArmings : s'.walkArmings = s.walkArmings
  armed : ∀ role, s.timers.isArmed role = false → s'.timers.isArmed role = false

namespace Node

open Site

variable {τ : Type} [Transport τ]

/-- A happening makes one callback at most, on a site that has changed before that at most as it
changes with no callback made. -/
theorem apply_cases (happening : Happening τ) (n : Node) (s : Site τ) :
    ∃ s', s.Passed s' ∧
      (happening.apply respond (n, s) = (n, s') ∧ happening.command? n = none ∨
        ∃ c, happening.apply respond (n, s) = respond c n s' ∧
          happening.command? n = c.command? n.pending) := by
  cases happening with
  | callback c => exact ⟨s, ⟨rfl, rfl, rfl, fun _ h => h⟩, .inr ⟨c, rfl, rfl⟩⟩
  | expiry role =>
    cases hslot : s.timers.slots.get role with
    | none =>
      refine ⟨s, ⟨rfl, rfl, rfl, fun _ h => h⟩, .inl ⟨?_, rfl⟩⟩
      simp only [Happening.apply, hslot]
    | some t =>
      refine ⟨{ s with timers := s.timers.cancel role }.record (.fire role t.deadline), ?_,
        .inr ⟨.timer role, ?_, rfl⟩⟩
      · refine ⟨rfl, rfl, rfl, fun other h => ?_⟩
        show (s.timers.cancel role).isArmed other = false
        rw [TimerQueue.isArmed_cancel, h, Bool.and_false]
      · simp only [Happening.apply, hslot]
  | clock reading =>
    exact ⟨{ s with now := reading }, ⟨rfl, rfl, rfl, fun _ h => h⟩, .inl ⟨rfl, rfl⟩⟩
  | transport t =>
    exact ⟨{ s with transport := t }, ⟨rfl, rfl, rfl, fun _ h => h⟩, .inl ⟨rfl, rfl⟩⟩

/-- The journal keeps the command that a happening brings, and no other. -/
theorem commands_apply (happening : Happening τ) (n : Node) (s : Site τ) (settled : n.Settled) :
    (happening.apply respond (n, s)).2.commands = (happening.command? n).toList ++ s.commands := by
  obtain ⟨s', hpassed, ⟨happly, hcommand⟩ | ⟨c, happly, hcommand⟩⟩ := apply_cases happening n s
  · rw [happly, hcommand]
    exact hpassed.commands
  · rw [happly, hcommand, (responds n s' settled c).commands_eq settled, hpassed.commands]

/-- A happening that brings a command has it carried out, after at most a note. -/
theorem exists_handleCommand_of_apply {state : Node × Site τ} (settled : state.1.Settled)
    {happening : Happening τ} {command : Command}
    (brought : happening.command? state.1 = some command) :
    ∃ pending s', state.2.Untouched s' ∧ s'.timers = state.2.timers ∧
      happening.apply respond state = { state.1 with pending }.handleCommand command s' := by
  cases happening with
  | callback c => exact exists_handleCommand state.1 state.2 settled brought
  | expiry | clock | transport => cases brought

/-- The commands that a run brings, in the order in which they come. -/
def broughtBy (state : Node × Site τ) : List (Happening τ) → List Command
  | [] => []
  | h :: rest => (h.command? state.1).toList ++ broughtBy (h.apply respond state) rest

theorem settled_apply (happening : Happening τ) (n : Node) (s : Site τ) (settled : n.Settled) :
    (happening.apply respond (n, s)).1.Settled := by
  obtain ⟨s', -, ⟨happly, -⟩ | ⟨c, happly, -⟩⟩ := apply_cases happening n s
  · rw [happly]
    exact settled
  · rw [happly]
    exact settled_respond n s' c settled

theorem topics_apply (n : Node) (s : Site τ) (settled : n.Settled) (h : Happening τ) :
    (h.apply respond (n, s)).1.topics = n.topics := by
  obtain ⟨s', -, ⟨happly, -⟩ | ⟨c, happly, -⟩⟩ := apply_cases h n s
  · rw [happly]
  · rw [happly]
    exact topics_respond n s' settled c

/-- No effects wait between two happenings of a run. -/
theorem settled_run {state : Node × Site τ} (settled : state.1.Settled) (hs : List (Happening τ)) :
    (run respond state hs).1.Settled := by
  let P (state : Node × Site τ) : Prop := state.1.Settled
  have hstep : ∀ h ∈ hs, ∀ state, P state → P (h.apply respond state) :=
    fun h _ state hstate => settled_apply h state.1 state.2 hstate
  exact run_invariant hstep settled

/-- The journal keeps the commands that a run brings, and no others. -/
theorem commands_run (hs : List (Happening τ)) (state : Node × Site τ) (settled : state.1.Settled) :
    (run respond state hs).2.commands = (broughtBy state hs).reverse ++ state.2.commands := by
  induction hs generalizing state with
  | nil => rfl
  | cons h rest ih =>
    rw [run_cons, ih _ (settled_apply h state.1 state.2 settled),
      commands_apply h state.1 state.2 settled, broughtBy, List.reverse_append, List.append_assoc]
    congr 1
    cases h.command? state.1 <;> rfl

/-! ## Laws of what a node has told

Whatever a node does to its tank is a step, an announcement or a forced `STABLE`. What these three
keep true of the level, the policy and the publications so far, every run keeps true.
-/

/-- A law of the level, the policy and the publications so far. -/
structure TankLaw (τ : Type) [Transport τ] (P : UInt8 → Policy → List Attempt → Prop) : Prop where
  step (n : Node) (s : Site τ) (d : Direction) (h : P n.level n.policy s.attempts) :
    P (n.step d s).1.level (n.step d s).1.policy (n.step d s).2.attempts
  announce (n : Node) (s : Site τ) (h : P n.level n.policy s.attempts) :
    P n.level (n.announce s).1.policy (n.announce s).2.attempts
  stable (n : Node) (s : Site τ) (h : P n.level n.policy s.attempts) :
    P n.level n.policy.forceStable.2 (send n.topics [n.policy.forceStable.1] s).attempts

namespace TankLaw

variable {P : UInt8 → Policy → List Attempt → Prop} {n : Node} {s : Site τ}

theorem applyEffects (law : TankLaw τ P) (h : P n.level n.policy s.attempts)
    (effects : List Effect) :
    P (n.applyEffects s effects).1.level (n.applyEffects s effects).1.policy
      (n.applyEffects s effects).2.attempts := by
  refine applyEffects_invariant n s (P := fun n s => P n.level n.policy s.attempts) ?_ h
  intro e _ n s h
  cases e with
  | cancel role => exact (attempts_cancel s role).symm ▸ h
  | schedule role delay => exact (attempts_schedule s role delay).symm ▸ h
  | startDecrease => exact law.step n s .decrease h
  | publishStable => exact law.stable n s h

theorem handleCommand (law : TankLaw τ P) (settled : n.Settled) (h : P n.level n.policy s.attempts)
    (c : Command) :
    P (n.handleCommand c s).1.level (n.handleCommand c s).1.policy
      (n.handleCommand c s).2.attempts := by
  have hheard : P n.level n.policy (n.heard s c).attempts := by
    rw [attempts_heard]
    exact h
  rw [handleCommand_eq n s settled]
  exact law.applyEffects (n := { n with machine := n.machine.after c }) hheard _

theorem respond (law : TankLaw τ P) (settled : n.Settled) (h : P n.level n.policy s.attempts)
    (c : Callback) :
    P (Node.respond c n s).1.level (Node.respond c n s).1.policy
      (Node.respond c n s).2.attempts := by
  have hresponds := responds n s settled c
  generalize Node.respond c n s = result at hresponds ⊢
  cases hresponds with
  | aside connection pending _ _ untouched =>
    show P n.level n.policy _
    rw [untouched.attempts]
    exact h
  | walks => exact law.step n s _ h
  | announces => exact law.announce n s h
  | @obeys _ s' command pending _ untouched =>
    refine law.handleCommand (n := { n with pending }) settled ?_ command
    rw [untouched.attempts]
    exact h
  | @starts s₁ s₂ connection before _ after =>
    rw [after.attempts]
    refine law.applyEffects (n := n) (s := s₁) ?_ _
    rw [before.attempts]
    exact h

/-- What a law says is true after a run if it is true before. -/
theorem run (law : TankLaw τ P) {state : Node × Site τ} (settled : state.1.Settled)
    (h : P state.1.level state.1.policy state.2.attempts) (hs : List (Happening τ)) :
    P (TankGauge.run Node.respond state hs).1.level (TankGauge.run Node.respond state hs).1.policy
      (TankGauge.run Node.respond state hs).2.attempts := by
  let Q (state : Node × Site τ) : Prop :=
    state.1.Settled ∧ P state.1.level state.1.policy state.2.attempts
  have hstep : ∀ h ∈ hs, ∀ state, Q state → Q (h.apply Node.respond state) := by
    intro happening _ state hstate
    refine ⟨settled_apply happening state.1 state.2 hstate.1, ?_⟩
    obtain ⟨s', hpassed, hcases⟩ := apply_cases happening state.1 state.2
    have hheld : P state.1.level state.1.policy s'.attempts := by
      rw [hpassed.attempts]
      exact hstate.2
    rcases hcases with ⟨happly, -⟩ | ⟨c, happly, -⟩
    · rw [happly]
      exact hheld
    · rw [happly]
      exact law.respond hstate.1 hheld c
  have hrun : Q (TankGauge.run Node.respond state hs) := run_invariant hstep ⟨settled, h⟩
  exact hrun.2

end TankLaw

/-- The level that the policy remembers as told is the level of the gauge. -/
def Abreast (n : Node) : Prop := n.policy.lastLevel = n.level

/-- Whenever the gauge moves it is observed at once, whether or not the transport takes what there
is to tell. -/
theorem abreast_law : TankLaw τ (fun level policy _ => policy.lastLevel = level) where
  step n s d _ := by
    rw [fst_step]
    rfl
  announce _ _ _ := rfl
  stable _ _ h := h

end Node

end TankGauge
