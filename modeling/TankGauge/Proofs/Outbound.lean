import Mathlib.Data.List.Chain
import TankGauge.Proofs.RetainedView

/-!
# The stream of what is told

A level is told exactly when the gauge moves, so the levels told are the path of the gauge
(`Node.levelsOf`), one unit at a time from 100 on. On the fill state a walk in one direction is told
once, and a walk up is never told right after a walk down: whoever turns round enters the mode that
refills, and that tells `STABLE` (`MayFollow`).

What one callback hands over is handed over for one reason (`Node.Deed`): the gauge took a step, the
node announced itself, or a mode was entered that tells `STABLE`. The last two tell no level.
-/

namespace TankGauge

/-! ## The texts on one channel -/

theorem lastTold?_eq_head? (channel : Channel) (attempts : List Attempt) :
    lastTold? channel attempts = (textsOn channel attempts).head? :=
  lookup_eq_head? channel _

theorem Node.textsOn_send {τ : Type} [Transport τ] (channel : Channel) (topics : Topics)
    (ps : List Publication) (s : Site τ) :
    textsOn channel (send topics ps s).attempts =
      (Publication.texts channel ps).reverse ++ textsOn channel s.attempts := by
  obtain ⟨news, hnews, htold⟩ := attempts_send topics ps s
  rw [textsOn, hnews, List.map_append, List.filterMap_append, htold, List.filterMap_reverse]
  rfl

/-! ## Why something is told -/

namespace Node

open Site

variable {τ : Type}

/-- `x'` came out of `x` with publications handed over. -/
def Handed (ps : List Publication) (x x' : Node × Site τ) : Prop :=
  ∀ channel, textsOn channel x'.2.attempts =
    (Publication.texts channel ps).reverse ++ textsOn channel x.2.attempts

/-- `x'` came out of `x` with the gauge and the policy as they were and nothing handed over. -/
structure Unmoved (x x' : Node × Site τ) : Prop where
  level : x'.1.level = x.1.level
  policy : x'.1.policy = x.1.policy
  attempts : x'.2.attempts = x.2.attempts

/-- What one happening does to the tank. -/
inductive Deed (x : Node × Site τ) (x' : Node × Site τ) : Prop
  /-- Nothing is done. -/
  | rests (same : Unmoved x x') (mode : x'.1.mode = .refilling → x.1.mode = .refilling)
  /-- The gauge takes a step, and what there is to tell of the level that it comes to is told. -/
  | steps (d : Direction)
      (level : x'.1.level = if x.1.level = d.boundary then x.1.level else d.next x.1.level)
      (policy : x'.1.policy = (x.1.policy.observe x'.1.level).2)
      (handed : Handed (x.1.policy.news x'.1.level) x x')
      (mode : x'.1.mode = d.mode) (on : d = .increase → x.1.mode = .refilling)
  /-- The node announces itself. -/
  | announces (level : x'.1.level = x.1.level)
      (policy : x'.1.policy = (x.1.policy.observe x.1.level).2)
      (handed : Handed (.online :: x.1.policy.news x.1.level) x x')
      (mode : x'.1.mode = x.1.mode)
  /-- `STABLE` is told, whatever was told before. -/
  | calms (level : x'.1.level = x.1.level) (policy : x'.1.policy = x.1.policy.forceStable.2)
      (handed : Handed [x.1.policy.forceStable.1] x x')

section

variable {x x' x'' : Node × Site τ}

theorem Unmoved.trans (h : Unmoved x x') (h' : Unmoved x' x'') : Unmoved x x'' :=
  ⟨h'.level.trans h.level, h'.policy.trans h.policy, h'.attempts.trans h.attempts⟩

/-- Disarming a timer hands nothing over. -/
theorem Unmoved.cancel {n : Node} {s : Site τ} (h : Unmoved x (n, s)) (role : TimerRole) :
    Unmoved x (n, s.cancel role) :=
  ⟨h.level, h.policy, (attempts_cancel s role).trans h.attempts⟩

theorem Handed.rests {ps : List Publication} (h : Handed ps x x') (h' : Unmoved x' x'') :
    Handed ps x x'' := by
  intro channel
  rw [h'.attempts]
  exact h channel

/-- Nothing is done after what is done. -/
theorem Deed.rests_after (h : Deed x x') (h' : Unmoved x' x'') (mode : x''.1.mode = x'.1.mode) :
    Deed x x'' := by
  cases h with
  | rests same hmode => exact .rests (same.trans h') (fun hm => hmode (mode ▸ hm))
  | steps d level policy handed hmode on =>
    rw [← h'.level] at level policy handed
    exact .steps d level (h'.policy.trans policy) (handed.rests h') (mode.trans hmode) on
  | announces level policy handed hmode =>
    exact .announces (h'.level.trans level) (h'.policy.trans policy) (handed.rests h')
      (mode.trans hmode)
  | calms level policy handed =>
    exact .calms (h'.level.trans level) (h'.policy.trans policy) (handed.rests h')

end

section

variable [Transport τ] {x : Node × Site τ} {n : Node} {s : Site τ}

theorem Unmoved.handed_send (h : Unmoved x (n, s)) (topics : Topics) (ps : List Publication)
    {x' : Node × Site τ} (attempts : x'.2.attempts = (send topics ps s).attempts) :
    Handed ps x x' := by
  intro channel
  have hsame : s.attempts = x.2.attempts := h.attempts
  rw [attempts, textsOn_send, hsame]

theorem deed_step (h : Unmoved x (n, s)) (d : Direction) (mode : n.mode = d.mode)
    (on : d = .increase → x.1.mode = .refilling) : Deed x (n.step d s) := by
  have hlevel : n.level = x.1.level := h.level
  have hpolicy : n.policy = x.1.policy := h.policy
  refine .steps d ?_ ?_ ?_ ?_ on
  · rw [← hlevel]
    by_cases hend : n.level = d.boundary
    · rw [if_pos hend, level_step_of_boundary n s d hend]
    · rw [if_neg hend, level_step_of_ne_boundary n s d hend]
  · rw [policy_step, hpolicy]
  · rw [← hpolicy]
    exact h.handed_send n.topics _ (attempts_step n s d)
  · rw [← mode, fst_step]
    rfl

theorem deed_stable (h : Unmoved x (n, s)) {x' : Node × Site τ} (level : x'.1.level = n.level)
    (policy : x'.1.policy = n.policy.forceStable.2)
    (attempts : x'.2.attempts = (send n.topics [n.policy.forceStable.1] s).attempts) :
    Deed x x' := by
  have hpolicy : n.policy = x.1.policy := h.policy
  rw [hpolicy] at policy attempts
  exact .calms (level.trans h.level) policy (h.handed_send n.topics _ attempts)

/-- Entering a mode is a step down, or calms, or is nothing at all. -/
theorem deed_entered (h : Unmoved x (n, s)) (pause : UInt32) :
    Deed x (n.applyEffects s (n.mode.entryEffects pause)) := by
  cases hmode : n.mode with
  | idle => exact .rests h (fun hrefilling => absurd (hmode.symm.trans hrefilling) nofun)
  | emptying =>
    exact deed_step (((h.cancel .increase).cancel .resume).cancel .decrease) .decrease hmode nofun
  | refilling =>
    refine deed_stable h rfl rfl ?_
    simp only [Mode.entryEffects_refilling, applyEffects_publishStable, applyEffects_cancel,
      applyEffects_schedule, applyEffects_nil, attempts_schedule, attempts_cancel]
  | alarmed =>
    exact deed_stable (((h.cancel .decrease).cancel .increase).cancel .resume) rfl rfl rfl

/-- A command is a step down, or calms, or is nothing at all. -/
theorem deed_handleCommand (h : Unmoved x (n, s)) (settled : n.Settled) (mode : n.mode = x.1.mode)
    (c : Command) : Deed x (n.handleCommand c s) := by
  have hheard : Unmoved x ({ n with machine := n.machine.after c }, n.heard s c) :=
    ⟨h.level, h.policy, (attempts_heard n s c).trans h.attempts⟩
  rw [handleCommand_eq n s settled]
  rcases Mode.effects_cases n.mode n.machine.pause n.machine.fillPending c with
    ⟨hnext, heffects | heffects⟩ | ⟨next, hnext, heffects, -⟩
  · have hmode : (n.machine.after c).mode = n.mode := by
      show ((n.mode.react n.machine.fillPending c).next).getD n.mode = _
      rw [hnext]
      rfl
    rw [heffects]
    exact .rests hheard (fun hrefilling => mode ▸ hmode ▸ hrefilling)
  · rw [heffects]
    exact deed_stable hheard rfl rfl rfl
  · have hmode : ({ n with machine := n.machine.after c } : Node).mode = next := by
      show ((n.mode.react n.machine.fillPending c).next).getD n.mode = _
      rw [hnext]
      rfl
    rw [heffects, ← hmode]
    exact deed_entered hheard _

/-- Each callback does at most one thing to the tank. -/
theorem deed_respond (h : Unmoved x (n, s)) (settled : n.Settled) (mode : n.mode = x.1.mode)
    (c : Callback) : Deed x (respond c n s) := by
  have hresponds := responds n s settled c
  generalize respond c n s = result at hresponds ⊢
  cases hresponds with
  | aside connection pending _ _ untouched =>
    exact .rests ⟨h.level, h.policy, untouched.attempts.trans h.attempts⟩ (fun hm => mode ▸ hm)
  | @walks role d useful =>
    have hmode : n.mode = d.mode := TimerRole.mode_of_direction? useful
    refine deed_step h d hmode ?_
    rintro rfl
    exact mode.symm.trans hmode
  | announces =>
    have hpolicy : n.policy = x.1.policy := h.policy
    have hlevel : n.level = x.1.level := h.level
    refine .announces h.level ?_ ?_ mode
    · rw [fst_announce, ← hpolicy, ← hlevel]
    · rw [← hpolicy, ← hlevel]
      exact h.handed_send n.topics _ (congrArg Site.attempts (snd_announce n s))
  | @obeys _ s' command pending _ untouched =>
    exact deed_handleCommand (n := { n with pending })
      ⟨h.level, h.policy, untouched.attempts.trans h.attempts⟩ settled mode command
  | @starts s₁ s₂ connection before _ after =>
    have hbefore : Unmoved x (n, s₁) := ⟨h.level, h.policy, before.attempts.trans h.attempts⟩
    exact (deed_entered hbefore n.machine.pause).rests_after ⟨rfl, rfl, after.attempts⟩ rfl

/-- Each happening does at most one thing to the tank. -/
theorem deed_apply (settled : x.1.Settled) (h : Happening τ) : Deed x (h.apply respond x) := by
  obtain ⟨s', hpassed, ⟨happly, -⟩ | ⟨c, happly, -⟩⟩ := apply_cases h x.1 x.2
  · rw [show h.apply respond x = _ from happly]
    exact .rests ⟨rfl, rfl, hpassed.attempts⟩ id
  · rw [show h.apply respond x = _ from happly]
    exact deed_respond (x := x) (n := x.1) (s := s') ⟨rfl, rfl, hpassed.attempts⟩ settled rfl c

end

/-! ## The path of the gauge, and what may follow what -/

/-- Where the gauge has gone between two states, if it has moved. -/
def movedTo (x x' : Node × Site τ) : Option UInt8 :=
  if x'.1.level = x.1.level then none else some x'.1.level

/-- The levels that the gauge comes to in a run, in order: one for each happening that moves it. -/
def levelsOf [Transport τ] (x : Node × Site τ) : List (Happening τ) → List UInt8
  | [] => []
  | h :: rest => (movedTo x (h.apply respond x)).toList ++ levelsOf (h.apply respond x) rest

end Node

/-- Whether two levels are one unit apart. -/
def Adjacent (later earlier : UInt8) : Prop :=
  later.toNat + 1 = earlier.toNat ∨ later.toNat = earlier.toNat + 1

/-- What may be told on the fill state right after what: a walk down not after a walk down, and a
walk up only after `STABLE`. -/
def MayFollow (later earlier : String) : Prop :=
  (later = Trend.decrease.word → earlier ≠ Trend.decrease.word) ∧
    (later = Trend.increase.word → earlier = Trend.stable.word)

/-- A step that moves the gauge moves it by one unit. -/
theorem adjacent_next (g : Gauge) {d : Direction} (h : g.level ≠ d.boundary) :
    Adjacent (d.next g.level) g.level := by
  have hlow : 1 ≤ g.level.toNat := g.lowest_le
  have hhigh : g.level.toNat ≤ 100 := g.le_highest
  cases d with
  | decrease =>
    refine .inl ?_
    show (g.level - 1).toNat + 1 = g.level.toNat
    rw [UInt8.toNat_sub_of_le _ _ g.lowest_le]
    exact Nat.sub_add_cancel hlow
  | increase =>
    refine .inr ?_
    show (g.level + 1).toNat = g.level.toNat + 1
    rw [UInt8.toNat_add]
    exact Nat.mod_eq_of_lt (by simp only [UInt8.reduceToNat]; omega)

namespace Node

open Site

variable {τ : Type}

/-- What holds of the stream of a node, given the levels that the gauge has come to so far, latest
first. -/
structure Stream (levels : List UInt8) (x : Node × Site τ) : Prop where
  told : Told [] x.1.level x.1.policy x.2.attempts
  texts : textsOn .level x.2.attempts = levels.map fun level => toString level.toNat
  path : (levels ++ [100]).IsChain Adjacent
  here : (levels ++ [100]).head? = some x.1.level
  fill : (textsOn .fillState x.2.attempts).IsChain MayFollow
  refilling : x.1.mode = .refilling → x.1.policy.lastTrend ≠ some .decrease

theorem stable_mayFollow (earlier : String) : MayFollow Trend.stable.word earlier :=
  ⟨fun heq => absurd heq (by decide), fun heq => absurd heq (by decide)⟩

/-- What is told on the fill state may follow what the policy remembers. -/
theorem mayFollow_of_remembered {trend : Trend} {last : Option Trend} {earlier : List String}
    (remembered : earlier.head? = last.map Trend.word) (new : last ≠ some trend)
    (up : trend = .increase → last ≠ some .decrease) :
    ∀ text ∈ earlier.head?, MayFollow trend.word text := by
  intro text hmem
  rw [remembered] at hmem
  obtain ⟨t, rfl, rfl⟩ := Option.map_eq_some_iff.mp hmem
  cases trend with
  | stable => exact stable_mayFollow t.word
  | decrease =>
    refine ⟨fun _ => ?_, fun heq => absurd heq (by decide)⟩
    cases t with
    | decrease => exact absurd rfl new
    | increase | stable => decide
  | increase =>
    refine ⟨fun heq => absurd heq (by decide), fun _ => ?_⟩
    cases t with
    | stable => rfl
    | increase => exact absurd rfl new
    | decrease => exact absurd rfl (up rfl)

namespace Stream

variable {levels : List UInt8} {x x' : Node × Site τ}

theorem remembered (h : Stream levels x) :
    (textsOn .fillState x.2.attempts).head? = x.1.policy.lastTrend.map Trend.word := by
  rw [← lastTold?_eq_head?]
  exact h.told.trend

/-- A level that is observed is the next one on the path, if it is a new one. -/
theorem observe_level (h : Stream levels x)
    (near : x'.1.level = x.1.level ∨ Adjacent x'.1.level x.1.level)
    (texts : textsOn .level x'.2.attempts =
      (Publication.texts .level (x.1.policy.news x'.1.level)).reverse ++
        textsOn .level x.2.attempts) :
    let levels' := (movedTo x x').toList ++ levels
    textsOn .level x'.2.attempts = levels'.map (fun level => toString level.toNat) ∧
      (levels' ++ [100]).IsChain Adjacent ∧ (levels' ++ [100]).head? = some x'.1.level := by
  intro levels'
  have hlast : x.1.policy.lastLevel = x.1.level := h.told.abreast
  rw [Policy.texts_level_news, hlast] at texts
  by_cases hmoved : x'.1.level = x.1.level
  · have hlevels : levels' = levels := by simp only [levels', movedTo, if_pos hmoved]; rfl
    rw [if_pos hmoved] at texts
    rw [hlevels, hmoved]
    exact ⟨texts.trans h.texts, h.path, h.here⟩
  · have hlevels : levels' = x'.1.level :: levels := by
      simp only [levels', movedTo, if_neg hmoved]
      rfl
    rw [if_neg hmoved] at texts
    rw [hlevels]
    refine ⟨?_, h.path.cons (fun level hmem => ?_), rfl⟩
    · rw [texts, h.texts]
      rfl
    · rw [h.here] at hmem
      obtain rfl : x.1.level = level := Option.some.inj hmem
      exact near.resolve_left hmoved

/-- A trend that is observed may follow the one before, if it is a new one. -/
theorem observe_trend (h : Stream levels x) (up : x.1.level < x'.1.level → x.1.mode = .refilling)
    (texts : textsOn .fillState x'.2.attempts =
      (Publication.texts .fillState (x.1.policy.news x'.1.level)).reverse ++
        textsOn .fillState x.2.attempts) :
    (textsOn .fillState x'.2.attempts).IsChain MayFollow := by
  have hlast : x.1.policy.lastLevel = x.1.level := h.told.abreast
  rw [texts, Policy.texts_fillState_news, hlast]
  by_cases hnew : x.1.policy.lastTrend = some (Trend.between x.1.level x'.1.level)
  · rw [if_pos hnew]
    exact h.fill
  · rw [if_neg hnew]
    exact h.fill.cons (mayFollow_of_remembered h.remembered hnew
      (fun hup => h.refilling (up (Trend.between_eq_increase.mp hup))))

/-- An observation keeps the stream in order. A walk up is observed only in the mode that refills,
and a walk down not in it. -/
theorem observe (h : Stream levels x) {ps : List Publication}
    (told : Told [] x'.1.level x'.1.policy x'.2.attempts)
    (policy : x'.1.policy = (x.1.policy.observe x'.1.level).2) (handed : Handed ps x x')
    (level : Publication.texts .level ps =
      Publication.texts .level (x.1.policy.news x'.1.level))
    (fill : Publication.texts .fillState ps =
      Publication.texts .fillState (x.1.policy.news x'.1.level))
    (near : x'.1.level = x.1.level ∨ Adjacent x'.1.level x.1.level)
    (up : x.1.level < x'.1.level → x.1.mode = .refilling)
    (down : x'.1.level < x.1.level → x'.1.mode ≠ .refilling) :
    Stream ((movedTo x x').toList ++ levels) x' := by
  obtain ⟨htexts, hpath, hhere⟩ := h.observe_level near (level ▸ handed .level)
  refine ⟨told, htexts, hpath, hhere, h.observe_trend up (fill ▸ handed .fillState), ?_⟩
  intro hmode hdecrease
  rw [policy, Policy.observe_snd, h.told.abreast] at hdecrease
  exact down (Trend.between_eq_decrease.mp (Option.some.inj hdecrease)) hmode

/-- Whatever is done to the tank keeps the stream in order. -/
theorem deed (h : Stream levels x) (told : Told [] x'.1.level x'.1.policy x'.2.attempts)
    (deed : Deed x x') : Stream ((movedTo x x').toList ++ levels) x' := by
  have hmoved (level : x'.1.level = x.1.level) : (movedTo x x').toList ++ levels = levels := by
    simp only [movedTo, if_pos level]
    rfl
  cases deed with
  | rests same mode =>
    rw [hmoved same.level]
    have hattempts := same.attempts
    refine ⟨told, hattempts ▸ h.texts, h.path, same.level ▸ h.here, hattempts ▸ h.fill, ?_⟩
    intro hmode
    rw [same.policy]
    exact h.refilling (mode hmode)
  | steps d level policy handed mode on =>
    have hend : x.1.level = d.boundary → x'.1.level = x.1.level := fun h => by rw [level, if_pos h]
    have hnext (h : x.1.level ≠ d.boundary) : x'.1.level = d.next x.1.level := by
      rw [level, if_neg h]
    have hnear : x'.1.level = x.1.level ∨ Adjacent x'.1.level x.1.level := by
      by_cases h : x.1.level = d.boundary
      · exact .inl (hend h)
      · rw [hnext h]
        exact .inr (adjacent_next x.1.gauge h)
    refine h.observe told policy handed rfl rfl hnear (fun hup => ?_) (fun hdown => ?_)
    · cases d with
      | increase => exact on rfl
      | decrease =>
        rw [level] at hup
        split at hup
        · exact absurd hup (UInt8.lt_irrefl _)
        · exact absurd hup (UInt8.lt_asymm (Gauge.next_decrease_lt x.1.gauge))
    · cases d with
      | decrease => rw [mode]; nofun
      | increase =>
        rw [level] at hdown
        split at hdown
        · exact absurd hdown (UInt8.lt_irrefl _)
        · exact absurd hdown (UInt8.lt_asymm (Gauge.lt_next_increase (g := x.1.gauge) ‹_›))
  | announces level policy handed mode =>
    rw [← level] at policy handed
    refine h.observe told policy handed rfl rfl (.inl level) ?_ ?_
    · rw [level]
      exact fun hlt => absurd hlt (UInt8.lt_irrefl _)
    · rw [level]
      exact fun hlt => absurd hlt (UInt8.lt_irrefl _)
  | calms level policy handed =>
    rw [hmoved level]
    refine ⟨told, (handed .level).trans h.texts, h.path, level ▸ h.here, ?_, ?_⟩
    · rw [handed .fillState]
      exact h.fill.cons (fun text _ => stable_mayFollow text)
    · rw [policy]
      exact fun _ => nofun

variable [Transport τ]

theorem apply (h : Stream levels x) (settled : x.1.Settled) (happening : Happening τ) :
    Stream ((movedTo x (happening.apply respond x)).toList ++ levels)
      (happening.apply respond x) :=
  h.deed ((Told.law []).run settled h.told [happening]) (deed_apply settled happening)

theorem run (h : Stream levels x) (settled : x.1.Settled) (hs : List (Happening τ)) :
    Stream ((levelsOf x hs).reverse ++ levels) (run respond x hs) := by
  induction hs generalizing x levels with
  | nil => exact h
  | cons happening rest ih =>
    have hrest := ih (h.apply settled happening) (settled_apply happening x.1 x.2 settled)
    rw [run_cons, levelsOf, List.reverse_append, List.append_assoc]
    cases hmoved : movedTo x (happening.apply respond x) <;> rw [hmoved] at hrest <;> exact hrest

/-- What was told last is which way the gauge has just gone. -/
theorem lastTold?_of_moved (h : Stream levels x) (settled : x.1.Settled) (happening : Happening τ)
    (moved : (happening.apply respond x).1.level ≠ x.1.level) :
    lastTold? .fillState (happening.apply respond x).2.attempts =
      some (Trend.between x.1.level (happening.apply respond x).1.level).word := by
  have htrend := (h.apply settled happening).told.trend
  cases deed_apply settled happening with
  | rests same => exact absurd same.level moved
  | announces level | calms level => exact absurd level moved
  | steps d _ policy =>
    rw [htrend, policy, Policy.observe_snd, h.told.abreast]
    rfl

end Stream

/-- Nothing has been told by a fresh node. -/
theorem stream_fresh (c : Config) (session : SessionParams) (now : Nat) (t : τ) :
    Stream [] (fresh c session now t) where
  told := ⟨rfl, rfl, rfl, List.suffix_refl _⟩
  texts := rfl
  path := List.isChain_singleton 100
  here := rfl
  fill := List.isChain_nil
  refilling := nofun

variable [Transport τ]

theorem mem_scale_of_mem_levelsOf {x : Node × Site τ} {hs : List (Happening τ)} {level : UInt8}
    (h : level ∈ levelsOf x hs) : 1 ≤ level ∧ level ≤ 100 := by
  induction hs generalizing x with
  | nil => cases h
  | cons happening rest ih =>
    rcases List.mem_append.mp h with hmem | hmem
    · have hlevel : (happening.apply respond x).1.level = level := by
        unfold movedTo at hmem
        split at hmem
        · cases hmem
        · exact (List.mem_singleton.mp hmem).symm
      rw [← hlevel]
      exact ⟨(happening.apply respond x).1.gauge.lowest_le,
        (happening.apply respond x).1.gauge.le_highest⟩
    · exact ih hmem

end Node

/-- From 100 the gauge can only go down. -/
private theorem toNat_of_adjacent_full {level : UInt8} (h : Adjacent level 100)
    (high : level ≤ 100) : level.toNat = 99 := by
  have hhigh : level.toNat ≤ 100 := high
  rcases h with h | h
  · exact Nat.succ.inj h
  · have hover : level.toNat = 101 := h
    omega

/-- A level is told in digits, the first of which is not a zero. -/
private theorem plain_of_le : ∀ n < 101, 1 ≤ n →
    (toString n).toList.all Char.isDigit ∧ (toString n).toList.head? ≠ some '0' := by
  decide +kernel

namespace Node

variable {τ : Type} [Transport τ]

/-- Whatever happens to a node, one level is handed over for each move of the gauge and no other,
whether the transport takes it or not: the levels are the path of the gauge, one unit at a time from
100 on, told in decimal. On the fill state no walk is told twice in a row, a walk up is told only
after `STABLE`, and when the gauge has just moved, what was told last is which way it went. -/
theorem stream_of_run (c : Config) (session : SessionParams) (now : Nat) (t : τ)
    (hs : List (Happening τ)) :
    let x := TankGauge.run respond (fresh c session now t) hs
    let levels := (levelsOf (fresh c session now t) hs).reverse
    let texts (channel : Channel) := textsOn channel x.2.attempts
    texts .level = levels.map (fun level => toString level.toNat) ∧
      textsOn .level (x.1.announce x.2).2.attempts = texts .level ∧
      (∀ text ∈ texts .level, ∃ n : Nat, 1 ≤ n ∧ n ≤ 100 ∧ text = toString n ∧
        text.toList.all Char.isDigit ∧ text.toList.head? ≠ some '0') ∧
      (levels ++ [100]).IsChain Adjacent ∧
      (∀ first, (texts .level).getLast? = some first → first = "99") ∧
      (levels ++ [100]).head? = some x.1.level ∧
      (texts .fillState).IsChain MayFollow ∧
      ∀ h : Happening τ,
        let x' := h.apply respond x
        x'.1.level ≠ x.1.level →
          lastTold? .fillState x'.2.attempts = some (Trend.between x.1.level x'.1.level).word := by
  intro x levels texts
  have hsettled : x.1.Settled := settled_run (settled_ofConfig c session) hs
  have hstream : Stream levels x := by
    have hrun := (stream_fresh c session now t).run (settled_ofConfig c session) hs
    rwa [List.append_nil] at hrun
  have hscale : ∀ level ∈ levels, 1 ≤ level ∧ level ≤ 100 :=
    fun level hmem => mem_scale_of_mem_levelsOf (List.mem_reverse.mp hmem)
  refine ⟨hstream.texts, ?_, fun text hmem => ?_, hstream.path, fun first hfirst => ?_,
    hstream.here, hstream.fill, hstream.lastTold?_of_moved hsettled⟩
  · rw [snd_announce, textsOn_send, ← hstream.told.abreast]
    show (Publication.texts .level (x.1.policy.news x.1.policy.lastLevel)).reverse ++ _ = _
    rw [Policy.texts_level_news, if_pos rfl]
    rfl
  · rw [show texts .level = _ from hstream.texts] at hmem
    obtain ⟨level, hlevel, rfl⟩ := List.mem_map.mp hmem
    obtain ⟨hlow, hhigh⟩ := hscale level hlevel
    exact ⟨level.toNat, hlow, hhigh, rfl, plain_of_le level.toNat (Nat.lt_succ_of_le hhigh) hlow⟩
  · rw [show texts .level = _ from hstream.texts, List.getLast?_map] at hfirst
    obtain ⟨level, hlevel, rfl⟩ := Option.map_eq_some_iff.mp hfirst
    obtain ⟨-, -, hadjacent⟩ := List.isChain_append.mp hstream.path
    rw [toNat_of_adjacent_full (hadjacent level hlevel 100 rfl)
      (hscale level (List.mem_of_getLast? hlevel)).2]
    rfl

/-- A fill request walks the gauge down to 98, and when it has ended and the pause is over, the
first step up is told as an increase. -/
theorem stream_of_run_up_again :
    let x := TankGauge.run respond (fresh {} (Bench.session {}) 0 ({} : Scripted))
      [.callback .start, .callback (.command (.fillRequest true)), .expiry .decrease,
        .callback (.command (.fillRequest false))]
    let x' := (Happening.expiry .resume).apply respond x
    x.1.level = 98 ∧ x'.1.level = 99 ∧ textsOn .level x.2.attempts = ["98", "99"] ∧
      textsOn .level (x.1.announce x.2).2.attempts = ["98", "99"] ∧
      lastTold? .fillState x'.2.attempts = some "INCREASE" := by
  intro x x'
  obtain ⟨htexts, hannounced, -, -, -, -, -, hlast⟩ := stream_of_run {} (Bench.session {}) 0
    ({} : Scripted) [.callback .start, .callback (.command (.fillRequest true)),
      .expiry .decrease, .callback (.command (.fillRequest false))]
  have hbefore : x.1.level = 98 := by decide +kernel
  have hafter : x'.1.level = 99 := by decide +kernel
  have hlevel : textsOn .level x.2.attempts = ["98", "99"] := htexts.trans (by decide +kernel)
  have hmoved : x'.1.level ≠ x.1.level := by
    rw [hbefore, hafter]
    decide
  have htrend := hlast (.expiry .resume) hmoved
  refine ⟨hbefore, hafter, hlevel, hannounced.trans hlevel, htrend.trans ?_⟩
  decide +kernel

end Node

end TankGauge
