import TankGauge.Proofs.Advance
import TankGauge.Proofs.WalkUnderway

/-!
# The course of a walk

A command about the fill request that comes in while no alarm is active sets the gauge walking: down
at once if the request is raised, and up after a pause if it is withdrawn. From then on the gauge
walks by the clock alone, so that the time that has passed since the command decides where it is and
what was told (`Node.course_of_fill_command`). Whatever becomes of the connection meanwhile does not
matter.
-/

namespace TankGauge

/-! ## Clock-driven runs without further commands -/

/-- How long an input takes. -/
def Input.duration : Input → Nat
  | advance duration => duration
  | command _ | topic _ | payload _ _ | connection _ => 0

/-- How much time passes with all inputs. -/
def elapsed : List Input → Nat
  | [] => 0
  | i :: rest => i.duration + elapsed rest

theorem elapsed_cons (i : Input) (rest : List Input) :
    elapsed (i :: rest) = i.duration + elapsed rest := rfl

theorem Input.duration_of_callback? {i : Input} {c : Callback} (h : i.callback? = some c) :
    i.duration = 0 := by
  cases i with
  | advance => cases h
  | command | topic | payload | connection => rfl

namespace Node

open Site

section

variable {τ : Type} [Transport τ] {c : Config} {x y x' : Node × Site τ} {inputs rest : List Input}

/-- If the commands of a run come to nothing, so do those of its parts. -/
theorem commands_eq_of_between (settled : x.1.Settled) (ran : ClockRun inputs x y)
    (after : ClockRun rest y x') (silent : x'.2.commands = x.2.commands) :
    y.2.commands = x.2.commands ∧ x'.2.commands = y.2.commands := by
  obtain ⟨hs, rfl⟩ := exists_run_of_clockRun ran
  obtain ⟨hs', rfl⟩ := exists_run_of_clockRun after
  have hlater := commands_run hs' (run respond x hs) (settled_run settled hs)
  have hearlier := commands_run hs x settled
  have hnone : (broughtBy (run respond x hs) hs').reverse ++ (broughtBy x hs).reverse = [] := by
    rw [hlater, hearlier, ← List.append_assoc] at silent
    exact List.append_left_eq_self.mp silent
  obtain ⟨hnone', hnone⟩ := List.append_eq_nil_iff.mp hnone
  rw [hnone, List.nil_append] at hearlier
  rw [hnone', List.nil_append] at hlater
  exact ⟨hearlier, hlater⟩

variable {d : Direction} {start first steps : Nat} {before : List String}

/-- Time that passes to its end takes a walk on, and leaves it on time. -/
theorem Underway.advance (h : Underway c d start before first steps x) (regular : Regular x)
    {limit duration target : Nat} (there : laterInstant x.2.now duration = target)
    (ahead : x.2.now ≤ target) (inRange : target < clockLimit)
    (idle : (fireDue onTimer target limit x.1 x.2).2.timers.pop? target = none) :
    ∃ steps', Underway c d start before first steps' (advance limit duration x) ∧
      UpToDate c d start first steps' target ∧ Regular (advance limit duration x) := by
  have hdrains := drains_fireDue target limit x idle
  obtain ⟨hregular, hreached⟩ := hdrains.regular regular (Nat.le_of_lt inRange) ahead
  obtain ⟨steps', hunderway⟩ := h.drains regular inRange hdrains
  rw [advance_of_fireDue there rfl]
  exact ⟨steps', hunderway.congr hunderway.keeps rfl rfl rfl rfl (fun _ _ => rfl) hreached,
    hunderway.upToDate idle, hregular.passed idle (Nat.le_of_lt inRange)⟩

/-- With no further command, a walk goes on by the clock alone. It is on time as soon as time has
passed once. -/
theorem Underway.clockRun (h : Underway c d start before first steps x) (regular : Regular x)
    (ran : ClockRun rest x x') (silent : x'.2.commands = x.2.commands)
    (inRange : x.2.now + elapsed rest < clockLimit) :
    ∃ steps', Underway c d start before first steps' x' ∧ x'.2.now = x.2.now + elapsed rest ∧
      ((∃ duration, .advance duration ∈ rest) ∨ UpToDate c d start first steps x.2.now →
        UpToDate c d start first steps' x'.2.now) := by
  induction ran generalizing steps with
  | nil =>
    refine ⟨steps, h, rfl, fun hdue => hdue.resolve_left ?_⟩
    rintro ⟨_, hmem⟩
    cases hmem
  | transport t _ ih =>
    exact ih (h.congr h.keeps rfl rfl rfl rfl (fun _ _ => rfl) (Nat.le_refl _))
      (regular.transport t) silent inRange
  | @callback i callback rest x x' made after ih =>
    have hsettled := regular.steady.settled
    -- A callback that brought a command would leave one more in the journal for good.
    obtain ⟨hsame, hsilent⟩ :=
      commands_eq_of_between hsettled (.callback made .nil) after silent
    have hnone : callback.command? x.1.pending = none := by
      rw [(responds x.1 x.2 hsettled callback).commands_eq hsettled] at hsame
      exact Option.toList_eq_nil_iff.mp (List.append_left_eq_self.mp hsame)
    have hnow : (respond callback x.1 x.2).2.now = x.2.now :=
      (acted_respond x.1 x.2 hsettled callback).now_eq
    rw [elapsed_cons, Input.duration_of_callback? made, Nat.zero_add] at inRange ⊢
    obtain ⟨steps', hunderway, hthere, hdue⟩ := ih (h.callback made hnone)
      (regular.callback (Input.isTimely_of_callback? made)) hsilent (by rw [hnow]; exact inRange)
    rw [hnow] at hthere hdue
    refine ⟨steps', hunderway, hthere, fun hbefore => hdue (hbefore.imp_left ?_)⟩
    rintro ⟨duration, hmem⟩
    refine ⟨duration, (List.mem_cons.mp hmem).resolve_left ?_⟩
    rintro rfl
    cases made
  | @advance duration rest x x' limit idle after ih =>
    obtain ⟨-, hsilent⟩ :=
      commands_eq_of_between regular.steady.settled (.advance limit idle .nil) after silent
    rw [elapsed_cons, show (Input.advance duration).duration = duration from rfl,
      ← Nat.add_assoc] at inRange ⊢
    have htarget : laterInstant x.2.now duration = x.2.now + duration :=
      laterInstant_of_le (by omega)
    have hnow : (passTime onTimer limit (laterInstant x.2.now duration) x.1 x.2).2.now =
        x.2.now + duration := htarget
    rw [htarget] at idle
    obtain ⟨steps₁, hunderway, hupToDate, hregular⟩ :=
      h.advance regular htarget (Nat.le_add_right _ _) (by omega) idle
    obtain ⟨steps', hunderway', hthere, hdue⟩ :=
      ih hunderway hregular hsilent (by rw [hnow]; exact inRange)
    rw [hnow] at hthere hdue
    exact ⟨steps', hunderway', hthere, fun _ => hdue (.inr hupToDate)⟩

/-- If an attempt waits at all, what comes in can always be dealt with to its end. -/
theorem exists_clockRun (keeps : Keeps c x.1) (waits : 0 < c.reconnectLong) (rest : List Input)
    (inRange : x.2.now + elapsed rest < clockLimit) : ∃ x', ClockRun rest x x' := by
  induction rest generalizing x with
  | nil => exact ⟨x, .nil⟩
  | cons i rest ih =>
    rw [elapsed_cons] at inRange
    cases hmade : i.callback? with
    | some callback =>
      have hnow : (respond callback x.1 x.2).2.now = x.2.now :=
        (acted_respond x.1 x.2 keeps.settled callback).now_eq
      obtain ⟨x', hran⟩ := ih (keeps.respond callback x.2) (by rw [hnow]; omega)
      exact ⟨x', .callback hmade hran⟩
    | none =>
      obtain ⟨duration, rfl⟩ : ∃ duration, i = .advance duration := by
        cases i with
        | advance duration => exact ⟨duration, rfl⟩
        | command | topic | payload | connection => cases hmade
      replace inRange : x.2.now + (duration + elapsed rest) < clockLimit := inRange
      have htarget : laterInstant x.2.now duration = x.2.now + duration :=
        laterInstant_of_le (by omega)
      obtain ⟨x₁, hdrains⟩ : ∃ x₁, Drains (laterInstant x.2.now duration) x x₁ :=
        exists_drains_of_waits keeps waits (by omega) (by omega)
      obtain ⟨enough, henough⟩ := hdrains.exists_fireDue
      have hfired := henough enough (Nat.le_refl _)
      have hpassed : advance enough duration x =
          (x₁.1, { x₁.2 with now := x.2.now + duration }) := by
        rw [htarget] at hfired
        exact advance_of_fireDue htarget hfired
      have hkept : Keeps c x₁.1 := keeps.drains hdrains
      obtain ⟨x', hran⟩ := ih (x := advance enough duration x) (by rw [hpassed]; exact hkept)
        (by rw [hpassed, Nat.add_assoc]; exact inRange)
      exact ⟨x', .advance enough (by rw [hfired]; exact hdrains.idle) hran⟩

end

/-! ## A walk begins -/

section

variable {τ : Type} [Transport τ] {c : Config} {x : Node × Site τ} {callback : Callback}

/-- While no alarm is active, a command about the fill request sets the gauge walking. -/
theorem mode_after_fillRequest {n : Node} (calm : n.alarmActive = false) (on : Bool) :
    (n.machine.after (.fillRequest on)).mode =
      (if on then Direction.decrease else Direction.increase).mode := by
  rcases hmachine : n.machine with ⟨mode, fillPending, pause, effects, transitions⟩
  have hcalm : decide (mode = .alarmed) = false := by
    rw [alarmActive, hmachine] at calm
    exact calm
  cases mode with
  | alarmed => cases hcalm
  | idle | emptying | refilling => cases on <;> rfl

/-- A fill request that is raised while no alarm is active has the first step taken at once. -/
theorem underway_of_raised (keeps : Keeps c x.1) (abreast : x.1.Abreast)
    (calm : x.1.alarmActive = false)
    (brought : callback.command? x.1.pending = some (.fillRequest true)) :
    Underway c .decrease x.1.level.toNat (textsOn .level x.2.attempts) x.2.now 1
      (respond callback x.1 x.2) := by
  obtain ⟨pending, s, huntouched, -, hrespond⟩ :=
    exists_handleCommand x.1 x.2 keeps.settled brought
  let n : Node := { x.1 with pending }
  let after : Node := { n with machine := n.machine.after (.fillRequest true) }
  let cleared : Site τ :=
    (((n.heard s (.fillRequest true)).cancel .increase).cancel .resume).cancel .decrease
  have hstep : respond callback x.1 x.2 = after.step .decrease cleared := by
    rw [hrespond, handleCommand_eq n s keeps.settled, effects_of_flags,
      show n.alarmActive = false from calm]
    rfl
  have hmode : after.mode = .emptying := mode_after_fillRequest (n := n) calm true
  have hwalked : Walked c .decrease x.1.level.toNat (textsOn .level x.2.attempts) 0
      (after, cleared) := by
    refine ⟨⟨rfl, keeps.interval, keeps.pause, keeps.long⟩, hmode, ?_, ?_, abreast⟩
    · exact (Nat.max_eq_right x.1.gauge.one_le_level).symm
    · show textsOn .level cleared.attempts = textsOn .level x.2.attempts
      simp only [cleared, attempts_cancel, attempts_heard, huntouched.attempts]
  have hstill : cleared.timers.Still :=
    TimerQueue.still_of_cancelled (fun role => by cases role <;> decide) rfl
  have hnow : cleared.now = x.2.now :=
    ((acted_heard n s (.fillRequest true)).now_eq).trans huntouched.now
  rw [hstep]
  refine ⟨hwalked.step .decrease ?_, hwalked.planned_step hstill ?_, fun k hk => ?_,
    Nat.le_add_left _ _⟩
  · rw [hmode]
    rfl
  · rw [hnow, Nat.zero_mul, Nat.add_zero]
  · obtain rfl : k = 0 := (Nat.succ.inj hk).symm
    rw [(acted_step after cleared .decrease).now_eq, hnow, Nat.zero_mul, Nat.add_zero]

/-- A fill request that is withdrawn while no alarm is active has the first step planned for the end
of the pause. -/
theorem underway_of_withdrawn (keeps : Keeps c x.1) (abreast : x.1.Abreast)
    (calm : x.1.alarmActive = false)
    (brought : callback.command? x.1.pending = some (.fillRequest false)) :
    Underway c .increase x.1.level.toNat (textsOn .level x.2.attempts)
      (x.2.now + c.resumeDelay.toNat) 0 (respond callback x.1 x.2) := by
  obtain ⟨pending, s, huntouched, -, hrespond⟩ :=
    exists_handleCommand x.1 x.2 keeps.settled brought
  let n : Node := { x.1 with pending }
  let after : Node := { n with
    machine := n.machine.after (.fillRequest false)
    policy := n.policy.forceStable.2 }
  let told : Site τ := send n.topics [n.policy.forceStable.1] (n.heard s (.fillRequest false))
  let cleared : Site τ := (told.cancel .decrease).cancel .increase
  have hrefills : respond callback x.1 x.2 =
      (after, cleared.schedule .resume n.machine.pause) := by
    rw [hrespond, handleCommand_eq n s keeps.settled, effects_of_flags,
      show n.alarmActive = false from calm]
    rfl
  have hnow : cleared.now = x.2.now := by
    show told.now = x.2.now
    rw [now_send]
    exact ((acted_heard n s (.fillRequest false)).now_eq).trans huntouched.now
  rw [hrefills]
  refine ⟨⟨⟨rfl, keeps.interval, keeps.pause, keeps.long⟩,
    mode_after_fillRequest (n := n) calm false, ?_, ?_, abreast⟩, fun role hwalk => ?_, nofun,
    Nat.zero_le _⟩
  · exact (Nat.min_eq_right x.1.gauge.level_le_hundred).symm
  · show textsOn .level (cleared.schedule .resume n.machine.pause).attempts =
      textsOn .level x.2.attempts
    rw [attempts_schedule, attempts_cancel, attempts_cancel, textsOn_send, attempts_heard,
      huntouched.attempts]
    rfl
  · show (cleared.schedule .resume n.machine.pause).timers.deadline? role = _
    rw [timers_schedule, TimerQueue.deadline?_schedule, hnow, instantAfter,
      show n.machine.pause = c.resumeDelay from keeps.pause, Nat.zero_mul, Nat.add_zero]
    by_cases hresume : role = .resume
    · rw [if_pos hresume, if_pos ⟨hresume, Nat.zero_le _⟩]
    · rw [if_neg hresume, if_neg (fun hmore => hresume hmore.1)]
      show ((told.timers.cancel .decrease).cancel .increase).deadline? role = none
      rw [TimerQueue.deadline?_cancel, TimerQueue.deadline?_cancel]
      cases role with
      | resume => exact absurd rfl hresume
      | decrease | increase => rfl
      | reconnect | announce => cases hwalk

end

/-! ## The course of a walk -/

section

variable {τ : Type} [Transport τ] {c : Config} {session : SessionParams} {now : Nat} {t : τ}
  {inputs : List Input} {x : Node × Site τ}

/-- In a clock-driven run, the level that was told last is the one of the gauge. -/
theorem abreast_of_clockRun (ran : ClockRun inputs (launched c session now t) x) :
    x.1.Abreast := by
  obtain ⟨hs, rfl⟩ := exists_run_of_clockRun ran
  have hfresh : (fresh c session now t).1.Abreast := rfl
  exact abreast_law.run (settled_respond _ _ .start (settled_ofConfig c session))
    (abreast_law.respond (settled_ofConfig c session) hfresh .start) hs

/-- Take a node that was started at some time, with a valid configuration, at any point of any
clock-driven run at which no alarm is active, and let a command about the fill request come in. Then
let time pass, by any durations that lead to an instant before the end of the clock, and let
anything happen to the connection meanwhile, and the transport answer as it likes.

All of this can be dealt with to its end, and if no further command comes in, the walk takes the
following course. After a fill request is raised, the gauge has gone down by one at once and by one
more for each interval that has passed, but not below 1, and the timer of the next step is armed
unless the gauge had come to 1 before its latest step was due. After it is withdrawn, nothing moves
until the pause is over, and from then on the gauge goes up by one at once and by one more for each
interval, but not above 100. And the levels that were handed to the transport since the command are
those that the gauge came to, in order. -/
theorem course_of_fill_command (valid : c.validate = .ok ()) (reached : now ≤ clockLimit)
    (ran : ClockRun inputs (launched c session now t) x) (calm : x.1.alarmActive = false)
    {callback : Callback} {on : Bool}
    (brought : callback.command? x.1.pending = some (.fillRequest on)) {rest : List Input}
    (passes : ∃ duration, .advance duration ∈ rest)
    (inRange : x.2.now + elapsed rest < clockLimit) :
    let commanded := respond callback x.1 x.2
    let start := x.1.level.toNat
    let duration := elapsed rest
    let interval := c.stepInterval.toNat
    let pause := c.resumeDelay.toNat
    (∃ x', ClockRun rest commanded x') ∧
      ∀ x', ClockRun rest commanded x' → x'.2.commands = commanded.2.commands →
        let level := x'.1.level.toNat
        let armed (role : TimerRole) : Prop := x'.2.timers.isArmed role
        let texts := textsOn .level x'.2.attempts
        x'.2.now = x.2.now + duration ∧
        (on = true →
          level = max 1 (start - 1 - duration / interval) ∧
          (armed .decrease ↔ 1 < start - duration / interval) ∧
          texts = ((List.range (start - level)).map fun k => toString (start - 1 - k)).reverse ++
            textsOn .level x.2.attempts) ∧
        (on = false →
          (duration < pause → level = start ∧ armed .resume) ∧
          (pause ≤ duration →
            level = min 100 (start + 1 + (duration - pause) / interval) ∧
            (armed .increase ↔ start + (duration - pause) / interval < 100) ∧ ¬ armed .resume) ∧
          texts = ((List.range (level - start)).map fun k => toString (start + 1 + k)).reverse ++
            textsOn .level x.2.attempts) := by
  intro commanded start duration interval pause
  have hinterval := Config.stepInterval_pos valid
  have hkeeps : Keeps c x.1 := (Keeps.launched c session now t).clockRun ran
  have habreast := abreast_of_clockRun ran
  obtain ⟨_, hchronicled⟩ := exists_chronicle_of_clockRun ran (.launched reached t)
  have hregular : Regular commanded :=
    hchronicled.regular.callback (by cases callback <;> first | rfl | cases brought)
  have hnow : commanded.2.now = x.2.now :=
    (acted_respond x.1 x.2 hkeeps.settled callback).now_eq
  have hinRange : commanded.2.now + elapsed rest < clockLimit := hnow ▸ inRange
  refine ⟨exists_clockRun (hkeeps.respond callback x.2) (Config.reconnectLong_pos valid) rest
    hinRange, fun x' hran hsilent => ?_⟩
  cases on with
  | true =>
    obtain ⟨steps, hunderway, hthere, hdue⟩ :=
      (underway_of_raised hkeeps habreast calm brought).clockRun hregular hran hsilent hinRange
    rw [hnow] at hthere
    have hcourse := hunderway.downward (hdue (.inl passes)) hinterval x.1.gauge.one_le_level
      (hthere ▸ Nat.le_add_right _ _)
    rw [hthere, Nat.add_sub_cancel_left] at hcourse
    exact ⟨hthere, fun _ => hcourse, nofun⟩
  | false =>
    obtain ⟨steps, hunderway, hthere, hdue⟩ :=
      (underway_of_withdrawn hkeeps habreast calm brought).clockRun hregular hran hsilent hinRange
    rw [hnow] at hthere
    obtain ⟨hwaits, hwalks, htold⟩ := hunderway.upward (hdue (.inl passes)) hinterval
      x.1.gauge.level_le_hundred
    rw [hthere, Nat.add_lt_add_iff_left] at hwaits
    rw [hthere, Nat.add_le_add_iff_left, Nat.add_sub_add_left] at hwalks
    refine ⟨hthere, nofun, fun _ => ⟨hwaits, fun hover => ?_, htold⟩⟩
    obtain ⟨hlevel, hincrease, hresume⟩ := hwalks hover
    exact ⟨hlevel, hincrease, Bool.eq_false_iff.mp hresume⟩

end

/-- A full gauge that is asked to fill goes down by four in 35 milliseconds, although the connection
is lost meanwhile. When the request is withdrawn, it goes up by two within fifteen milliseconds
after the pause. -/
theorem course_of_fill_request_and_end :
    let start : Node × Site Scripted := launched {} (Bench.session {}) 0 {}
    let raised := respond (.command (.fillRequest true)) start.1 start.2
    let lost := respond (.connection .disconnected) raised.1 raised.2
    let down := advance 128 35 lost
    let withdrawn := respond (.command (.fillRequest false)) down.1 down.2
    let up := advance 128 5015 withdrawn
    ClockRun [.command (.fillRequest true), .connection .disconnected, .advance 35] start down ∧
      down.1.level.toNat = 96 ∧ down.2.timers.isArmed .decrease ∧
      textsOn .level down.2.attempts = ["96", "97", "98", "99"] ++ textsOn .level start.2.attempts ∧
      up.1.level.toNat = 98 ∧ up.2.timers.isArmed .increase ∧ ¬ up.2.timers.isArmed .resume ∧
      textsOn .level up.2.attempts = ["98", "97"] ++ textsOn .level down.2.attempts := by
  intro start raised lost down withdrawn up
  have hdown : ClockRun [.connection .disconnected, .advance 35] raised down :=
    .callback rfl (.advance 128 (by decide +kernel) .nil)
  have hran : ClockRun [.command (.fillRequest true), .connection .disconnected, .advance 35]
      start down := .callback rfl hdown
  have hup : ClockRun [.advance 5015] withdrawn up := .advance 128 (by decide +kernel) .nil
  have hraised : (Callback.command (.fillRequest true)).command? start.1.pending =
      some (.fillRequest true) := rfl
  have hpasses : ∃ duration, Input.advance duration ∈
      [.connection .disconnected, .advance 35] := ⟨35, by decide⟩
  have hwithdrawn : (Callback.command (.fillRequest false)).command? down.1.pending =
      some (.fillRequest false) := rfl
  have hpasses' : ∃ duration, Input.advance duration ∈ [.advance 5015] := ⟨5015, by decide⟩
  have hvalid : ({} : Config).validate = .ok () := by decide +kernel
  obtain ⟨-, hcourse⟩ := course_of_fill_command hvalid (Nat.zero_le clockLimit) .nil
    (by decide +kernel) hraised hpasses (by decide +kernel)
  obtain ⟨-, hemptied, -⟩ := hcourse down hdown (by decide +kernel)
  obtain ⟨hlow, hdecrease, htold⟩ := hemptied rfl
  obtain ⟨-, hcourse'⟩ := course_of_fill_command hvalid (Nat.zero_le clockLimit) hran
    (by decide +kernel) hwithdrawn hpasses' (by decide +kernel)
  obtain ⟨-, -, hrefilled⟩ := hcourse' up hup (by decide +kernel)
  obtain ⟨-, hover, htold'⟩ := hrefilled rfl
  obtain ⟨hhigh, hincrease, hresume⟩ := hover (by decide +kernel)
  have hdownLevel : down.1.level.toNat = 96 := hlow.trans (by decide +kernel)
  have hupLevel : up.1.level.toNat = 98 := hhigh.trans (by decide +kernel)
  refine ⟨hran, hdownLevel, hdecrease.mpr (by decide +kernel), ?_, hupLevel,
    hincrease.mpr (by decide +kernel), hresume, ?_⟩
  · rw [htold, hdownLevel]
    exact congrArg (· ++ textsOn .level start.2.attempts) (by decide +kernel)
  · rw [htold', hupLevel]
    exact congrArg (· ++ textsOn .level down.2.attempts) (by decide +kernel)

end Node

end TankGauge
