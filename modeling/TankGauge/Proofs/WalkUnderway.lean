import TankGauge.Proofs.Firings

/-!
# Walks that are underway

A walk is told by how many steps it has taken (`Node.Underway`): they decide the level, what was
told of it, and which timer is armed for which instant. Each timer of the walk that fires adds a
step (`Node.Underway.fire`), and as long as no command comes in, nothing else changes anything about
it.

The gauge takes one more step than there is room for, which does not move it and arms no timer. So a
walk that has taken every step which is due is told by the time that has passed since its first one
(`Node.Underway.steps_eq`), and with it where the gauge is (`Node.Underway.downward`,
`Node.Underway.upward`).
-/

namespace TankGauge

/-! ## Steps on the scale -/

namespace Direction

/-- The levels that the gauge comes to in so many steps, in order, as they are told. -/
def told (d : Direction) (start steps : Nat) : List String :=
  (List.range (min steps (d.room start))).map fun k => toString (d.reach start (k + 1))

/-- The timer that takes a walk on after so many steps. A walk up begins after a pause. -/
def awaits : Direction → Nat → TimerRole
  | .decrease, _ => .decrease
  | .increase, 0 => .resume
  | .increase, _ + 1 => .increase

variable (d : Direction) (start steps : Nat)

theorem reach_succ : d.reach start (steps + 1) = d.reach (d.reach start steps) 1 := by
  cases d with
  | decrease =>
    show max 1 (start - (steps + 1)) = max 1 (max 1 (start - steps) - 1)
    omega
  | increase =>
    show min 100 (start + (steps + 1)) = min 100 (min 100 (start + steps) + 1)
    omega

/-- A step that moves the gauge has its level told, and a step against the end of the scale tells
nothing. -/
theorem told_succ :
    d.told start (steps + 1) = d.told start steps ++
      if d.room start ≤ steps then [] else [toString (d.reach start (steps + 1))] := by
  unfold told
  by_cases hend : d.room start ≤ steps
  · rw [if_pos hend, Nat.min_eq_right hend, Nat.min_eq_right (Nat.le_succ_of_le hend),
      List.append_nil]
  · rw [if_neg hend, Nat.min_eq_left (by omega), Nat.min_eq_left (by omega), List.range_succ,
      List.map_append]
    rfl

theorem awaits_succ : d.awaits (steps + 1) = d.timer := by cases d <;> rfl

theorem direction?_awaits : (d.awaits steps).direction? d.mode = some d := by
  cases d <;> cases steps <;> rfl

theorem isWalk_awaits : (d.awaits steps).isWalk := by cases d <;> cases steps <;> rfl

variable {start}

/-- What is told of a walk down are the levels below its start, down to the one it has come to. -/
theorem told_decrease (inScale : 1 ≤ start) :
    decrease.told start steps = (List.range (start - decrease.reach start steps)).map
      fun k => toString (start - 1 - k) := by
  have hmany : min steps (start - 1) = start - max 1 (start - steps) := by omega
  show (List.range (min steps (start - 1))).map (fun k => toString (max 1 (start - (k + 1)))) =
    (List.range (start - max 1 (start - steps))).map fun k => toString (start - 1 - k)
  rw [hmany]
  refine List.map_congr_left fun k hk => congrArg toString ?_
  have hless := List.mem_range.mp hk
  omega

/-- What is told of a walk up are the levels above its start, up to the one it has come to. -/
theorem told_increase (inScale : start ≤ 100) :
    increase.told start steps = (List.range (increase.reach start steps - start)).map
      fun k => toString (start + 1 + k) := by
  have hmany : min steps (100 - start) = min 100 (start + steps) - start := by omega
  show (List.range (min steps (100 - start))).map (fun k => toString (min 100 (start + (k + 1)))) =
    (List.range (min 100 (start + steps) - start)).map fun k => toString (start + 1 + k)
  rw [hmany]
  refine List.map_congr_left fun k hk => congrArg toString ?_
  have hless := List.mem_range.mp hk
  omega

end Direction

theorem Gauge.toNat_level_step (g : Gauge) (d : Direction) :
    (g.step d).1.level.toNat = d.reach g.level.toNat 1 := by
  by_cases h : g.level = d.boundary
  · rw [step_of_boundary h, h]
    cases d <;> rfl
  · rw [(step_of_ne_boundary h).1]
    exact toNat_next h

theorem TimerQueue.Still.deadline?_eq_none {q : TimerQueue} (h : q.Still) {role : TimerRole}
    (walk : role.isWalk) : q.deadline? role = none := by
  have hdisarmed := h role walk
  rw [isArmed_eq_isSome] at hdisarmed
  exact Option.isNone_iff_eq_none.mp (Option.isSome_eq_false_iff.mp hdisarmed)

namespace Node

open Site

variable {τ : Type}

/-! ## The gauge on its way -/

/-- A gauge that has taken so many steps from a level, with what was told of them. -/
structure Walked (c : Config) (d : Direction) (start : Nat) (before : List String) (steps : Nat)
    (x : Node × Site τ) : Prop where
  keeps : Keeps c x.1
  mode : x.1.mode = d.mode
  level : x.1.level.toNat = d.reach start steps
  told : textsOn .level x.2.attempts = (d.told start steps).reverse ++ before
  abreast : x.1.policy.lastLevel = x.1.level

/-- The timers of a walk that has taken so many steps, the first of them at an instant or to be
taken then: the next step is planned for its time, unless the walk is over. -/
def Planned (c : Config) (d : Direction) (start first steps : Nat) (q : TimerQueue) : Prop :=
  ∀ role, role.isWalk → q.deadline? role =
    if role = d.awaits steps ∧ steps ≤ d.room start then
      some (min (first + steps * c.stepInterval.toNat) clockLimit)
    else none

/-- A walk that has taken so many steps, with the next one planned. -/
structure Underway (c : Config) (d : Direction) (start : Nat) (before : List String)
    (first steps : Nat) (x : Node × Site τ) : Prop
    extends Walked c d start before steps x where
  planned : Planned c d start first steps x.2.timers
  /-- No step was taken before its time. -/
  begun : ∀ k, steps = k + 1 → first + k * c.stepInterval.toNat ≤ x.2.now
  /-- At most one step was taken against the end of the scale. -/
  within : steps ≤ d.room start + 1

section

variable {c : Config} {d : Direction} {start first steps : Nat} {before : List String}
  {x x' : Node × Site τ}

/-- The gauge has come to the end of the scale when there is no room for more steps. -/
theorem Walked.boundary_iff (h : Walked c d start before steps x) :
    x.1.level = d.boundary ↔ d.room start ≤ steps := by
  rw [show x.1.level = x.1.gauge.level from rfl, ← x.1.gauge.room_eq_zero_iff,
    show x.1.gauge.level.toNat = _ from h.level, d.room_reach]
  exact Nat.sub_eq_zero_iff_le

/-- Nothing but the steps themselves counts. -/
theorem Walked.congr (h : Walked c d start before steps x) (keeps : Keeps c x'.1)
    (mode : x'.1.mode = x.1.mode) (level : x'.1.level = x.1.level)
    (told : textsOn .level x'.2.attempts = textsOn .level x.2.attempts)
    (abreast : x'.1.policy.lastLevel = x.1.policy.lastLevel) :
    Walked c d start before steps x' :=
  ⟨keeps, mode.trans h.mode, level ▸ h.level, told.trans h.told, by rw [abreast, level, h.abreast]⟩

theorem Planned.congr {q q' : TimerQueue} (h : Planned c d start first steps q)
    (same : ∀ role, role.isWalk → q'.deadline? role = q.deadline? role) :
    Planned c d start first steps q' :=
  fun role hwalk => (same role hwalk).trans (h role hwalk)

/-- What leaves the gauge, what was told of it and its timers alone leaves the walk underway. -/
theorem Underway.congr (h : Underway c d start before first steps x) (keeps : Keeps c x'.1)
    (mode : x'.1.mode = x.1.mode) (level : x'.1.level = x.1.level)
    (told : textsOn .level x'.2.attempts = textsOn .level x.2.attempts)
    (abreast : x'.1.policy.lastLevel = x.1.policy.lastLevel)
    (timers : ∀ role, role.isWalk → x'.2.timers.deadline? role = x.2.timers.deadline? role)
    (now : x.2.now ≤ x'.2.now) : Underway c d start before first steps x' where
  toWalked := h.toWalked.congr keeps mode level told abreast
  planned := h.planned.congr timers
  begun k hk := Nat.le_trans (h.begun k hk) now
  within := h.within

end

section

variable [Transport τ] {c : Config} {d : Direction} {start first steps : Nat}
  {before : List String} {n : Node} {s : Site τ}

/-- A gauge that steps has taken one more step, and has told of it. -/
theorem Walked.step (h : Walked c d start before steps (n, s)) (role : TimerRole)
    (useful : role.direction? n.mode = some d) :
    Walked c d start before (steps + 1) (n.step d s) := by
  have hlevel : (n.step d s).1.level.toNat = d.reach start (steps + 1) := by
    rw [fst_step, d.reach_succ, ← show n.level.toNat = _ from h.level]
    exact n.gauge.toNat_level_step d
  have habreast : n.policy.lastLevel = n.level := h.abreast
  have htold : textsOn .level s.attempts = (d.told start steps).reverse ++ before := h.told
  refine ⟨?_, ?_, hlevel, ?_, ?_⟩
  · rw [← onTimer_of_direction n s d useful]
    exact h.keeps.respond (x := (n, s)) (.timer role) s
  · rw [fst_step]
    exact h.mode
  · rw [attempts_step, textsOn_send, Policy.texts_level_news, habreast, htold, d.told_succ,
      List.reverse_append, List.append_assoc]
    congr 1
    by_cases hend : d.room start ≤ steps
    · rw [if_pos hend, if_pos (level_step_of_boundary n s d (h.boundary_iff.mpr hend))]
    · have hmoved : (n.step d s).1.level ≠ n.level := by
        intro hsame
        have hroom := d.room_reach start (steps + 1)
        have hroom' := d.room_reach start steps
        rw [← hlevel, hsame, show n.level.toNat = _ from h.level, hroom'] at hroom
        omega
      rw [if_neg hend, if_neg hmoved, hlevel]
  · rw [policy_step]
    rfl

/-- A step that is taken in time, with no timer of the walk armed, leaves the next one planned. -/
theorem Walked.planned_step (h : Walked c d start before steps (n, s))
    (still : s.timers.Still)
    (now : s.now = first + steps * c.stepInterval.toNat) :
    Planned c d start first (steps + 1) (n.step d s).2.timers := by
  intro role hwalk
  have hinterval : n.stepInterval = c.stepInterval := h.keeps.interval
  rw [timers_step, d.awaits_succ]
  by_cases hend : d.room start ≤ steps
  · rw [if_pos (h.boundary_iff.mpr hend), if_neg (fun hmore => by omega)]
    exact still.deadline?_eq_none hwalk
  · rw [if_neg (show n.level ≠ d.boundary from h.boundary_iff.not.mpr hend),
      TimerQueue.deadline?_schedule]
    by_cases htimer : role = d.timer
    · rw [if_pos htimer, if_pos ⟨htimer, by omega⟩, instantAfter, hinterval, now, Nat.succ_mul,
        Nat.add_assoc]
    · rw [if_neg htimer, if_neg (fun hmore => htimer hmore.1)]
      exact still.deadline?_eq_none hwalk

end

/-! ## What happens to a walk -/

namespace Underway

variable [Transport τ] {c : Config} {d : Direction} {start first steps : Nat}
  {before : List String} {x x' : Node × Site τ}

/-- The timer of the walk that fires adds a step. -/
theorem fire (h : Underway c d start before first steps x) (regular : Regular x) {target : Nat}
    (inRange : target < clockLimit) {role : TimerRole} {deadline : Nat} {rest : TimerQueue}
    (next : x.2.timers.pop? target = some (role, deadline, rest)) (hwalk : role.isWalk) :
    Underway c d start before first (steps + 1)
      (x.1.onTimer role (x.2.fired role deadline)) := by
  obtain ⟨-, harmed, hdue, hnow, -⟩ := regular.fired next (Nat.le_of_lt inRange)
  rw [h.planned role hwalk] at harmed
  split at harmed
  case isFalse => cases harmed
  case isTrue hawaited =>
    obtain ⟨rfl, hroom⟩ := hawaited
    have hdeadline : deadline = first + steps * c.stepInterval.toNat := by
      have hmin := Option.some.inj harmed
      omega
    have hwalked : Walked c d start before steps (x.1, x.2.fired (d.awaits steps) deadline) :=
      h.toWalked.congr h.keeps rfl rfl rfl rfl
    have hstill : (x.2.fired (d.awaits steps) deadline).timers.Still := by
      intro role hwalk
      show (x.2.timers.cancel (d.awaits steps)).isArmed role = false
      rw [TimerQueue.isArmed_eq_isSome, TimerQueue.deadline?_cancel]
      by_cases hrole : role = d.awaits steps
      · rw [if_pos hrole]
        rfl
      · rw [if_neg hrole, h.planned role hwalk, if_neg (fun hmore => hrole hmore.1)]
        rfl
    have huseful : (d.awaits steps).direction? x.1.mode = some d := by
      rw [h.mode]
      exact d.direction?_awaits steps
    rw [onTimer_of_direction x.1 _ d huseful]
    refine ⟨hwalked.step _ huseful, hwalked.planned_step hstill (hnow.trans hdeadline),
      fun k hk => ?_, Nat.succ_le_succ hroom⟩
    obtain rfl : k = steps := (Nat.succ.inj hk).symm
    rw [(acted_step x.1 _ d).now_eq, hnow, hdeadline]

/-- A timer of the connection that fires leaves the walk as it is. -/
theorem fire_of_not_isWalk (h : Underway c d start before first steps x) {role : TimerRole}
    (hwalk : role.isWalk = false) (deadline : Nat) :
    Underway c d start before first steps (x.1.onTimer role (x.2.fired role deadline)) := by
  let fired := x.2.fired role deadline
  have hnow : x.2.now ≤ (x.1.onTimer role fired).2.now := by
    rw [show (x.1.onTimer role fired).2.now = fired.now from
      (acted_respond x.1 fired h.keeps.settled (.timer role)).now_eq]
    exact Nat.le_max_left _ _
  have htimers (other : TimerRole) (hother : other.isWalk) :
      fired.timers.deadline? other = x.2.timers.deadline? other := by
    refine (x.2.timers.deadline?_cancel role other).trans (if_neg ?_)
    rintro rfl
    rw [hwalk] at hother
    cases hother
  cases role with
  | decrease | increase | resume => cases hwalk
  | reconnect =>
    have huntouched := Connection.untouched_connect x.1.connection fired
    refine h.congr (h.keeps.respond (.timer .reconnect) fired) rfl rfl ?_ rfl
      (fun other hother => ?_) hnow
    · exact congrArg (textsOn .level) huntouched.attempts
    · rw [← htimers other hother]
      exact congrArg (Option.map _) (huntouched.slots other hother)
  | announce =>
    refine h.congr (h.keeps.respond (.timer .announce) fired) rfl rfl ?_ ?_
      (fun other hother => ?_) hnow
    · show textsOn .level (x.1.announce fired).2.attempts = _
      rw [snd_announce, textsOn_send]
      show (Publication.texts .level (x.1.policy.news x.1.level)).reverse ++ _ = _
      rw [Policy.texts_level_news, if_pos h.abreast.symm]
      rfl
    · exact h.abreast.symm
    · rw [← htimers other hother]
      show (x.1.announce fired).2.timers.deadline? other = _
      rw [snd_announce, timers_send]

/-- What comes in and brings no command leaves the walk as it is. -/
theorem callback (h : Underway c d start before first steps x) {i : Input} {callback : Callback}
    (made : i.callback? = some callback) (silent : callback.command? x.1.pending = none) :
    Underway c d start before first steps (respond callback x.1 x.2) := by
  have hkeeps := h.keeps.respond callback x.2
  have hresponds := responds x.1 x.2 h.keeps.settled callback
  generalize respond callback x.1 x.2 = result at hkeeps hresponds
  cases hresponds with
  | aside connection pending _ _ untouched =>
    refine h.congr hkeeps rfl rfl (congrArg (textsOn .level) untouched.attempts) rfl
      (fun role hwalk => ?_) (Nat.le_of_eq untouched.now.symm)
    exact congrArg (Option.map _) (untouched.slots role hwalk)
  | obeys command pending brought =>
    rw [silent] at brought
    cases brought
  | walks | announces | starts => cases i <;> cases made

/-- While timers fire, a walk that is underway goes on. -/
theorem drains (h : Underway c d start before first steps x) (regular : Regular x) {target : Nat}
    (inRange : target < clockLimit) (drained : Drains target x x') :
    ∃ steps', Underway c d start before first steps' x' := by
  induction drained generalizing steps with
  | done => exact ⟨steps, h⟩
  | @fire x x' role deadline rest next _ ih =>
    obtain ⟨-, -, -, -, hregular⟩ := regular.fired next (Nat.le_of_lt inRange)
    cases hwalk : role.isWalk with
    | true => exact ih (h.fire regular inRange next hwalk) hregular
    | false => exact ih (h.fire_of_not_isWalk hwalk deadline) hregular

end Underway

/-! ## A walk that is on time -/

/-- A walk that has taken every step which is due by an instant. -/
def UpToDate (c : Config) (d : Direction) (start first steps instant : Nat) : Prop :=
  steps ≤ d.room start → instant < first + steps * c.stepInterval.toNat

namespace Underway

variable {c : Config} {d : Direction} {start first steps : Nat} {before : List String}
  {x x' : Node × Site τ}

/-- A walk is on time if none of its timers is due. -/
theorem upToDate (h : Underway c d start before first steps x) {instant : Nat}
    (idle : x.2.timers.pop? instant = none) : UpToDate c d start first steps instant := by
  intro hroom
  have harmed := h.planned (d.awaits steps) (d.isWalk_awaits steps)
  rw [if_pos ⟨rfl, hroom⟩] at harmed
  exact Nat.lt_of_lt_of_le (TimerQueue.lt_of_pop?_eq_none idle harmed) (Nat.min_le_left _ _)

/-- A timer of the walk is armed exactly if it takes the next step and there is room for one. -/
theorem isArmed_iff (h : Underway c d start before first steps x) {role : TimerRole}
    (hwalk : role.isWalk) :
    x.2.timers.isArmed role ↔ role = d.awaits steps ∧ steps ≤ d.room start := by
  rw [TimerQueue.isArmed_eq_isSome, h.planned role hwalk]
  split <;> simp [*]

/-- A walk that is on time has not begun before its first step is due, and from then on it has taken
one step and another for each interval that has passed, as long as there was room. -/
theorem steps_eq (h : Underway c d start before first steps x)
    (upToDate : UpToDate c d start first steps x.2.now) (interval : 0 < c.stepInterval) :
    (x.2.now < first → steps = 0) ∧
      (first ≤ x.2.now →
        steps = min ((x.2.now - first) / c.stepInterval.toNat) (d.room start) + 1) := by
  have hinterval : 0 < c.stepInterval.toNat := interval
  have hwithin := h.within
  cases steps with
  | zero =>
    have hahead : x.2.now < first + 0 * c.stepInterval.toNat := upToDate (Nat.zero_le _)
    exact ⟨fun _ => rfl, fun hlater => by omega⟩
  | succ k =>
    have hbegun : first + k * c.stepInterval.toNat ≤ x.2.now := h.begun k rfl
    have hmade : k ≤ (x.2.now - first) / c.stepInterval.toNat :=
      (Nat.le_div_iff_mul_le hinterval).mpr (Nat.le_sub_of_add_le' hbegun)
    refine ⟨fun hearlier => by omega, fun hlater => congrArg Nat.succ ?_⟩
    by_cases hroom : k + 1 ≤ d.room start
    · have hahead : (x.2.now - first) / c.stepInterval.toNat < k + 1 :=
        (Nat.div_lt_iff_lt_mul hinterval).mpr (Nat.sub_lt_left_of_lt_add hlater (upToDate hroom))
      omega
    · omega

/-- Where a walk down is that is on time. -/
theorem downward (h : Underway c .decrease start before first steps x)
    (upToDate : UpToDate c .decrease start first steps x.2.now) (interval : 0 < c.stepInterval)
    (inScale : 1 ≤ start) (begun : first ≤ x.2.now) :
    x.1.level.toNat = max 1 (start - 1 - (x.2.now - first) / c.stepInterval.toNat) ∧
      (x.2.timers.isArmed .decrease ↔ 1 < start - (x.2.now - first) / c.stepInterval.toNat) ∧
      textsOn .level x.2.attempts =
        ((List.range (start - x.1.level.toNat)).map fun k => toString (start - 1 - k)).reverse ++
          before := by
  have hsteps : steps = min ((x.2.now - first) / c.stepInterval.toNat) (start - 1) + 1 :=
    (h.steps_eq upToDate interval).2 begun
  have hlevel : x.1.level.toNat = max 1 (start - steps) := h.level
  refine ⟨by omega, ?_, ?_⟩
  · rw [h.isArmed_iff rfl]
    show TimerRole.decrease = .decrease ∧ steps ≤ start - 1 ↔ _
    rw [eq_self, true_and]
    omega
  · rw [h.told, Direction.told_decrease steps inScale, ← h.level]

/-- Where a walk up is that is on time. -/
theorem upward (h : Underway c .increase start before first steps x)
    (upToDate : UpToDate c .increase start first steps x.2.now) (interval : 0 < c.stepInterval)
    (inScale : start ≤ 100) :
    (x.2.now < first → x.1.level.toNat = start ∧ x.2.timers.isArmed .resume) ∧
      (first ≤ x.2.now →
        x.1.level.toNat = min 100 (start + 1 + (x.2.now - first) / c.stepInterval.toNat) ∧
        (x.2.timers.isArmed .increase ↔
          start + (x.2.now - first) / c.stepInterval.toNat < 100) ∧
        x.2.timers.isArmed .resume = false) ∧
      textsOn .level x.2.attempts =
        ((List.range (x.1.level.toNat - start)).map fun k => toString (start + 1 + k)).reverse ++
          before := by
  obtain ⟨hwaits, hwalks⟩ := h.steps_eq upToDate interval
  have hlevel : x.1.level.toNat = min 100 (start + steps) := h.level
  refine ⟨fun hearlier => ?_, fun hlater => ?_, ?_⟩
  · obtain rfl := hwaits hearlier
    exact ⟨by omega, (h.isArmed_iff rfl).mpr ⟨rfl, Nat.zero_le _⟩⟩
  · have hsteps : steps = min ((x.2.now - first) / c.stepInterval.toNat) (100 - start) + 1 :=
      hwalks hlater
    have hawaits : Direction.increase.awaits steps = .increase := by
      rw [hsteps]
      rfl
    have hincrease : x.2.timers.isArmed .increase ↔ _ := h.isArmed_iff rfl
    have hresume : x.2.timers.isArmed .resume ↔ _ := h.isArmed_iff rfl
    rw [hawaits] at hincrease hresume
    refine ⟨by omega, ?_, ?_⟩
    · rw [hincrease]
      show TimerRole.increase = .increase ∧ steps ≤ 100 - start ↔ _
      rw [eq_self, true_and]
      omega
    · exact Bool.eq_false_iff.mpr (fun harmed => nomatch (hresume.mp harmed).1)
  · rw [h.told, Direction.told_increase steps inScale, ← h.level]

end Underway

end Node

end TankGauge
