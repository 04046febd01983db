import Mathlib.Data.List.Perm.Subperm
import TankGauge.Proofs.Outbound
import TankGauge.Proofs.Refusals

/-!
# How often timers fire

A timer that fires is disarmed, and at most one timer is armed in return: the one of the next step,
which costs the gauge one unit of the way that it has left, or the one of the next attempt, which
costs a refusal (`Node.Fires`). So while nothing comes in, the timers that are armed and the way
that the gauge has left bound how often timers fire, except for refusals (`Node.firingsLeft`).

Refusals are paid for by time. If the next attempt waits at all and the clock has not come to its
end, each attempt that is refused falls due later than the one before, so that only so many of them
fit in before an instant (`Node.firingsLeftUntil`).

Either way a loop that fires what is due until an instant comes to its end
(`Node.exists_drains_of_refusals_le`, `Node.exists_drains_of_waits`), and then its limit does not
matter any more (`Node.Drains.exists_fireDue`).
-/

namespace TankGauge

/-! ## The way that is left -/

/-- How many steps there are in a direction before the end of the scale. -/
def Direction.room : Direction → Nat → Nat
  | .decrease, level => level - 1
  | .increase, level => 100 - level

/-- The level that so many steps lead to. -/
def Direction.reach : Direction → Nat → Nat → Nat
  | .decrease, level, steps => max 1 (level - steps)
  | .increase, level, steps => min 100 (level + steps)

theorem Direction.room_reach (d : Direction) (level steps : Nat) :
    d.room (d.reach level steps) = d.room level - steps := by
  cases d with
  | decrease =>
    show max 1 (level - steps) - 1 = level - 1 - steps
    omega
  | increase =>
    show 100 - min 100 (level + steps) = 100 - level - steps
    omega

/-- How many steps a mode takes from a level. -/
def Mode.stepsLeft (mode : Mode) (level : UInt8) : Nat :=
  match mode with
  | .emptying => Direction.decrease.room level.toNat
  | .refilling => Direction.increase.room level.toNat
  | .idle | .alarmed => 0

theorem Direction.stepsLeft_mode (d : Direction) (level : UInt8) :
    d.mode.stepsLeft level = d.room level.toNat := by
  cases d <;> rfl

namespace Gauge

variable (g : Gauge) (d : Direction)

theorem one_le_level : 1 ≤ g.level.toNat := g.lowest_le

theorem level_le_hundred : g.level.toNat ≤ 100 := g.le_highest

/-- There is room for a step exactly before the end of the scale. -/
theorem room_eq_zero_iff : d.room g.level.toNat = 0 ↔ g.level = d.boundary := by
  have hlow := g.one_le_level
  have hhigh := g.level_le_hundred
  rw [← UInt8.toNat_inj]
  cases d with
  | decrease =>
    show g.level.toNat - 1 = 0 ↔ g.level.toNat = 1
    omega
  | increase =>
    show 100 - g.level.toNat = 0 ↔ g.level.toNat = 100
    omega

variable {g d}

theorem toNat_next (h : g.level ≠ d.boundary) :
    (d.next g.level).toNat = d.reach g.level.toNat 1 := by
  have hroom := (g.room_eq_zero_iff d).not.mpr h
  have hlow := g.one_le_level
  have hhigh := g.level_le_hundred
  cases d with
  | decrease =>
    replace hroom : g.level.toNat - 1 ≠ 0 := hroom
    show (g.level - 1).toNat = max 1 (g.level.toNat - 1)
    rw [UInt8.toNat_sub_of_le _ _ g.lowest_le]
    show g.level.toNat - 1 = max 1 (g.level.toNat - 1)
    omega
  | increase =>
    replace hroom : 100 - g.level.toNat ≠ 0 := hroom
    show (g.level + 1).toNat = min 100 (g.level.toNat + 1)
    rw [UInt8.toNat_add, Nat.mod_eq_of_lt (by simp only [UInt8.reduceToNat]; omega)]
    show g.level.toNat + 1 = min 100 (g.level.toNat + 1)
    omega

/-- A step takes up one unit of the room. -/
theorem room_next (h : g.level ≠ d.boundary) :
    d.room (d.next g.level).toNat + 1 = d.room g.level.toNat := by
  rw [toNat_next h, d.room_reach]
  exact Nat.sub_one_add_one ((g.room_eq_zero_iff d).not.mpr h)

theorem stepsLeft_le (g : Gauge) (mode : Mode) : mode.stepsLeft g.level ≤ 99 := by
  have hlow := g.one_le_level
  have hhigh := g.level_le_hundred
  cases mode with
  | idle | alarmed => exact Nat.zero_le 99
  | emptying => exact Nat.sub_le_sub_right hhigh 1
  | refilling => exact Nat.sub_le_sub_left hlow 100

end Gauge

/-! ## The timers that are armed -/

namespace TimerQueue

variable (q : TimerQueue)

theorem nodup_armed : q.armed.Nodup := (by decide : TimerRole.all.Nodup).filter q.isArmed

theorem size_le : q.size ≤ 5 := List.length_filter_le q.isArmed TimerRole.all

theorem mem_armed {role : TimerRole} : role ∈ q.armed ↔ q.isArmed role :=
  List.mem_filter.trans (and_iff_right role.mem_all)

theorem size_cancel_lt {role : TimerRole} (armed : q.isArmed role) :
    (q.cancel role).size < q.size := by
  have hleft : (q.cancel role).armed = q.armed.filter (· != role) := by
    rw [TimerQueue.armed, TimerQueue.armed, List.filter_filter]
    exact List.filter_congr (fun other _ => q.isArmed_cancel role other)
  rw [size, hleft]
  refine List.length_filter_lt_length_iff_exists.mpr ⟨role, q.mem_armed.mpr armed, ?_⟩
  simp

theorem size_schedule_le (role : TimerRole) (delay : UInt32) (now : Nat) :
    (q.schedule role delay now).size ≤ q.size + 1 := by
  have hmore : (q.schedule role delay now).armed ⊆ role :: q.armed := by
    intro other hmem
    rw [mem_armed, isArmed_schedule, Bool.or_eq_true, beq_iff_eq] at hmem
    exact List.mem_cons.mpr (hmem.imp_right q.mem_armed.mpr)
  exact ((nodup_armed _).subperm hmore).length_le

end TimerQueue

/-! ## What a timer that goes off leads to -/

/-- How many calls for a session were refused. -/
def Site.refusals {τ : Type} (s : Site τ) : Nat := s.connectAnswers.countP (· != .taken)

namespace Node

open Site

variable {τ : Type}

/-- What becomes of a node whose timer goes off, as far as timers and their like are concerned. The
node stays in its mode. -/
inductive Fires (n : Node) (s : Site τ) (role : TimerRole) (x' : Node × Site τ) : Prop
  /-- No timer is armed. -/
  | rests (mode : x'.1.mode = n.mode) (level : x'.1.level = n.level)
      (timers : x'.2.timers = s.timers) (refusals : x'.2.refusals = s.refusals)
  /-- The gauge moves by one, and the next step is planned. -/
  | walks (d : Direction) (walking : n.mode = d.mode) (away : n.level ≠ d.boundary)
      (mode : x'.1.mode = n.mode) (level : x'.1.level = d.next n.level)
      (timers : x'.2.timers = s.timers.schedule d.timer n.stepInterval s.now)
      (refusals : x'.2.refusals = s.refusals)
  /-- A session is refused, and the next attempt is planned. -/
  | retries (asked : role = .reconnect) (mode : x'.1.mode = n.mode)
      (level : x'.1.level = n.level)
      (timers : x'.2.timers = s.timers.schedule .reconnect n.connection.longDelay s.now)
      (refusals : x'.2.refusals = s.refusals + 1)

/-- How many timers are armed, and how many steps there are still to take. -/
def firingsLeft (x : Node × Site τ) : Nat := x.1.mode.stepsLeft x.1.level + x.2.timers.size

/-- How many attempts there is time for until an instant, if each of them waits at all. -/
def attemptsUntil (target : Nat) (s : Site τ) : Nat :=
  (s.timers.deadline? .reconnect).elim 0 fun deadline => target + 1 - max s.now deadline

/-- How many timers may fire until an instant, if each attempt waits at all. -/
def firingsLeftUntil (target : Nat) (x : Node × Site τ) : Nat :=
  firingsLeft x + attemptsUntil target x.2

theorem firingsLeft_le (x : Node × Site τ) : firingsLeft x ≤ 104 :=
  Nat.add_le_add (x.1.gauge.stepsLeft_le x.1.mode) x.2.timers.size_le

/-- At the present, there is time for one attempt at most. -/
theorem firingsLeftUntil_now_le (x : Node × Site τ) : firingsLeftUntil x.2.now x ≤ 105 := by
  have hattempts : attemptsUntil x.2.now x.2 ≤ 1 := by
    unfold attemptsUntil
    cases x.2.timers.deadline? .reconnect with
    | none => exact Nat.zero_le 1
    | some deadline =>
      show x.2.now + 1 - max x.2.now deadline ≤ 1
      omega
  exact Nat.add_le_add (firingsLeft_le x) hattempts

section

variable [Transport τ] (n : Node) (s : Site τ)

theorem refusals_step (d : Direction) : (n.step d s).2.refusals = s.refusals :=
  congrArg (List.countP _) (view_step n s _ Entry.connectAnswer?_of_isWork d)

theorem refusals_announce : (n.announce s).2.refusals = s.refusals := by
  refine congrArg (List.countP _) ?_
  show (n.announce s).2.connectAnswers = _
  rw [← answers_link, link_announce]
  exact answers_link (n, s)

theorem fires_connect : n.Fires s .reconnect (n.connect s) := by
  have hanswers := connectAnswers_connect (s := s) n
  by_cases hstatus : n.connection.status = .disconnected
  · rw [if_pos hstatus] at hanswers
    let asking : Connection :=
      { n.connection with status := .connecting, attempts := n.connection.attempts + 1 }
    have hconnect : n.connect s =
        ({ n with connection :=
            (asking.answered ((n.connection.asking s).connect n.connection.session)).1 },
          (asking.answered ((n.connection.asking s).connect n.connection.session)).2) := by
      unfold connect
      rw [Connection.connect_of_disconnected hstatus]
    have htimers : ((n.connection.asking s).connect n.connection.session).2.timers = s.timers := rfl
    have hnow : ((n.connection.asking s).connect n.connection.session).2.now = s.now := rfl
    rcases hcall : (n.connection.asking s).connect n.connection.session with ⟨_ | reason, s'⟩ <;>
      rw [hcall] at hanswers htimers hnow hconnect
    · refine .rests (by rw [hconnect]; rfl) (by rw [hconnect]; rfl) ?_ ?_
      · rw [hconnect]
        exact htimers
      · rw [refusals, hanswers]
        rfl
    · refine .retries rfl (by rw [hconnect]; rfl) (by rw [hconnect]; rfl) ?_ ?_
      · rw [hconnect, ← htimers, ← hnow]
        exact timers_schedule _ _ _
      · rw [refusals, hanswers]
        exact List.countP_cons_of_pos rfl
  · rw [if_neg hstatus] at hanswers
    have hconnect : n.connect s = (n, s.note (.connectRefused n.connection.status)) := by
      unfold connect
      rw [Connection.connect_of_ne_disconnected hstatus]
    rw [hconnect]
    exact .rests rfl rfl rfl rfl

/-- Whenever a timer goes off, at most one is armed in return, and it is paid for. -/
theorem fires (role : TimerRole) : n.Fires s role (n.onTimer role s) := by
  cases hdirection : role.direction? n.mode with
  | some d =>
    rw [onTimer_of_direction n s d hdirection]
    have hmode : (n.step d s).1.mode = n.mode := by rw [fst_step]; rfl
    have htimers := timers_step n s d
    by_cases h : n.level = d.boundary
    · rw [if_pos h] at htimers
      exact .rests hmode (level_step_of_boundary n s d h) htimers (refusals_step n s d)
    · rw [if_neg h] at htimers
      exact .walks d (TimerRole.mode_of_direction? hdirection) h hmode
        (level_step_of_ne_boundary n s d h) htimers (refusals_step n s d)
  | none =>
    by_cases hwalk : role.isWalk
    · rw [onTimer_of_stale n s hwalk hdirection]
      exact .rests rfl rfl rfl rfl
    · cases role with
      | decrease | increase | resume => exact absurd rfl hwalk
      | reconnect => exact fires_connect n s
      | announce =>
        refine .rests rfl rfl ?_ (refusals_announce n s)
        show (n.announce s).2.timers = s.timers
        rw [snd_announce, timers_send]

end

/-! ## The delays that a node keeps -/

end Node

namespace Config

variable {c : Config}

theorem holds_of_validate (valid : c.validate = .ok ()) (r : Rule) : r.holds c := by
  unfold validate at valid
  cases hbroken : c.firstBroken? with
  | some r =>
    rw [hbroken] at valid
    cases valid
  | none =>
    have hkept := List.find?_eq_none.mp hbroken r (by cases r <;> decide)
    simpa using hkept

theorem stepInterval_pos (valid : c.validate = .ok ()) : 0 < c.stepInterval :=
  of_decide_eq_true (holds_of_validate valid .stepPositive)

theorem reconnectLong_pos (valid : c.validate = .ok ()) : 0 < c.reconnectLong :=
  UInt32.lt_of_lt_of_le (of_decide_eq_true (holds_of_validate valid .shortPositive))
    (of_decide_eq_true (holds_of_validate valid .longNotShorter))

end Config

namespace Node

open Site

variable {τ : Type}

/-- A node between two callbacks that keeps the delays of a configuration. -/
structure Keeps (c : Config) (n : Node) : Prop where
  settled : n.Settled
  interval : n.stepInterval = c.stepInterval
  pause : n.machine.pause = c.resumeDelay
  long : n.connection.longDelay = c.reconnectLong

theorem keeps_ofConfig (c : Config) (session : SessionParams) : Keeps c (ofConfig c session) :=
  ⟨settled_ofConfig c session, rfl, rfl, rfl⟩

section

variable [Transport τ]

theorem stepInterval_respond (n : Node) (s : Site τ) (settled : n.Settled) (c : Callback) :
    (respond c n s).1.stepInterval = n.stepInterval := by
  have heffects (n : Node) (s : Site τ) (effects : List Effect) :
      (n.applyEffects s effects).1.stepInterval = n.stepInterval := by
    obtain ⟨gauge, policy, h⟩ := fst_applyEffects n s effects
    rw [h]
  have h := responds n s settled c
  generalize respond c n s = result at h ⊢
  cases h with
  | aside | announces => rfl
  | walks => rw [fst_step]
  | @obeys _ s' command pending =>
    rw [handleCommand_eq { n with pending } s' settled, heffects]
  | starts => exact heffects n _ _

end

end Node

namespace Connection

variable {τ : Type} [Transport τ] (c : Connection) (s : Site τ)

theorem longDelay_connect : (c.connect s).1.longDelay = c.longDelay := by
  by_cases h : c.status = .disconnected
  · rw [connect_of_disconnected h]
    rcases (c.asking s).connect c.session with ⟨_ | reason, s'⟩ <;> rfl
  · rw [connect_of_ne_disconnected h]

theorem longDelay_onEvent (topics : Topics) (event : ConnectionEvent) :
    (c.onEvent topics event s).1.longDelay = c.longDelay := by
  unfold onEvent
  split <;> rfl

end Connection

namespace Node

open Site

variable {τ : Type} [Transport τ]

theorem longDelay_respond (n : Node) (s : Site τ) (settled : n.Settled) (c : Callback) :
    (respond c n s).1.connection.longDelay = n.connection.longDelay := by
  by_cases htank : c.isTank
  · rw [(acted_respond_of_tank n s settled htank).1]
  · cases c with
    | topic | payload | command => exact absurd rfl htank
    | connection event => exact Connection.longDelay_onEvent n.connection s n.topics event
    | start =>
      obtain ⟨n', s', hstart, -, hconnection, -⟩ := acted_started n s settled
      show (n.start s).1.connection.longDelay = _
      rw [hstart, ← hconnection]
      exact Connection.longDelay_connect n'.connection s'
    | timer role =>
      cases role with
      | decrease | increase | resume => exact absurd rfl htank
      | reconnect => exact Connection.longDelay_connect n.connection s
      | announce => rfl

namespace Keeps

variable {c : Config} {x x' : Node × Site τ}

theorem respond (h : Keeps c x.1) (callback : Callback) (s : Site τ) :
    Keeps c (respond callback x.1 s).1 where
  settled := settled_respond x.1 s callback h.settled
  interval := (stepInterval_respond x.1 s h.settled callback).trans h.interval
  pause := by
    rw [(responds x.1 s h.settled callback).machine_eq h.settled]
    cases callback.command? x.1.pending with
    | none => exact h.pause
    | some command => exact h.pause
  long := (longDelay_respond x.1 s h.settled callback).trans h.long

theorem run (h : Keeps c x.1) (hs : List (Happening τ)) :
    Keeps c (TankGauge.run Node.respond x hs).1 := by
  refine run_invariant (P := fun x : Node × Site τ => Keeps c x.1) (fun happening _ x hx => ?_) h
  obtain ⟨s', -, ⟨happly, -⟩ | ⟨callback, happly, -⟩⟩ := apply_cases happening x.1 x.2
  · rw [show happening.apply Node.respond x = _ from happly]
    exact hx
  · rw [show happening.apply Node.respond x = _ from happly]
    exact hx.respond callback s'

theorem drains (h : Keeps c x.1) {target : Nat} (drained : Drains target x x') : Keeps c x'.1 := by
  induction drained with
  | done => exact h
  | @fire x _ role _ _ _ _ ih => exact ih (h.respond (.timer role) _)

theorem launched (c : Config) (session : SessionParams) (now : Nat) (t : τ) :
    Keeps c (launched c session now t).1 :=
  (keeps_ofConfig c session).respond (x := fresh c session now t) .start _

theorem clockRun (h : Keeps c x.1) {inputs : List Input} (ran : ClockRun inputs x x') :
    Keeps c x'.1 := by
  obtain ⟨hs, rfl⟩ := exists_run_of_clockRun ran
  exact h.run hs

end Keeps

/-! ## What is left to fire -/

section

variable {c : Config} {x : Node × Site τ} {target deadline : Nat} {role : TimerRole}
  {rest : TimerQueue}

omit [Transport τ] in
theorem Fires.firingsLeft_le {n : Node} {s : Site τ} {x' : Node × Site τ}
    (h : n.Fires s role x') :
    firingsLeft x' + s.refusals ≤ firingsLeft (n, s) + x'.2.refusals := by
  unfold firingsLeft
  cases h with
  | rests mode level timers refusals => rw [mode, level, timers, refusals]
  | walks d walking away mode level timers refusals =>
    have hroom := Gauge.room_next away
    have hsize := s.timers.size_schedule_le d.timer n.stepInterval s.now
    replace hroom : d.room (d.next n.level).toNat + 1 = d.room n.level.toNat := hroom
    rw [mode, level, timers, refusals, walking, d.stepsLeft_mode, d.stepsLeft_mode]
    show _ ≤ d.room n.level.toNat + s.timers.size + s.refusals
    omega
  | retries asked mode level timers refusals =>
    have hsize := s.timers.size_schedule_le .reconnect n.connection.longDelay s.now
    rw [mode, level, timers, refusals]
    show _ ≤ n.mode.stepsLeft n.level + s.timers.size + (s.refusals + 1)
    omega

/-- A timer that goes off uses up what is left, unless a session is refused. -/
theorem firingsLeft_onTimer (first : x.2.timers.pop? target = some (role, deadline, rest)) :
    firingsLeft (x.1.onTimer role (x.2.fired role deadline)) + 1 + x.2.refusals ≤
      firingsLeft x + (x.1.onTimer role (x.2.fired role deadline)).2.refusals := by
  obtain ⟨t, hslot, -⟩ := TimerQueue.eq_of_pop? first
  have hcancel := x.2.timers.size_cancel_lt (show x.2.timers.isArmed role by
    rw [TimerQueue.isArmed, hslot]
    rfl)
  have hfires := (fires x.1 (x.2.fired role deadline) role).firingsLeft_le
  have hfired : firingsLeft (x.1, x.2.fired role deadline) + 1 ≤ firingsLeft x :=
    Nat.add_le_add_left hcancel _
  have hrefusals : (x.2.fired role deadline).refusals = x.2.refusals := rfl
  omega

/-- If an attempt waits at all, a session that is refused uses up time. -/
theorem attemptsUntil_onTimer (keeps : Keeps c x.1) (waits : 0 < c.reconnectLong)
    (reached : x.2.now ≤ target) (inRange : target < clockLimit)
    (first : x.2.timers.pop? target = some (role, deadline, rest)) :
    attemptsUntil target (x.1.onTimer role (x.2.fired role deadline)).2 +
        (x.1.onTimer role (x.2.fired role deadline)).2.refusals ≤
      attemptsUntil target x.2 + x.2.refusals := by
  obtain ⟨t, hslot, rfl, hdue, -⟩ := TimerQueue.eq_of_pop? first
  have harmed : x.2.timers.deadline? role = some t.deadline := by
    rw [TimerQueue.deadline?, hslot]
    rfl
  let fired := x.2.fired role t.deadline
  have hnow : (x.1.onTimer role fired).2.now = max x.2.now t.deadline :=
    (acted_respond x.1 fired keeps.settled (.timer role)).now_eq
  have hleft : fired.timers.deadline? .reconnect =
      if .reconnect = role then none else x.2.timers.deadline? .reconnect :=
    TimerQueue.deadline?_cancel x.2.timers role .reconnect
  -- What is not armed anew has no more time left than it had.
  have hkept (h : (x.1.onTimer role fired).2.timers.deadline? .reconnect =
      fired.timers.deadline? .reconnect) :
      attemptsUntil target (x.1.onTimer role fired).2 ≤ attemptsUntil target x.2 := by
    unfold attemptsUntil
    rw [h, hleft, hnow]
    split
    · exact Nat.zero_le _
    · cases x.2.timers.deadline? .reconnect with
      | none => exact Nat.le_refl _
      | some deadline =>
        show target + 1 - max (max x.2.now t.deadline) deadline ≤
          target + 1 - max x.2.now deadline
        omega
  cases fires x.1 fired role with
  | rests _ _ timers refusals =>
    rw [show (x.1.onTimer role fired).2.refusals = x.2.refusals from refusals]
    exact Nat.add_le_add_right (hkept (by rw [timers])) _
  | walks d _ _ _ _ timers refusals =>
    rw [show (x.1.onTimer role fired).2.refusals = x.2.refusals from refusals]
    refine Nat.add_le_add_right (hkept ?_) _
    rw [timers, TimerQueue.deadline?_schedule, if_neg (by cases d <;> decide)]
  | retries asked _ _ timers refusals =>
    subst asked
    have hwaits : 0 < c.reconnectLong.toNat := waits
    have hplanned : (x.1.onTimer .reconnect fired).2.timers.deadline? .reconnect =
        some (min (max x.2.now t.deadline + c.reconnectLong.toNat) clockLimit) := by
      rw [timers, TimerQueue.deadline?_schedule, if_pos rfl, instantAfter, keeps.long]
      rfl
    unfold attemptsUntil
    rw [hplanned, harmed, hnow, show (x.1.onTimer .reconnect fired).2.refusals = _ from refusals]
    show target + 1 - max (max x.2.now t.deadline)
        (min (max x.2.now t.deadline + c.reconnectLong.toNat) clockLimit) + (x.2.refusals + 1) ≤
      target + 1 - max x.2.now t.deadline + x.2.refusals
    omega

/-- If an attempt waits at all, a timer that goes off uses up what is left until an instant. -/
theorem firingsLeftUntil_onTimer (keeps : Keeps c x.1) (waits : 0 < c.reconnectLong)
    (reached : x.2.now ≤ target) (inRange : target < clockLimit)
    (first : x.2.timers.pop? target = some (role, deadline, rest)) :
    firingsLeftUntil target (x.1.onTimer role (x.2.fired role deadline)) + 1 ≤
      firingsLeftUntil target x := by
  have hfirings := firingsLeft_onTimer first
  have hattempts := attemptsUntil_onTimer keeps waits reached inRange first
  unfold firingsLeftUntil
  omega

end

/-! ## The loop comes to its end -/

section

variable {target : Nat} {x x' : Node × Site τ}

theorem fireDue_of_idle (idle : x.2.timers.pop? target = none) (limit : Nat) :
    fireDue onTimer target limit x.1 x.2 = x := by
  cases limit with
  | zero => rfl
  | succ limit => simp only [fireDue, idle]

theorem fireDue_succ {role : TimerRole} {deadline : Nat} {rest : TimerQueue}
    (first : x.2.timers.pop? target = some (role, deadline, rest)) (limit : Nat) :
    fireDue onTimer target (limit + 1) x.1 x.2 =
      fireDue onTimer target limit (x.1.onTimer role (x.2.fired role deadline)).1
        (x.1.onTimer role (x.2.fired role deadline)).2 := by
  obtain ⟨-, -, -, -, rfl⟩ := TimerQueue.eq_of_pop? first
  simp only [fireDue, first]
  rfl

theorem Drains.idle (h : Drains target x x') : x'.2.timers.pop? target = none := by
  induction h with
  | done idle => exact idle
  | fire _ _ ih => exact ih

/-- If timers fire until none is due, so does the loop, whatever its limit if it is large enough. -/
theorem Drains.exists_fireDue (h : Drains target x x') :
    ∃ enough, ∀ limit, enough ≤ limit → fireDue onTimer target limit x.1 x.2 = x' := by
  induction h with
  | done idle => exact ⟨0, fun limit _ => fireDue_of_idle idle limit⟩
  | fire first _ ih =>
    obtain ⟨enough, henough⟩ := ih
    refine ⟨enough + 1, fun limit hle => ?_⟩
    obtain ⟨limit, rfl⟩ := Nat.exists_eq_add_one.mpr (Nat.lt_of_lt_of_le (Nat.succ_pos _) hle)
    rw [fireDue_succ first]
    exact henough limit (Nat.le_of_succ_le_succ hle)

variable {I : Node × Site τ → Prop} {m r : Node × Site τ → Nat}

/-- If each firing takes away from the measure `m` of what is left, or else counts as refused in
`r`, then the loop reaches its limit only if what was left and what was refused make up for it. -/
theorem idle_or_le_of_fireDue
    (fire : ∀ {x : Node × Site τ} {role deadline rest}, I x →
      x.2.timers.pop? target = some (role, deadline, rest) →
        I (x.1.onTimer role (x.2.fired role deadline)) ∧
          m (x.1.onTimer role (x.2.fired role deadline)) + 1 + r x ≤
            m x + r (x.1.onTimer role (x.2.fired role deadline)))
    (limit : Nat) (initial : I x) :
    (fireDue onTimer target limit x.1 x.2).2.timers.pop? target = none ∨
      limit + r x ≤ m x + r (fireDue onTimer target limit x.1 x.2) := by
  induction limit generalizing x with
  | zero => exact .inr (by rw [Nat.zero_add]; exact Nat.le_add_left _ _)
  | succ limit ih =>
    cases hpop : x.2.timers.pop? target with
    | none =>
      rw [fireDue_of_idle hpop]
      exact .inl hpop
    | some popped =>
      obtain ⟨role, deadline, rest⟩ := popped
      obtain ⟨hnext, htaken⟩ := fire initial hpop
      rw [fireDue_succ hpop]
      exact (ih hnext).imp_right (fun hle => by omega)

/-- A loop that is refused only so many sessions comes to its end. -/
theorem idle_of_refusals_lt {limit : Nat}
    (few : firingsLeft x + (fireDue onTimer target limit x.1 x.2).2.refusals <
      limit + x.2.refusals) :
    (fireDue onTimer target limit x.1 x.2).2.timers.pop? target = none :=
  (idle_or_le_of_fireDue (I := fun _ => True) (m := firingsLeft) (r := fun x => x.2.refusals)
    (fun _ first => ⟨trivial, firingsLeft_onTimer first⟩) limit trivial).resolve_right
      (Nat.not_le_of_lt few)

/-- A loop whose attempts wait comes to its end, since time is short. -/
theorem idle_of_firingsLeftUntil_lt {c : Config} (keeps : Keeps c x.1)
    (waits : 0 < c.reconnectLong) (reached : x.2.now ≤ target) (inRange : target < clockLimit)
    {limit : Nat}
    (few : firingsLeftUntil target x < limit) :
    (fireDue onTimer target limit x.1 x.2).2.timers.pop? target = none := by
  refine (idle_or_le_of_fireDue (I := fun x => Keeps c x.1 ∧ x.2.now ≤ target)
    (m := firingsLeftUntil target) (r := fun _ => 0) (fun {x role deadline rest} hx first => ?_)
    limit ⟨keeps, reached⟩).resolve_right (Nat.not_le_of_lt few)
  obtain ⟨hkeeps, hreached⟩ := hx
  obtain ⟨-, -, -, hdue, -⟩ := TimerQueue.eq_of_pop? first
  refine ⟨⟨hkeeps.respond (.timer role) _, ?_⟩,
    firingsLeftUntil_onTimer hkeeps waits hreached inRange first⟩
  rw [show (x.1.onTimer role (x.2.fired role deadline)).2.now = max x.2.now deadline from
    (acted_respond x.1 (x.2.fired role deadline) hkeeps.settled (.timer role)).now_eq]
  exact Nat.max_le.mpr ⟨hreached, hdue⟩

/-- If only so many sessions are refused, timers fire until none is due. -/
theorem exists_drains_of_refusals_le {bound : Nat}
    (bounded : ∀ limit, (fireDue onTimer target limit x.1 x.2).2.refusals ≤ bound) :
    ∃ x', Drains target x x' := by
  refine ⟨_, drains_fireDue target (firingsLeft x + bound + 1) x (idle_of_refusals_lt ?_)⟩
  have hle := bounded (firingsLeft x + bound + 1)
  omega

/-- If an attempt waits at all, timers fire until none is due. -/
theorem exists_drains_of_waits {c : Config} (keeps : Keeps c x.1) (waits : 0 < c.reconnectLong)
    (reached : x.2.now ≤ target) (inRange : target < clockLimit) : ∃ x', Drains target x x' :=
  ⟨_, drains_fireDue target _ x
    (idle_of_firingsLeftUntil_lt keeps waits reached inRange (Nat.lt_succ_self _))⟩

end

end Node

end TankGauge
