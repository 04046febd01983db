import TankGauge.Proofs.Firings
import TankGauge.Proofs.Sessions

/-!
# The drain of a worker

A poll of a worker ends with a drain: every timer that is due fires, and the clock shows the same
time all along. What is armed meanwhile may be due at once if a delay is zero, so that it takes an
argument that the drain ends (`Worker.drain_ends`).

If the delays of a step and of an attempt are positive, what is armed meanwhile falls due later. So
each role fires once at most (`Node.exists_nodup_of_drains`).
-/

namespace TankGauge

/-! ## Workers that can be reached -/

/-- What becomes of a worker. News may be taken out with no drain behind it, and timers may fire up
to any instant and as many as one likes, so that states within a poll are reached as well. -/
inductive Worker.Reachable {τ : Type} [Transport τ] (c : Config) (session : SessionParams) :
    Worker τ → Prop
  | fresh (now : Nat) (t : τ) :
      Reachable c session { node := .ofConfig c session, site := { now, transport := t } }
  | start {w : Worker τ} (h : Reachable c session w) : Reachable c session w.start
  | receive {w : Worker τ} (h : Reachable c session w) (e : SessionEvent) :
      Reachable c session (w.receive e).2
  | close {w : Worker τ} (h : Reachable c session w) : Reachable c session w.close
  | take {w : Worker τ} (h : Reachable c session w) {e : SessionEvent} {rest : List SessionEvent}
      (waiting : w.inbox = e :: rest) : Reachable c session ({ w with inbox := rest }.dispatch e)
  | fire {w : Worker τ} (h : Reachable c session w) (target limit : Nat) :
      Reachable c session (w.run (fireDue Node.onTimer target limit))
  | clock {w : Worker τ} (h : Reachable c session w) (now : Nat) :
      Reachable c session { w with site := { w.site with now } }
  | transport {w : Worker τ} (h : Reachable c session w) (t : τ) :
      Reachable c session { w with site := { w.site with transport := t } }

namespace Worker.Reachable

variable {τ : Type} [Transport τ] {c : Config} {session : SessionParams} {w : Worker τ}

theorem fireDueTimers (h : Reachable c session w) : Reachable c session w.fireDueTimers :=
  (h.fire w.site.now (Node.firingLimit w.site.transport)).clock w.site.now

/-- A poll leads to what can be reached. -/
theorem poll (h : Reachable c session w) : Reachable c session w.poll.2 := by
  unfold Worker.poll
  split
  · exact (h.take ‹_›).fireDueTimers
  · exact h.fireDueTimers

/-- At all times the node keeps the delays of its configuration. -/
theorem keeps (h : Reachable c session w) : Node.Keeps c w.node := by
  induction h with
  | fresh => exact Node.keeps_ofConfig c session
  | @start w _ ih => exact ih.respond (x := (w.node, w.site)) .start w.site
  | @receive w _ e ih =>
    unfold Worker.receive
    split <;> exact ih
  | close _ ih | clock _ _ ih | transport _ _ ih => exact ih
  | @take w _ e rest _ ih =>
    exact dispatch_invariant { w with inbox := rest } (P := fun x => Node.Keeps c x.1)
      (fun callback x _ hx => hx.respond callback x.2) ih ih
  | @fire w _ target limit ih =>
    obtain ⟨hs, -, hrun⟩ := exists_run_of_fireDue Node.respond target limit (w.node, w.site)
    have hkeeps := ih.run (x := (w.node, w.site)) hs
    rw [← hrun] at hkeeps
    exact hkeeps

end Worker.Reachable

/-! ## No role fires twice -/

namespace Site

variable {τ : Type} [Transport τ]

/-- Whatever is done to a site, no timer goes off. -/
theorem firings_perform (s : Site τ) (a : Action) : (s.perform a).firings = s.firings := by
  cases a with
  | tell | note | subscribe | publish | disarm | connect => rfl
  | arm role delay => exact view_schedule s Entry.fired? (fun _ => rfl) role delay

/-- Whether the timer of a role is due at an instant. -/
def IsDue (s : Site τ) (instant : Nat) (role : TimerRole) : Prop :=
  ∃ deadline, s.timers.deadline? role = some deadline ∧ deadline ≤ instant

end Site

namespace Node

open Site

variable {τ : Type} [Transport τ] {c : Config} {x x' : Node × Site τ} {target : Nat}

theorem firings_onTimer (settled : x.1.Settled) (role : TimerRole) (deadline : Nat) :
    (x.1.onTimer role (x.2.fired role deadline)).2.firings = role :: x.2.firings :=
  (acted_respond x.1 _ settled (.timer role)).frame firings (fun s a _ => firings_perform s a)

/-- When a timer that is due goes off, the clock stands still. -/
theorem now_onTimer (settled : x.1.Settled) (role : TimerRole) {deadline : Nat}
    (due : deadline ≤ x.2.now) :
    (x.1.onTimer role (x.2.fired role deadline)).2.now = x.2.now :=
  ((acted_respond x.1 _ settled (.timer role)).now_eq).trans (Nat.max_eq_left due)

/-- While timers fire that are due, the clock stands still. -/
theorem now_of_drains (h : Drains target x x') (keeps : Keeps c x.1) (now : x.2.now = target) :
    x'.2.now = target := by
  induction h with
  | done => exact now
  | @fire x x' role deadline rest first _ ih =>
    obtain ⟨-, -, -, hdue, -⟩ := TimerQueue.eq_of_pop? first
    subst now
    exact ih (keeps.respond (.timer role) _) (now_onTimer keeps.settled role hdue)

/-- If what is armed when a timer goes off waits at all, then what is due afterwards was due before,
and the timer itself is not. -/
theorem isDue_of_onTimer (keeps : Keeps c x.1) (step : 0 < c.stepInterval)
    (long : 0 < c.reconnectLong)
    (fits : ∀ delay ∈ [c.stepInterval, c.reconnectLong], x.2.now + delay.toNat ≤ clockLimit)
    {role other : TimerRole} {deadline : Nat} (due : deadline ≤ x.2.now)
    (h : (x.1.onTimer role (x.2.fired role deadline)).2.IsDue x.2.now other) :
    x.2.IsDue x.2.now other ∧ other ≠ role := by
  obtain ⟨deadline', harmed, hdue⟩ := h
  have hnow : (x.2.fired role deadline).now = x.2.now := Nat.max_eq_left due
  have hkept (h : (x.2.timers.cancel role).deadline? other = some deadline') :
      x.2.IsDue x.2.now other ∧ other ≠ role := by
    rw [TimerQueue.deadline?_cancel] at h
    split at h
    · cases h
    · exact ⟨⟨deadline', h, hdue⟩, ‹_›⟩
  -- A timer that has just been armed is not due yet.
  have hahead {delay : UInt32} (hmem : delay ∈ [c.stepInterval, c.reconnectLong])
      (waits : 0 < delay) (h : instantAfter (x.2.fired role deadline).now delay = deadline') :
      False := by
    have hwaits : 0 < delay.toNat := waits
    have hfits := fits delay hmem
    rw [instantAfter, hnow, Nat.min_eq_left hfits] at h
    omega
  cases fires x.1 (x.2.fired role deadline) role with
  | rests _ _ timers =>
    rw [timers] at harmed
    exact hkept harmed
  | walks d _ _ _ _ timers =>
    rw [timers, TimerQueue.deadline?_schedule, keeps.interval] at harmed
    split at harmed
    · exact (hahead List.mem_cons_self step (Option.some.inj harmed)).elim
    · exact hkept harmed
  | retries _ _ _ timers =>
    rw [timers, TimerQueue.deadline?_schedule, keeps.long] at harmed
    split at harmed
    · exact (hahead (List.mem_cons_of_mem _ List.mem_cons_self) long
        (Option.some.inj harmed)).elim
    · exact hkept harmed

/-- If what is armed when a timer goes off waits at all, no role fires twice at one time. -/
theorem exists_nodup_of_drains (h : Drains target x x') (keeps : Keeps c x.1)
    (step : 0 < c.stepInterval) (long : 0 < c.reconnectLong) (now : x.2.now = target)
    (fits : ∀ delay ∈ [c.stepInterval, c.reconnectLong], target + delay.toNat ≤ clockLimit) :
    ∃ fired, x'.2.firings = fired ++ x.2.firings ∧ fired.Nodup ∧
      ∀ role ∈ fired, x.2.IsDue target role := by
  induction h with
  | done => exact ⟨[], rfl, List.nodup_nil, nofun⟩
  | @fire x x' role deadline rest first _ ih =>
    obtain ⟨t, hslot, rfl, hdue, -⟩ := TimerQueue.eq_of_pop? first
    subst now
    obtain ⟨later, hlater, hnodup, hwere⟩ :=
      ih (keeps.respond (.timer role) _) (now_onTimer keeps.settled role hdue)
    have hbefore (other : TimerRole) (hmem : other ∈ later) :=
      isDue_of_onTimer keeps step long fits hdue (hwere other hmem)
    refine ⟨later ++ [role], ?_, ?_, ?_⟩
    · rw [hlater, firings_onTimer keeps.settled, List.append_assoc]
      rfl
    · refine List.nodup_append.mpr ⟨hnodup, List.pairwise_singleton _ role, fun other hmem => ?_⟩
      exact List.forall_mem_singleton.mpr (hbefore other hmem).2
    · intro other hmem
      rcases List.mem_append.mp hmem with hmem | hmem
      · exact (hbefore other hmem).1
      · obtain rfl := List.mem_singleton.mp hmem
        refine ⟨t.deadline, ?_, hdue⟩
        rw [TimerQueue.deadline?, hslot]
        rfl

end Node

namespace Worker

open Node

variable {τ : Type} [Transport τ] {c : Config} {session : SessionParams} {w : Worker τ}

/-- Take any worker that can be reached, at a time at which nothing that its drain arms is due
beyond the end of the clock.

If a next attempt waits at all, or if only so many sessions are refused, then timers fire until none
is due, so that the limit on their number does not matter if it is large enough. The limit that the
worker sets is large enough if a next attempt waits at all, or if the transport refuses no more
sessions than it says.

If the configuration is valid, a drain leaves nothing due and no role fires twice in it, so that
five timers fire at most. -/
theorem drain_ends (reachable : Reachable c session w)
    (fits : ∀ delay ∈ [c.stepInterval, c.reconnectLong],
      w.site.now + delay.toNat ≤ clockLimit) :
    let drain (limit : Nat) := fireDue onTimer w.site.now limit w.node w.site
    let after := w.fireDueTimers
    ((0 < c.reconnectLong ∨ ∃ bound, ∀ limit, (drain limit).2.refusals ≤ bound) →
      ∃ x' enough, x'.2.timers.pop? w.site.now = none ∧
        ∀ limit, enough ≤ limit → drain limit = x') ∧
      ((0 < c.reconnectLong ∨ (drain (firingLimit w.site.transport)).2.refusals ≤
          w.site.refusals + Transport.refusalsLeft w.site.transport) →
        after.site.timers.pop? w.site.now = none ∧
          ∃ enough, ∀ limit, enough ≤ limit → drain limit = (after.node, after.site)) ∧
      (c.validate = .ok () →
        after.site.timers.pop? w.site.now = none ∧
          ∃ fired, after.site.firings = fired ++ w.site.firings ∧ fired.Nodup ∧
            fired.length ≤ 5) := by
  intro drain after
  let x : Node × Site τ := (w.node, w.site)
  have hkeeps : Keeps c x.1 := reachable.keeps
  have hinRange (waits : 0 < c.reconnectLong) : x.2.now < clockLimit := by
    have hwaits : 0 < c.reconnectLong.toNat := waits
    have hlong : x.2.now + c.reconnectLong.toNat ≤ clockLimit :=
      fits _ (List.mem_cons_of_mem _ List.mem_cons_self)
    omega
  have hleft := firingsLeft_le x
  have huntil := firingsLeftUntil_now_le x
  -- Where the drain of the worker leaves nothing due, it is the whole drain.
  have hwhole (idle : (drain (firingLimit w.site.transport)).2.timers.pop? w.site.now = none) :
      Drains w.site.now x (after.node, after.site) := by
    have hdrains := drains_fireDue w.site.now _ x idle
    have hnow : (drain (firingLimit w.site.transport)).2.now = w.site.now :=
      now_of_drains hdrains hkeeps rfl
    have hafter : (after.node, after.site) = drain (firingLimit w.site.transport) := by
      show (_, { (drain (firingLimit w.site.transport)).2 with now := w.site.now }) = _
      rw [← hnow]
      rfl
    rw [hafter]
    exact hdrains
  have hidle (waits : 0 < c.reconnectLong) :
      (drain (firingLimit w.site.transport)).2.timers.pop? w.site.now = none := by
    refine idle_of_firingsLeftUntil_lt hkeeps waits (Nat.le_refl _) (hinRange waits) ?_
    unfold firingLimit
    omega
  refine ⟨fun hends => ?_, fun hends => ?_, fun hvalid => ?_⟩
  · obtain ⟨x', hdrains⟩ : ∃ x', Drains w.site.now x x' := by
      rcases hends with hwaits | ⟨bound, hbound⟩
      · exact exists_drains_of_waits hkeeps hwaits (Nat.le_refl _) (hinRange hwaits)
      · exact exists_drains_of_refusals_le hbound
    obtain ⟨enough, henough⟩ := hdrains.exists_fireDue
    exact ⟨x', enough, hdrains.idle, henough⟩
  · have hdrains := hwhole (hends.elim hidle fun hfew => by
      refine idle_of_refusals_lt (x := x) ?_
      show firingsLeft x + (drain (firingLimit w.site.transport)).2.refusals <
        firingLimit w.site.transport + w.site.refusals
      unfold firingLimit at hfew ⊢
      omega)
    exact ⟨hdrains.idle, hdrains.exists_fireDue⟩
  · have hwaits := Config.reconnectLong_pos hvalid
    have hdrains := hwhole (hidle hwaits)
    obtain ⟨fired, hfired, hnodup, -⟩ :=
      exists_nodup_of_drains hdrains hkeeps (Config.stepInterval_pos hvalid) hwaits rfl fits
    have hroles : fired ⊆ TimerRole.all := fun role _ => role.mem_all
    exact ⟨hdrains.idle, fired, hfired, hnodup, (hnodup.subperm hroles).length_le⟩

/-- A session that was accepted and a fill request leave an announcement due, and the next step ten
milliseconds later. A drain at that time fires both, and each of them once. -/
theorem drain_ends_after_fill_request :
    let created : Worker Scripted :=
      { node := .ofConfig {} (Bench.session {}), site := { now := 0, transport := {} } }
    let accepted : SessionEvent := ⟨1, .connection .accepted⟩
    let requested : SessionEvent := ⟨1, .publish Topic.fillRequest.text (Bytes.utf8 "ON")⟩
    let heard := ((created.start.receive accepted).2.receive requested).2
    let first := { heard with inbox := [requested] }.dispatch accepted
    let second := { first with inbox := [] }.dispatch requested
    let w : Worker Scripted := { second with site := { second.site with now := 10 } }
    w.site.timers.armed = [.decrease, .announce] ∧
      w.fireDueTimers.site.timers.pop? w.site.now = none ∧
      w.fireDueTimers.site.firings = [.decrease, .announce] ∧
      ∃ fired, w.fireDueTimers.site.firings = fired ++ w.site.firings ∧ fired.Nodup ∧
        fired.length ≤ 5 := by
  intro created accepted requested heard first second w
  have hheard : Reachable {} (Bench.session {}) heard :=
    ((Reachable.fresh 0 ({} : Scripted)).start.receive accepted).receive requested
  have hfirst : Reachable {} (Bench.session {}) first := hheard.take (by decide +kernel)
  have hsecond : Reachable {} (Bench.session {}) second := hfirst.take (by decide +kernel)
  have hw : Reachable {} (Bench.session {}) w := hsecond.clock 10
  have hfits : ∀ delay ∈ [({} : Config).stepInterval, ({} : Config).reconnectLong],
      w.site.now + delay.toNat ≤ clockLimit :=
    List.forall_mem_cons.mpr ⟨by decide +kernel, List.forall_mem_singleton.mpr (by decide +kernel)⟩
  have hvalid := (drain_ends hw hfits).2.2
  obtain ⟨hidle, hfired⟩ := hvalid rfl
  exact ⟨by decide +kernel, hidle, by decide +kernel, hfired⟩

end Worker

end TankGauge
