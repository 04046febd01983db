import TankGauge.Proofs.Reconnection
import TankGauge.Proofs.WalkTimers

/-!
# Time that passes to its end

Time that passes fires at most so many timers. If none is left that is due, it has passed to its end
(`Node.Drains`), and then the limit does not matter any more.

No timer is ever overdue between two callbacks (`Site.Punctual`): a timer is armed for the present
or later, and the queue gives out the earliest deadline first. So a timer fires at its deadline, and
what is armed when all is over falls due later.
-/

namespace TankGauge

/-! ## The earliest deadline -/

namespace TimerQueue

/-- One step of the search for the timer that comes out first. -/
def look (q : TimerQueue) (best : Option (TimerRole × ArmedTimer)) (r : TimerRole) :
    Option (TimerRole × ArmedTimer) :=
  match q.slots.get r with
  | none => best
  | some t => some (earlier best r t)

theorem first?_eq_foldl (q : TimerQueue) : q.first? = TimerRole.all.foldl q.look none := rfl

/-- The timer found so far is due by an instant. -/
def Covers (best : Option (TimerRole × ArmedTimer)) (instant : Nat) : Prop :=
  ∃ r t, best = some (r, t) ∧ t.deadline ≤ instant

/-- A timer that precedes another is due no later, and one that does not is due no earlier. -/
theorem deadline_le_of_precedes {a b : ArmedTimer} (h : a.precedes b) :
    a.deadline ≤ b.deadline := by
  simp only [ArmedTimer.precedes, Bool.or_eq_true, Bool.and_eq_true, decide_eq_true_eq,
    beq_iff_eq] at h
  rcases h with h | ⟨h, -⟩
  · exact Nat.le_of_lt h
  · exact Nat.le_of_eq h

theorem deadline_le_of_not_precedes {a b : ArmedTimer} (h : ¬ a.precedes b) :
    b.deadline ≤ a.deadline := by
  simp only [ArmedTimer.precedes, Bool.or_eq_true, decide_eq_true_eq, not_or] at h
  exact Nat.le_of_not_lt h.1

/-- The earlier of two timers is due by whatever one of them is due by. -/
theorem covers_earlier {best : Option (TimerRole × ArmedTimer)} {r : TimerRole} {t : ArmedTimer}
    {instant : Nat} (h : Covers best instant ∨ t.deadline ≤ instant) :
    Covers (some (earlier best r t)) instant := by
  cases best with
  | none =>
    rcases h with ⟨_, _, hnone, -⟩ | hle
    · cases hnone
    · exact ⟨r, t, rfl, hle⟩
  | some b =>
    obtain ⟨r', t'⟩ := b
    have hle : t'.deadline ≤ instant ∨ t.deadline ≤ instant := by
      refine h.imp_left ?_
      rintro ⟨_, _, hsome, hle⟩
      obtain ⟨rfl, rfl⟩ := Prod.mk.inj (Option.some.inj hsome)
      exact hle
    by_cases hprecedes : t.precedes t'
    · have hfirst := deadline_le_of_precedes hprecedes
      refine ⟨r, t, ?_, by omega⟩
      simp only [earlier, hprecedes, if_true]
    · have hfirst := deadline_le_of_not_precedes hprecedes
      refine ⟨r', t', ?_, by omega⟩
      simp only [earlier, hprecedes, Bool.false_eq_true, if_false]

theorem Covers.look {q : TimerQueue} {best : Option (TimerRole × ArmedTimer)} {instant : Nat}
    (h : Covers best instant) (r : TimerRole) : Covers (q.look best r) instant := by
  unfold TimerQueue.look
  cases q.slots.get r with
  | none => exact h
  | some t => exact covers_earlier (.inl h)

/-- What comes out first is due by any deadline. -/
theorem covers_first? {q : TimerQueue} {role : TimerRole} {deadline : Nat}
    (h : q.deadline? role = some deadline) : Covers q.first? deadline := by
  obtain ⟨t, hslot, rfl⟩ := Option.map_eq_some_iff.mp h
  have hkept (roles : List TimerRole) (best : Option (TimerRole × ArmedTimer))
      (hbest : Covers best t.deadline) : Covers (roles.foldl q.look best) t.deadline := by
    induction roles generalizing best with
    | nil => exact hbest
    | cons r rest ih => exact ih _ (hbest.look r)
  -- From the step that looks at the role on, the timer found so far stays covered.
  have hfound (roles : List TimerRole) (best : Option (TimerRole × ArmedTimer))
      (hmem : role ∈ roles) : Covers (roles.foldl q.look best) t.deadline := by
    induction roles generalizing best with
    | nil => cases hmem
    | cons r rest ih =>
      rcases List.mem_cons.mp hmem with rfl | hmem
      · refine hkept rest _ ?_
        simp only [TimerQueue.look, hslot]
        exact covers_earlier (.inr (Nat.le_refl _))
      · exact ih _ hmem
  rw [first?_eq_foldl]
  exact hfound TimerRole.all none role.mem_all

/-- What is taken out is due no later than anything that is armed. -/
theorem deadline_le_of_pop? {q rest : TimerQueue} {now deadline : Nat} {r : TimerRole}
    (h : q.pop? now = some (r, deadline, rest)) {r' : TimerRole} {deadline' : Nat}
    (armed : q.deadline? r' = some deadline') : deadline ≤ deadline' := by
  obtain ⟨r₁, t, hfirst, hle⟩ := covers_first? armed
  unfold pop? at h
  rw [hfirst] at h
  simp only at h
  split at h
  · obtain ⟨-, rfl, -⟩ := h
    exact hle
  · cases h

/-- If nothing is taken out, nothing that is armed is due. -/
theorem lt_of_pop?_eq_none {q : TimerQueue} {now : Nat} (h : q.pop? now = none) {r : TimerRole}
    {deadline : Nat} (armed : q.deadline? r = some deadline) : now < deadline := by
  obtain ⟨r₁, t, hfirst, hle⟩ := covers_first? armed
  unfold pop? at h
  rw [hfirst] at h
  simp only at h
  split at h
  · cases h
  · omega

end TimerQueue

/-! ## Timers are never overdue -/

namespace Site

variable {τ : Type}

/-- The clock is in its range, and no timer is overdue. -/
structure Punctual (s : Site τ) : Prop where
  now : s.now ≤ clockLimit
  armed : ∀ role deadline, s.timers.deadline? role = some deadline → s.now ≤ deadline

/-- A site where the timer of a role has just gone off at its deadline. -/
def fired (s : Site τ) (role : TimerRole) (deadline : Nat) : Site τ :=
  { s with now := max s.now deadline, timers := s.timers.cancel role }.record (.fire role deadline)

namespace Punctual

variable {s s' : Site τ}

/-- The earliest timer fires at its deadline, and leaves none overdue. -/
theorem fired (h : s.Punctual) {role : TimerRole} {deadline : Nat}
    (armed : s.timers.deadline? role = some deadline) (reached : deadline ≤ clockLimit)
    (first : ∀ role' deadline', s.timers.deadline? role' = some deadline' → deadline ≤ deadline') :
    (s.fired role deadline).now = deadline ∧ (s.fired role deadline).Punctual := by
  have hnow : (s.fired role deadline).now = deadline := Nat.max_eq_right (h.armed role _ armed)
  refine ⟨hnow, ?_, fun role' deadline' armed' => ?_⟩
  · rw [hnow]
    exact reached
  · have hleft : (s.timers.cancel role).deadline? role' = some deadline' := armed'
    rw [TimerQueue.deadline?_cancel] at hleft
    split at hleft
    · cases hleft
    · rw [hnow]
      exact first role' deadline' hleft

/-- The clock may move on to an instant by which nothing is due. -/
theorem passed {target : Nat}
    (h : ∀ role deadline, s.timers.deadline? role = some deadline → target < deadline)
    (reached : target ≤ clockLimit) : Punctual { s with now := target } :=
  ⟨reached, fun role deadline armed => Nat.le_of_lt (h role deadline armed)⟩

variable [Transport τ]

theorem perform (h : s.Punctual) (a : Action) : (s.perform a).Punctual := by
  refine ⟨by rw [now_perform]; exact h.now, fun role deadline armed => ?_⟩
  rw [now_perform]
  cases a with
  | tell | note | connect | subscribe | publish => exact h.armed role deadline armed
  | arm role' delay =>
    have hqueue : (s.timers.schedule role' delay s.now).deadline? role = some deadline := by
      rw [← timers_schedule]
      exact armed
    rw [TimerQueue.deadline?_schedule] at hqueue
    split at hqueue
    · rw [← Option.some.inj hqueue]
      exact Nat.le_min.mpr ⟨Nat.le_add_right _ _, h.now⟩
    · exact h.armed role deadline hqueue
  | disarm role' =>
    have hqueue : (s.timers.cancel role').deadline? role = some deadline := armed
    rw [TimerQueue.deadline?_cancel] at hqueue
    split at hqueue
    · cases hqueue
    · exact h.armed role deadline hqueue

theorem acted {P : Action → Bool} (h : s.Punctual) (acted : s.Acted P s') : s'.Punctual :=
  acted.invariant (fun _ a _ hs => hs.perform a) h

end Punctual

end Site

/-! ## Nodes whose timers come out of the queue -/

namespace Node

open Site

variable {τ : Type} [Transport τ]

/-- What holds of a node between two callbacks if its timers fire in time. -/
structure Regular (x : Node × Site τ) : Prop where
  steady : Steady x
  alive : (link x).Alive
  punctual : x.2.Punctual

namespace Regular

variable {x : Node × Site τ}

theorem launched (c : Config) (session : SessionParams) {now : Nat} (t : τ)
    (reached : now ≤ clockLimit) : Regular (launched c session now t) where
  steady := .launched c session now t
  alive := alive_launched c session now t
  punctual :=
    have hfresh : Punctual { now, transport := t } := ⟨reached, nofun⟩
    hfresh.acted (acted_respond _ _ (settled_ofConfig c session) .start)

theorem callback (h : Regular x) {c : Callback}
    (timely : (Happening.callback c : Happening τ).isTimely) :
    Regular (respond c x.1 x.2) where
  steady := h.steady.apply timely
  alive := alive_apply h.steady.settled h.alive timely
  punctual := h.punctual.acted (acted_respond x.1 x.2 h.steady.settled c)

omit [Transport τ] in
theorem transport (h : Regular x) (t : τ) : Regular (x.1, { x.2 with transport := t }) :=
  ⟨⟨h.steady.settled, h.steady.walk⟩, h.alive, ⟨h.punctual.now, h.punctual.armed⟩⟩

omit [Transport τ] in
theorem passed (h : Regular x) {target : Nat} (idle : x.2.timers.pop? target = none)
    (reached : target ≤ clockLimit) : Regular (x.1, { x.2 with now := target }) :=
  ⟨⟨h.steady.settled, h.steady.walk⟩, h.alive,
    .passed (fun _ _ armed => TimerQueue.lt_of_pop?_eq_none idle armed) reached⟩

/-- The timer that comes out first fires at its deadline. -/
theorem fired (h : Regular x) {target deadline : Nat} {role : TimerRole} {rest : TimerQueue}
    (first : x.2.timers.pop? target = some (role, deadline, rest)) (reached : target ≤ clockLimit) :
    rest = x.2.timers.cancel role ∧ x.2.timers.deadline? role = some deadline ∧
      deadline ≤ target ∧ (x.2.fired role deadline).now = deadline ∧
      Regular (x.1.onTimer role (x.2.fired role deadline)) := by
  obtain ⟨t, hslot, rfl, hdue, hrest⟩ := TimerQueue.eq_of_pop? first
  have harmed : x.2.timers.deadline? role = some t.deadline := by
    rw [TimerQueue.deadline?, hslot]
    rfl
  obtain ⟨hnow, hpunctual⟩ := h.punctual.fired harmed (Nat.le_trans hdue reached)
    (fun _ _ armed => TimerQueue.deadline_le_of_pop? first armed)
  -- A firing is an expiry at the time of the deadline.
  let early : Node × Site τ := (x.1, { x.2 with now := max x.2.now t.deadline })
  have hearly : Steady early := ⟨h.steady.settled, h.steady.walk⟩
  have halive : (link early).Alive := h.alive
  have hexpiry : (Happening.expiry role).apply respond early =
      x.1.onTimer role (x.2.fired role t.deadline) := by
    simp only [Happening.apply, early, hslot]
    rfl
  refine ⟨hrest, harmed, hdue, hnow, ?_, ?_, ?_⟩
  · rw [← hexpiry]
    exact hearly.apply rfl
  · rw [← hexpiry]
    exact alive_apply hearly.settled halive rfl
  · exact hpunctual.acted (acted_respond x.1 _ h.steady.settled (.timer role))

end Regular

/-- Timers fire, each at its deadline, until none is due by an instant. -/
inductive Drains (target : Nat) : Node × Site τ → Node × Site τ → Prop
  | done {x : Node × Site τ} (idle : x.2.timers.pop? target = none) : Drains target x x
  | fire {x x' : Node × Site τ} {role : TimerRole} {deadline : Nat} {rest : TimerQueue}
      (first : x.2.timers.pop? target = some (role, deadline, rest))
      (after : Drains target (x.1.onTimer role (x.2.fired role deadline)) x') : Drains target x x'

/-- If nothing is left due when a limit is reached, everything has fired that was to fire. -/
theorem drains_fireDue (target limit : Nat) (x : Node × Site τ)
    (idle : (fireDue onTimer target limit x.1 x.2).2.timers.pop? target = none) :
    Drains target x (fireDue onTimer target limit x.1 x.2) := by
  induction limit generalizing x with
  | zero => exact .done idle
  | succ limit ih =>
    cases hpop : x.2.timers.pop? target with
    | none =>
      simp only [fireDue, hpop]
      exact .done hpop
    | some popped =>
      obtain ⟨role, deadline, rest⟩ := popped
      obtain ⟨-, -, -, -, hrest⟩ := TimerQueue.eq_of_pop? hpop
      simp only [fireDue, hpop] at idle ⊢
      subst hrest
      exact .fire hpop (ih _ idle)

/-- While timers fire until an instant, the clock does not pass it. -/
theorem Drains.regular {target : Nat} {x x' : Node × Site τ} (h : Drains target x x')
    (regular : Regular x) (reached : target ≤ clockLimit) (ahead : x.2.now ≤ target) :
    Regular x' ∧ x'.2.now ≤ target := by
  induction h with
  | done => exact ⟨regular, ahead⟩
  | @fire x _ role deadline _ first _ ih =>
    obtain ⟨-, -, hdue, hnow, hregular⟩ := regular.fired first reached
    refine ih hregular ?_
    rw [show (x.1.onTimer role (x.2.fired role deadline)).2.now = deadline from
      (acted_respond x.1 _ regular.steady.settled (.timer role)).now_eq.trans hnow]
    exact hdue

end Node

end TankGauge
