import TankGauge.Proofs.Chronicle
import TankGauge.Proofs.Firings

/-!
# Time that passes in two parts

Whether time passes at once or in two parts makes no difference to a node, to its timers or to its
journal (`Node.advance_advance`). The clock goes to the deadline of each timer that fires, and
between two firings nobody reads it. So the place where the first part ends is not seen by what
fires in the second, as long as no timer is overdue (`Node.Drains.exists_drains_of_passed`).

On the bench this holds without more ado, since every refusal there comes out of the script
(`Bench.apply_advance_advance`).
-/

namespace TankGauge

theorem laterInstant_of_le {now duration : Nat} (h : now + duration ≤ clockLimit) :
    laterInstant now duration = now + duration := Nat.min_eq_left h

namespace Node

open Site

variable {τ : Type} [Transport τ] {c : Config} {x x₁ x₂ : Node × Site τ} {first second : Nat}

/-- Lets time pass, with so many timers firing on the way at most. -/
def advance (limit duration : Nat) (x : Node × Site τ) : Node × Site τ :=
  passTime onTimer limit (laterInstant x.2.now duration) x.1 x.2

theorem advance_of_fireDue {limit duration target : Nat}
    (there : laterInstant x.2.now duration = target)
    (h : fireDue onTimer target limit x.1 x.2 = x₁) :
    advance limit duration x = (x₁.1, { x₁.2 with now := target }) := by
  subst there h
  rfl

omit [Transport τ] in
/-- A timer that fires does not see what the clock showed before its deadline. -/
theorem fired_passed {s : Site τ} {now deadline : Nat} (role : TimerRole) (ahead : s.now ≤ deadline)
    (passed : now ≤ deadline) :
    { s with now := now }.fired role deadline = s.fired role deadline := by
  simp only [Site.fired, Nat.max_eq_right ahead, Nat.max_eq_right passed]

/-- What fires in two parts fires at once. -/
theorem Drains.exists_drains_of_passed (h : Drains first x x₁) (regular : Regular x)
    (later : first ≤ second) (reached : second ≤ clockLimit)
    (h' : Drains second (x₁.1, { x₁.2 with now := first }) x₂) :
    ∃ x', Drains second x x' ∧
      (x'.1, { x'.2 with now := second }) = (x₂.1, { x₂.2 with now := second }) := by
  induction h with
  | @done x idle =>
    cases h' with
    | done idle' => exact ⟨x, .done idle', rfl⟩
    | @fire _ _ role deadline rest next after =>
      obtain ⟨t, hslot, rfl, -, -⟩ := TimerQueue.eq_of_pop? next
      have harmed : x.2.timers.deadline? role = some t.deadline := by
        rw [TimerQueue.deadline?, show x.2.timers.slots.get role = some t from hslot]
        rfl
      have hpassed : first < t.deadline := TimerQueue.lt_of_pop?_eq_none idle harmed
      rw [fired_passed role (regular.punctual.armed role _ harmed) (Nat.le_of_lt hpassed)] at after
      exact ⟨x₂, .fire next after, rfl⟩
  | fire next _ ih =>
    obtain ⟨-, -, hdue, -, hregular⟩ := regular.fired next (Nat.le_trans later reached)
    obtain ⟨x', hdrains, hsame⟩ := ih hregular h'
    exact ⟨x', .fire (TimerQueue.pop?_of_pop? next (Nat.le_trans hdue later)) hdrains, hsame⟩

theorem Drains.unique (h : Drains first x x₁) (h' : Drains first x x₂) : x₁ = x₂ := by
  obtain ⟨enough, henough⟩ := h.exists_fireDue
  obtain ⟨enough', henough'⟩ := h'.exists_fireDue
  exact (henough _ (Nat.le_max_left _ _)).symm.trans (henough' _ (Nat.le_max_right _ _))

/-- Take a node that was started at some time, with a valid configuration, at any point of any
clock-driven run, and let time pass by two durations that lead to an instant before the end of the
clock.

If no limit on the number of firings is in the way, it makes no difference whether time passes in
two parts or at once: the node, its timers, the clock, the transport and the whole journal are the
same, with all firings, calls and events in it. And all of that time has passed to its end. -/
theorem advance_advance {session : SessionParams} {now : Nat} {t : τ} {inputs : List Input}
    (valid : c.validate = .ok ()) (reached : now ≤ clockLimit)
    (ran : ClockRun inputs (launched c session now t) x) {a b : Nat}
    (inRange : x.2.now + a + b < clockLimit) :
    ∃ enough, ∀ limit, enough ≤ limit →
      advance limit b (advance limit a x) = advance limit (a + b) x ∧
        (advance limit a x).2.timers.pop? (x.2.now + a) = none ∧
        (advance limit (a + b) x).2.timers.pop? (x.2.now + (a + b)) = none ∧
        (advance limit (a + b) x).2.now = x.2.now + (a + b) := by
  have hwaits := Config.reconnectLong_pos valid
  have hkeeps : Keeps c x.1 := (Keeps.launched c session now t).clockRun ran
  obtain ⟨_, hchronicled⟩ := exists_chronicle_of_clockRun ran (.launched reached t)
  have hregular : Regular x := hchronicled.regular
  obtain ⟨x₁, hfirst⟩ : ∃ x₁, Drains (x.2.now + a) x x₁ :=
    exists_drains_of_waits hkeeps hwaits (Nat.le_add_right _ a) (by omega)
  have hkept : Keeps c x₁.1 := hkeeps.drains hfirst
  let passed : Node × Site τ := (x₁.1, { x₁.2 with now := x.2.now + a })
  have hpassed : passed.2.now ≤ x.2.now + (a + b) := Nat.add_le_add_left (Nat.le_add_right a b) _
  obtain ⟨x₂, hsecond⟩ : ∃ x₂, Drains (x.2.now + (a + b)) passed x₂ :=
    exists_drains_of_waits (x := passed) hkept hwaits hpassed (by omega)
  obtain ⟨x₃, hwhole, hsame⟩ :=
    hfirst.exists_drains_of_passed hregular (by omega) (by omega) hsecond
  obtain ⟨enough₁, henough₁⟩ := hfirst.exists_fireDue
  obtain ⟨enough₂, henough₂⟩ := hsecond.exists_fireDue
  obtain ⟨enough₃, henough₃⟩ := hwhole.exists_fireDue
  refine ⟨max enough₁ (max enough₂ enough₃), fun limit hle => ?_⟩
  obtain ⟨hle₁, hle₂, hle₃⟩ : enough₁ ≤ limit ∧ enough₂ ≤ limit ∧ enough₃ ≤ limit := by omega
  have ha : advance limit a x = passed :=
    advance_of_fireDue (laterInstant_of_le (by omega)) (henough₁ limit hle₁)
  have hb : advance limit b passed = (x₂.1, { x₂.2 with now := x.2.now + (a + b) }) := by
    refine advance_of_fireDue ?_ (henough₂ limit hle₂)
    rw [← Nat.add_assoc]
    exact laterInstant_of_le (Nat.le_of_lt inRange)
  have hab : advance limit (a + b) x = (x₃.1, { x₃.2 with now := x.2.now + (a + b) }) :=
    advance_of_fireDue (laterInstant_of_le (by omega)) (henough₃ limit hle₃)
  rw [ha, hb, hab, ← hsame]
  exact ⟨rfl, hfirst.idle, hwhole.idle, rfl⟩

/-- A gauge that is asked to fill goes down by four in 35 milliseconds, in whatever parts they
pass. -/
theorem advance_advance_after_fill_request :
    let start : Node × Site Scripted := launched {} (Bench.session {}) 0 {}
    let x := run respond start
      [.callback (.connection .accepted), .callback (.command (.fillRequest true))]
    ClockRun [.connection .accepted, .command (.fillRequest true)] start x ∧
      (advance 128 35 x).1.level = 96 ∧ (advance 128 35 x).2.firings.length = 4 ∧
      ∃ enough, ∀ limit, enough ≤ limit →
        advance limit 20 (advance limit 15 x) = advance limit 35 x := by
  intro start x
  have hran : ClockRun [.connection .accepted, .command (.fillRequest true)] start x :=
    .callback rfl (.callback rfl .nil)
  obtain ⟨enough, henough⟩ := advance_advance (c := {}) (by decide +kernel) (Nat.zero_le clockLimit)
    hran (a := 15) (b := 20) (by decide +kernel)
  exact ⟨hran, by decide +kernel, by decide +kernel, enough,
    fun limit hle => (henough limit hle).1⟩

/-! ## On the bench -/

/-- Each refusal comes out of the script. -/
theorem refusals_perform_le (s : Site Scripted) (a : Action) :
    (s.perform a).refusals + (s.perform a).transport.connects.length ≤
      s.refusals + s.transport.connects.length := by
  cases a with
  | tell | note | disarm => exact Nat.le_refl _
  | arm role delay =>
    have hanswers : (s.schedule role delay).connectAnswers = s.connectAnswers :=
      view_schedule s Entry.connectAnswer? (fun _ => rfl) role delay
    show (s.schedule role delay).refusals + (s.schedule role delay).transport.connects.length ≤ _
    rw [refusals, hanswers, transport_schedule]
    exact Nat.le_refl _
  | subscribe topic qos =>
    have hconnects : (Scripted.subscribe s.transport).2.connects = s.transport.connects := by
      unfold Scripted.subscribe
      split <;> rfl
    exact Nat.le_of_eq (congrArg (fun left => s.refusals + left.length) hconnects)
  | publish topic payload qos retain =>
    have hconnects : (Scripted.publish s.transport).2.connects = s.transport.connects := by
      unfold Scripted.publish
      split <;> rfl
    exact Nat.le_of_eq (congrArg (fun left => s.refusals + left.length) hconnects)
  | connect session =>
    obtain ⟨now, timers, ⟨connects, subscribes, publishes, linkUp, sessions⟩, journal⟩ := s
    cases connects with
    | nil => exact Nat.le_refl _
    | cons answer rest =>
      cases answer with
      | taken => exact Nat.add_le_add_left (Nat.le_succ _) _
      | refused reason =>
        have hmore (answers : List Answer) :
            (Answer.refused reason :: answers).countP (· != .taken) =
              answers.countP (· != .taken) + 1 := List.countP_cons_of_pos rfl
        exact Nat.le_of_eq
          ((congrArg (· + rest.length) (hmore _)).trans (Nat.succ_add_eq_add_succ _ _))

/-- On the bench, time always passes to its end. -/
theorem drains_of_script {x : Node × Site Scripted} (settled : x.1.Settled) (target : Nat) :
    Drains target x (fireDue onTimer target (firingLimit x.2.transport) x.1 x.2) := by
  have hleft := firingsLeft_le x
  refine drains_fireDue target _ x ((idle_or_le_of_fireDue
    (I := fun x : Node × Site Scripted => x.1.Settled)
    (m := fun x => firingsLeft x + x.2.transport.connects.length) (r := fun _ => 0)
    (fun {x role deadline rest} hx first => ?_) _ settled).resolve_right (Nat.not_le_of_lt ?_))
  · refine ⟨settled_respond x.1 _ (.timer role) hx, ?_⟩
    have hfirings := firingsLeft_onTimer first
    have hrefusals : (x.1.onTimer role (x.2.fired role deadline)).2.refusals +
        (x.1.onTimer role (x.2.fired role deadline)).2.transport.connects.length ≤
          x.2.refusals + x.2.transport.connects.length :=
      (acted_respond x.1 (x.2.fired role deadline) hx (.timer role)).invariant
        (I := fun s => s.refusals + s.transport.connects.length ≤
          x.2.refusals + x.2.transport.connects.length)
        (fun s a _ hs => Nat.le_trans (refusals_perform_le s a) hs) (Nat.le_refl _)
    omega
  · show firingsLeft x + x.2.transport.connects.length < 128 + x.2.transport.connects.length
    omega

end Node

theorem laterInstant_laterInstant (now first second : Nat) :
    laterInstant (laterInstant now first) second = laterInstant now (first + second) := by
  unfold laterInstant
  omega

open Node in
/-- Whether time passes at once or in two parts makes no difference to a bench. -/
theorem Bench.apply_advance_advance {b : Bench} (regular : Regular (b.node, b.site))
    (first second : Nat) :
    (b.apply (.advance first)).apply (.advance second) = b.apply (.advance (first + second)) := by
  let x : Node × Site Scripted := (b.node, b.site)
  let halfway := laterInstant x.2.now first
  let y := advance (firingLimit x.2.transport) first x
  let z := advance (firingLimit y.2.transport) second y
  let w := advance (firingLimit x.2.transport) (first + second) x
  have hregular : Regular x := regular
  have hfirst := drains_of_script hregular.steady.settled halfway
  obtain ⟨-, hthere, -⟩ := seen_tank.settles (Nat.min_le_right _ _) hregular hfirst
  have hsettled : y.1.Settled := hthere.steady.settled
  have hsecond := drains_of_script hsettled (laterInstant y.2.now second)
  have hend : laterInstant y.2.now second = laterInstant x.2.now (first + second) :=
    laterInstant_laterInstant x.2.now first second
  have hwhole := drains_of_script hregular.steady.settled (laterInstant y.2.now second)
  have hlater : halfway ≤ laterInstant y.2.now second :=
    Nat.le_min.mpr ⟨Nat.le_add_right _ _, Nat.min_le_right _ _⟩
  obtain ⟨x', hdrains, hsame⟩ :=
    hfirst.exists_drains_of_passed hregular hlater (Nat.min_le_right _ _) hsecond
  obtain rfl := hdrains.unique hwhole
  have hz : z = w := by
    show (_, { (fireDue onTimer (laterInstant y.2.now second) _ y.1 y.2).2 with
      now := laterInstant y.2.now second }) = _
    rw [← hsame, hend]
    rfl
  show Bench.mk z.1 z.2 = Bench.mk w.1 w.2
  rw [hz]

end TankGauge
