import TankGauge.Proofs.Independence

/-!
# Chronicles

A law that speaks of times needs to know when things happened. A chronicle keeps all that was seen
of a node since it was started, newest first and each with its time: the entries of its journal, and
the moves of its gauge (`Node.Chronicled`).

The node runs with its timers firing in time (`Happening.InTime`). The clock never shows more than
the earliest deadline, so that a timer goes off exactly at its deadline, and anything else may
happen at that instant before it does. Every clock-driven run has a chronicle
(`Node.exists_chronicle_of_clockRun`).
-/

namespace TankGauge

/-! ## What is seen and when -/

/-- Something that is seen of a node: an entry of its journal, or a move of its gauge. -/
inductive Sighting
  | entry (e : Entry)
  | moved (d : Direction)
deriving DecidableEq

/-- Whether what is seen at a time is no timer armed for an instant beyond the end of the clock. -/
def Sighting.fits (now : Nat) : Sighting → Bool
  | entry (.schedule _ delay) => now + delay.toNat ≤ clockLimit
  | _ => true

/-- What was seen of a node, newest first and each with its time. -/
abbrev Chronicle := List (Nat × Sighting)

/-- The same time for all that is seen at a moment. -/
def stamped {β : Type} (now : Nat) (seen : List β) : List (Nat × β) := seen.map (now, ·)

theorem map_snd_stamped {β : Type} (now : Nat) (seen : List β) :
    (stamped now seen).map Prod.snd = seen := by
  rw [stamped, List.map_map]
  exact List.map_id seen

/-- The timer that an entry arms, and how long it is to wait. -/
def Entry.arming? : Entry → Option (TimerRole × UInt32)
  | schedule role delay => some (role, delay)
  | _ => none

namespace Chronicle

variable {β : Type} {H : Chronicle}

/-- What a chronicle tells of one thing, newest first and each with its time. -/
def view (f : Sighting → Option β) (H : Chronicle) : List (Nat × β) :=
  H.filterMap fun p => (f p.2).map (p.1, ·)

theorem view_stamped_append (f : Sighting → Option β) (now : Nat) (seen : List Sighting)
    (H : Chronicle) :
    view f (stamped now seen ++ H) = stamped now (seen.filterMap f) ++ view f H := by
  simp only [view, stamped, List.filterMap_append, List.filterMap_map, List.map_filterMap]
  rfl

/-- No timer was armed for an instant beyond the end of the clock. -/
def Unsaturated (H : Chronicle) : Prop := ∀ p ∈ H, p.2.fits p.1

instance (H : Chronicle) : Decidable H.Unsaturated :=
  inferInstanceAs (Decidable (∀ p ∈ H, p.2.fits p.1))

theorem Unsaturated.le (h : Unsaturated H) {now : Nat} {role : TimerRole} {delay : UInt32}
    (armed : (now, .entry (.schedule role delay)) ∈ H) : now + delay.toNat ≤ clockLimit :=
  of_decide_eq_true (h _ armed)

theorem Unsaturated.of_append {newer : Chronicle} (h : Unsaturated (newer ++ H)) :
    Unsaturated H :=
  fun p hmem => h p (List.mem_append_right newer hmem)

end Chronicle

/-- Which way a gauge has moved between two levels, if it has. -/
def Direction.between? (before after : UInt8) : Option Direction :=
  if after < before then some .decrease
  else if before < after then some .increase
  else none

theorem Direction.between?_self (level : UInt8) : between? level level = none := by
  rw [between?, if_neg (UInt8.lt_irrefl level), if_neg (UInt8.lt_irrefl level)]

/-- What is seen of a node between two moments, newest first. -/
def Node.sightings {τ : Type} (x x' : Node × Site τ) : List Sighting :=
  (Direction.between? x.1.level x'.1.level).toList.map .moved ++
    (since x'.2.journal x.2.journal).map .entry

/-! ## Runs with timers that fire in time -/

/-- What may happen next to a node if its timers fire in time: the timer that the queue gives out
first goes off, or the clock moves on, but not past the next deadline. Anything may come in and the
transport may change at any moment. -/
def Happening.InTime {τ : Type} (x : Node × Site τ) : Happening τ → Prop
  | callback c => (callback c : Happening τ).isTimely
  | expiry role => (x.2.timers.pop? x.2.now).map (·.1) = some role
  | clock reading => x.2.now ≤ reading ∧ reading ≤ clockLimit ∧
      x.2.timers.nextDeadline?.all (reading ≤ ·)
  | transport _ => True

instance {τ : Type} (x : Node × Site τ) (h : Happening τ) : Decidable (h.InTime x) :=
  match h with
  | .callback c => inferInstanceAs (Decidable ((Happening.callback c : Happening τ).isTimely))
  | .expiry role => inferInstanceAs (Decidable ((x.2.timers.pop? x.2.now).map (·.1) = some role))
  | .clock reading => inferInstanceAs (Decidable (x.2.now ≤ reading ∧ reading ≤ clockLimit ∧
      x.2.timers.nextDeadline?.all (reading ≤ ·)))
  | .transport _ => .isTrue trivial

namespace Node

open Site

variable {τ : Type} [Transport τ]

/-- A node that was started at some time and then ran with its timers firing in time, and the
chronicle of what was seen of it. -/
inductive Chronicled (c : Config) (session : SessionParams) : Chronicle → Node × Site τ → Prop
  | launched {now : Nat} (reached : now ≤ clockLimit) (t : τ) :
    Chronicled c session
      (stamped now (sightings (fresh c session now t) (Node.launched c session now t)))
      (Node.launched c session now t)
  | next {H : Chronicle} {x : Node × Site τ} (before : Chronicled c session H x)
    {h : Happening τ} (inTime : h.InTime x) :
    Chronicled c session
      (stamped (h.apply respond x).2.now (sightings x (h.apply respond x)) ++ H)
      (h.apply respond x)

/-! ### Runs of given happenings -/

/-- Whether all that happens to a node happens in time. -/
def AllInTime (x : Node × Site τ) : List (Happening τ) → Prop
  | [] => True
  | h :: rest => h.InTime x ∧ AllInTime (h.apply respond x) rest

instance decidableAllInTime (x : Node × Site τ) (hs : List (Happening τ)) :
    Decidable (AllInTime x hs) :=
  match hs with
  | [] => .isTrue trivial
  | h :: rest =>
    have := decidableAllInTime (h.apply respond x) rest
    inferInstanceAs (Decidable (h.InTime x ∧ AllInTime (h.apply respond x) rest))

/-- What is seen of a node while things happen to it, on top of what was seen before. -/
def chronicle (x : Node × Site τ) (H : Chronicle) : List (Happening τ) → Chronicle
  | [] => H
  | h :: rest => chronicle (h.apply respond x)
      (stamped (h.apply respond x).2.now (sightings x (h.apply respond x)) ++ H) rest

theorem Chronicled.run {c : Config} {session : SessionParams} {H : Chronicle} {x : Node × Site τ}
    (h : Chronicled c session H x) {hs : List (Happening τ)} (inTime : AllInTime x hs) :
    Chronicled c session (chronicle x H hs) (run respond x hs) := by
  induction hs generalizing H x with
  | nil => exact h
  | cons happening rest ih => exact ih (h.next inTime.1) inTime.2

/-! ### Nodes stay regular -/

omit [Transport τ] in
theorem isTimely_of_inTime {x : Node × Site τ} {h : Happening τ} (inTime : h.InTime x) :
    h.isTimely := by
  cases h with
  | callback c => exact inTime
  | expiry | clock | transport => rfl

/-- A timer that goes off in time goes off at its deadline. -/
theorem Regular.expiry {x : Node × Site τ} (h : Regular x) {role : TimerRole}
    (inTime : (Happening.expiry role : Happening τ).InTime x) :
    x.2.timers.deadline? role = some x.2.now ∧
      (Happening.expiry role).apply respond x = x.1.onTimer role (x.2.fired role x.2.now) ∧
      Regular (x.1.onTimer role (x.2.fired role x.2.now)) := by
  obtain ⟨⟨_, deadline, rest⟩, hpop, rfl⟩ := Option.map_eq_some_iff.mp inTime
  obtain ⟨-, harmed, hdue, -, hregular⟩ := h.fired hpop h.punctual.now
  obtain rfl : deadline = x.2.now := Nat.le_antisymm hdue (h.punctual.armed _ _ harmed)
  obtain ⟨t, hslot, hdeadline⟩ := Option.map_eq_some_iff.mp harmed
  refine ⟨harmed, ?_, hregular⟩
  simp only [Happening.apply, hslot, Site.fired, hdeadline, Nat.max_self]
  rfl

theorem Regular.now_onTimer {x : Node × Site τ} (h : Regular x) (role : TimerRole) :
    (x.1.onTimer role (x.2.fired role x.2.now)).2.now = x.2.now :=
  ((acted_respond x.1 _ h.steady.settled (.timer role)).now_eq).trans (Nat.max_self _)

theorem Regular.apply {x : Node × Site τ} (h : Regular x) {happening : Happening τ}
    (inTime : happening.InTime x) : Regular (happening.apply respond x) := by
  cases happening with
  | callback c => exact h.callback inTime
  | transport t => exact h.transport t
  | clock reading =>
    obtain ⟨-, hreached, hfirst⟩ := inTime
    refine ⟨⟨h.steady.settled, h.steady.walk⟩, h.alive, hreached, fun role deadline armed => ?_⟩
    obtain ⟨r, t, hnext, hle⟩ := TimerQueue.covers_first? (q := x.2.timers) armed
    rw [TimerQueue.nextDeadline?, hnext] at hfirst
    exact Nat.le_trans (of_decide_eq_true hfirst) hle
  | expiry role =>
    obtain ⟨-, happly, hregular⟩ := h.expiry inTime
    rw [happly]
    exact hregular

namespace Chronicled

variable {c : Config} {session : SessionParams} {H : Chronicle} {x : Node × Site τ}

theorem regular (h : Chronicled c session H x) : Regular x := by
  induction h with
  | launched reached t => exact .launched c session t reached
  | next _ inTime ih => exact ih.apply inTime

end Chronicled

/-! ### The journal only grows -/

end Node

namespace Site

variable {τ : Type} [Transport τ]

omit [Transport τ] in
theorem suffix_journal_schedule (s : Site τ) (role : TimerRole) (delay : UInt32) :
    s.journal <:+ (s.schedule role delay).journal := by
  unfold schedule
  split
  · exact (List.suffix_cons _ _).trans (List.suffix_cons _ _)
  · exact List.suffix_cons _ _

omit [Transport τ] in
theorem armings_schedule (s : Site τ) (role : TimerRole) (delay : UInt32) :
    (s.schedule role delay).view Entry.arming? = (role, delay) :: s.view Entry.arming? :=
  view_schedule s Entry.arming? (fun _ => rfl) role delay

omit [Transport τ] in
theorem armings_cancel (s : Site τ) (role : TimerRole) :
    (s.cancel role).view Entry.arming? = s.view Entry.arming? :=
  view_cancel s Entry.arming? role

theorem suffix_journal_perform (s : Site τ) (a : Action) :
    s.journal <:+ (s.perform a).journal := by
  cases a with
  | tell | note | disarm | connect | subscribe | publish => exact List.suffix_cons _ _
  | arm role delay => exact suffix_journal_schedule s role delay

theorem Acted.suffix_journal {P : Action → Bool} {s s' : Site τ} (h : s.Acted P s') :
    s.journal <:+ s'.journal :=
  h.invariant (I := fun s' => s.journal <:+ s'.journal)
    (fun s' a _ before => before.trans (suffix_journal_perform s' a)) (List.suffix_refl _)

end Site

namespace Node

open Site

variable {τ β : Type} [Transport τ]

theorem suffix_journal_apply (n : Node) (s : Site τ) (settled : n.Settled) (h : Happening τ) :
    s.journal <:+ (h.apply respond (n, s)).2.journal :=
  h.journal_apply (P := fun journal => s.journal <:+ journal)
    (fun c s' before => before.trans (acted_respond n s' settled c).suffix_journal)
    (fun _ _ before => before.trans (List.suffix_cons _ _)) (List.suffix_refl _)

theorem suffix_journal_run {x : Node × Site τ} (settled : x.1.Settled)
    (hs : List (Happening τ)) : x.2.journal <:+ (run respond x hs).2.journal := by
  let P (x' : Node × Site τ) : Prop := x'.1.Settled ∧ x.2.journal <:+ x'.2.journal
  have hstep : ∀ h ∈ hs, ∀ x', P x' → P (h.apply respond x') := fun h _ x' hx =>
    ⟨settled_apply h x'.1 x'.2 hx.1, hx.2.trans (suffix_journal_apply x'.1 x'.2 hx.1 h)⟩
  have hrun : P (run respond x hs) := run_invariant hstep ⟨settled, List.suffix_refl _⟩
  exact hrun.2

omit [Transport τ] in
/-- A longer journal shows more in any view. -/
theorem exists_view_of_suffix (f : Entry → Option β) {s s' : Site τ}
    (h : s.journal <:+ s'.journal) : ∃ news, s'.view f = news ++ s.view f := by
  obtain ⟨entries, hentries⟩ := h
  refine ⟨entries.filterMap f, ?_⟩
  rw [Site.view, ← hentries, List.filterMap_append]
  rfl

/-- What happens shows in a view of the journal as what stands on top of what was there. -/
theorem filterMap_since (f : Entry → Option β) {x : Node × Site τ} (settled : x.1.Settled)
    (h : Happening τ) {news : List β}
    (added : (h.apply respond x).2.view f = news ++ x.2.view f) :
    (since (h.apply respond x).2.journal x.2.journal).filterMap f = news := by
  obtain ⟨entries, hentries⟩ := suffix_journal_apply x.1 x.2 settled h
  rw [Site.view, ← hentries, List.filterMap_append] at added
  rw [← hentries, since_append]
  exact List.append_cancel_right added

/-- A view of a chronicle goes on with what there is to see of the move, if there is one, and of the
entries. -/
theorem view_next (f : Sighting → Option β) {x : Node × Site τ} (settled : x.1.Settled)
    (h : Happening τ) {news : List β}
    (added : (h.apply respond x).2.view (fun e => f (.entry e)) =
      news ++ x.2.view (fun e => f (.entry e))) (H : Chronicle) :
    Chronicle.view f (stamped (h.apply respond x).2.now (sightings x (h.apply respond x)) ++ H) =
      stamped (h.apply respond x).2.now
          ((Direction.between? x.1.level (h.apply respond x).1.level).toList.filterMap
            (fun d => f (.moved d))) ++
        stamped (h.apply respond x).2.now news ++ H.view f := by
  have hnews := filterMap_since (fun e => f (.entry e)) settled h added
  rw [Chronicle.view_stamped_append, sightings, List.filterMap_append, List.filterMap_map,
    List.filterMap_map, stamped, List.map_append, ← hnews]
  rfl

/-- If no timer is armed for an instant beyond the end of the clock, each that is armed while
something happens falls due in range. -/
theorem armed_in_range {H : Chronicle} {x : Node × Site τ} (settled : x.1.Settled)
    {h : Happening τ}
    (unsaturated : Chronicle.Unsaturated
      (stamped (h.apply respond x).2.now (sightings x (h.apply respond x)) ++ H))
    {role : TimerRole} {delay : UInt32} {news : List (TimerRole × UInt32)}
    (added : (h.apply respond x).2.view Entry.arming? = news ++ x.2.view Entry.arming?)
    (armed : (role, delay) ∈ news) :
    (h.apply respond x).2.now + delay.toNat ≤ clockLimit := by
  rw [← filterMap_since Entry.arming? settled h added] at armed
  obtain ⟨e, hmem, harming⟩ := List.mem_filterMap.mp armed
  obtain rfl : e = .schedule role delay := by
    cases e with
    | schedule => cases harming; rfl
    | connect | subscribe | publish | cancel | fire | event | note => cases harming
  have hseen : .entry (.schedule role delay) ∈ sightings x (h.apply respond x) :=
    List.mem_append_right _ (List.mem_map_of_mem hmem)
  exact unsaturated.le (List.mem_append_left _ (List.mem_map_of_mem hseen))

/-! ### Clock-driven runs -/

end Node

namespace TimerQueue

variable {q rest : TimerQueue} {target now deadline : Nat} {r : TimerRole}

/-- What is taken out at an instant may be taken out at any other by which it is due. -/
theorem pop?_of_pop? (h : q.pop? target = some (r, deadline, rest)) (due : deadline ≤ now) :
    q.pop? now = some (r, deadline, rest) := by
  unfold pop? at h ⊢
  cases hfirst : q.first? with
  | none =>
    rw [hfirst] at h
    cases h
  | some first =>
    rw [hfirst] at h
    simp only at h ⊢
    split at h
    · obtain ⟨rfl, rfl, rfl⟩ := h
      exact if_pos due
    · cases h

/-- The next deadline is that of the timer that is taken out. -/
theorem nextDeadline?_of_pop? (h : q.pop? target = some (r, deadline, rest)) :
    q.nextDeadline?.all (deadline ≤ ·) := by
  unfold pop? at h
  unfold nextDeadline?
  cases hfirst : q.first? with
  | none => rfl
  | some first =>
    rw [hfirst] at h
    simp only at h
    split at h
    · obtain ⟨-, rfl, -⟩ := h
      exact decide_eq_true (Nat.le_refl _)
    · cases h

/-- If nothing is taken out, the next deadline lies ahead. -/
theorem nextDeadline?_of_idle (h : q.pop? target = none) : q.nextDeadline?.all (target ≤ ·) := by
  unfold pop? at h
  unfold nextDeadline?
  cases hfirst : q.first? with
  | none => rfl
  | some first =>
    rw [hfirst] at h
    simp only at h
    split at h
    · cases h
    · exact decide_eq_true (Nat.le_of_not_le ‹_›)

end TimerQueue

namespace Node

open Site

variable {τ : Type} [Transport τ] {c : Config} {session : SessionParams}

/-- While timers fire until an instant, the chronicle goes on. -/
theorem exists_chronicle_of_drains {target : Nat} (reached : target ≤ clockLimit)
    {x x' : Node × Site τ} (h : Drains target x x') {H : Chronicle}
    (before : Chronicled c session H x) (ahead : x.2.now ≤ target) :
    x'.2.now ≤ target ∧ ∃ H', Chronicled c session H' x' := by
  induction h generalizing H with
  | done => exact ⟨ahead, H, before⟩
  | @fire x x' role deadline rest first after ih =>
    have hregular := before.regular
    obtain ⟨-, harmed, hdue, hnow, -⟩ := hregular.fired first reached
    have hpresent : x.2.now ≤ deadline := hregular.punctual.armed role deadline harmed
    -- The clock goes on to the deadline first, and then the timer goes off.
    have hclock : (Happening.clock deadline : Happening τ).InTime x :=
      ⟨hpresent, Nat.le_trans hdue reached, TimerQueue.nextDeadline?_of_pop? first⟩
    let there : Node × Site τ := (x.1, { x.2 with now := deadline })
    have hexpiry : (Happening.expiry role : Happening τ).InTime there :=
      Option.map_eq_some_iff.mpr ⟨_, TimerQueue.pop?_of_pop? first (Nat.le_refl deadline), rfl⟩
    have hthere : Regular there := hregular.apply hclock
    obtain ⟨-, happly, -⟩ := hthere.expiry hexpiry
    have hfired : there.2.fired role there.2.now = x.2.fired role deadline := by
      simp only [Site.fired, there, Nat.max_self, Nat.max_eq_right hpresent]
    rw [hfired] at happly
    have hchronicled := (before.next hclock).next hexpiry
    rw [show (Happening.clock deadline).apply respond x = there from rfl, happly] at hchronicled
    refine ih hchronicled ?_
    have hsame : (x.1.onTimer role (x.2.fired role deadline)).2.now = deadline :=
      ((acted_respond x.1 _ hregular.steady.settled (.timer role)).now_eq).trans hnow
    rw [hsame]
    exact hdue

/-- Every clock-driven run of a node that was started has a chronicle. -/
theorem exists_chronicle_of_clockRun {inputs : List Input} {x x' : Node × Site τ}
    (h : ClockRun inputs x x') {H : Chronicle} (before : Chronicled c session H x) :
    ∃ H', Chronicled c session H' x' := by
  induction h generalizing H with
  | nil => exact ⟨H, before⟩
  | transport t _ ih => exact ih (before.next (h := .transport t) trivial)
  | callback made _ ih =>
    exact ih (before.next (h := .callback _) (Input.isTimely_of_callback? made))
  | @advance duration _ x _ limit idle _ ih =>
    have hreached : laterInstant x.2.now duration ≤ clockLimit := Nat.min_le_right _ _
    have hahead : x.2.now ≤ laterInstant x.2.now duration :=
      Nat.le_min.mpr ⟨Nat.le_add_right _ _, before.regular.punctual.now⟩
    obtain ⟨hnow, H', hdrained⟩ :=
      exists_chronicle_of_drains hreached (drains_fireDue _ limit x idle) before hahead
    have hclock : (Happening.clock (laterInstant x.2.now duration) : Happening τ).InTime
        (fireDue onTimer (laterInstant x.2.now duration) limit x.1 x.2) :=
      ⟨hnow, hreached, TimerQueue.nextDeadline?_of_idle idle⟩
    exact ih (hdrained.next hclock)

end Node

end TankGauge
