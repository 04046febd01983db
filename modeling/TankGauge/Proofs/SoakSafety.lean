import TankGauge.Soak
import TankGauge.Proofs.Chronicle

/-!
# The soak drill never fails

The drill may be run so that it watches itself (`Soak.drill`): it stops if a record names no topic,
if a payload goes beyond the end of the bytes, or if the node is not as it should be after a
record. It never stops (`Soak.drill_eq_ok`), whatever the bytes are.

That the timers fire in the order of the roles and not in that of their deadlines does no harm.
What the mode says of the walk timers is said of armed timers, and not of deadlines
(`Node.Steady`), and what reaches the node in a drill touches no other timer (`Site.WalksOnly`).
So both hold between any two callbacks of a drill (`Soak.Drilled`).
-/

namespace TankGauge

/-! ## Only walk timers are armed -/

namespace Site

variable {τ : Type} [Transport τ]

/-- No timer but those of the walk has ever been armed, and none is. -/
structure WalksOnly (s : Site τ) : Prop where
  armings : ∀ role delay, Entry.schedule role delay ∈ s.journal → role.isWalk
  armed : ∀ role, s.timers.isArmed role → role.isWalk

/-- An arming in the journal was there before, or is what has just been done. -/
theorem schedule_mem_perform {s : Site τ} {a : Action} {role : TimerRole} {delay : UInt32}
    (h : Entry.schedule role delay ∈ (s.perform a).journal) :
    Entry.schedule role delay ∈ s.journal ∨ a = .arm role delay := by
  have hother {e : Entry} (hne : Entry.schedule role delay ≠ e)
      (hmem : Entry.schedule role delay ∈ e :: s.journal) :
      Entry.schedule role delay ∈ s.journal ∨ a = .arm role delay :=
    .inl (List.mem_of_ne_of_mem hne hmem)
  cases a with
  | arm role' delay' =>
    have hmem : Entry.schedule role delay ∈ .schedule role' delay' :: s.journal := by
      simp only [perform, schedule] at h
      split at h
      · exact List.mem_of_ne_of_mem Entry.noConfusion h
      · exact h
    rcases List.mem_cons.mp hmem with heq | hearlier
    · cases heq
      exact .inr rfl
    · exact .inl hearlier
  | tell | note | disarm | connect | subscribe | publish => exact hother Entry.noConfusion h

namespace WalksOnly

variable {s : Site τ}

/-- What is done about the tank arms only walk timers. -/
theorem perform (h : s.WalksOnly) {a : Action} (tank : a.isTank) : (s.perform a).WalksOnly := by
  refine ⟨fun role delay hmem => ?_, fun role harmed => ?_⟩
  · rcases schedule_mem_perform hmem with hearlier | rfl
    · exact h.armings role delay hearlier
    · exact tank
  · cases a with
    | arm role' delay =>
      rw [Site.perform, timers_schedule, TimerQueue.isArmed_schedule] at harmed
      by_cases hsame : role = role'
      · rw [hsame]
        exact tank
      · rw [beq_false_of_ne hsame, Bool.false_or] at harmed
        exact h.armed role harmed
    | disarm role' =>
      rw [Site.perform, timers_cancel, TimerQueue.isArmed_cancel, Bool.and_eq_true] at harmed
      exact h.armed role harmed.2
    | tell | note | connect | subscribe | publish => exact h.armed role harmed

theorem acted (h : s.WalksOnly) {s' : Site τ} (hacted : s.Acted Action.isTank s') :
    s'.WalksOnly :=
  hacted.invariant (fun _ _ htank hs => hs.perform htank) h

omit [Transport τ] in
/-- A timer that is taken out of the queue leaves no other one behind. -/
theorem taken (h : s.WalksOnly) (role : TimerRole) :
    ({ s with timers := s.timers.cancel role } : Site τ).WalksOnly := by
  refine ⟨h.armings, fun other harmed => ?_⟩
  have hother : (s.timers.cancel role).isArmed other := harmed
  rw [TimerQueue.isArmed_cancel, Bool.and_eq_true] at hother
  exact h.armed other hother.2

end WalksOnly

end Site

namespace Soak

open Node

/-! ## Records -/

/-- Bytes cut into records. A record takes its header and as many bytes behind it as the header
says, or as many as are left. -/
inductive Cut : Bytes → List Record → Prop
  | done : Cut [] []
  | record (header : UInt8) {payload rest : Bytes} {later : List Record}
      (length : payload.length = min (header >>> 3).toNat (payload ++ rest).length)
      (cut : Cut rest later) :
      Cut (header :: (payload ++ rest))
        (⟨topicOf header, header &&& 4 ≠ 0, payload⟩ :: later)

/-- The records of a drill use up all its bytes. -/
theorem cut_records (bytes : Bytes) : Cut bytes (records bytes) := by
  induction bytes using records.induct with
  | case1 =>
    rw [records]
    exact .done
  | case2 header tail length ih =>
    have hlength : (tail.take length).length =
        min (header >>> 3).toNat (tail.take length ++ tail.drop length).length := by
      rw [List.take_append_drop, List.length_take]
    have hcut := Cut.record header hlength ih
    rw [List.take_append_drop] at hcut
    rw [records]
    exact hcut

/-- There are no more records than bytes. -/
theorem Cut.length_le {bytes : Bytes} {rs : List Record} (h : Cut bytes rs) :
    rs.length ≤ bytes.length := by
  induction h with
  | done => exact Nat.le_refl 0
  | record header _ _ ih =>
    rw [List.length_cons, List.length_cons, List.length_append]
    omega

/-! ## A drill that watches itself -/

/-- The topics that a header chooses from. -/
def topics : List String := ["tank/oxygen_request", "tank/alarm", "tank/other", ""]

/-- What may stop a drill. -/
inductive Fault
  /-- There is no such topic. -/
  | noTopic (selector : Nat)
  /-- A payload would go beyond the end. -/
  | pastEnd (length : Nat)
  /-- The node is not as it should be. -/
  | unsound
deriving DecidableEq, Repr

/-- How a node should be after a record: the level is on the scale, and no step is to come in an
alarm. -/
def Sound (state : Node × Site Inert) : Prop :=
  (1 ≤ state.1.level ∧ state.1.level ≤ 100) ∧
    (state.1.alarmActive →
      state.2.timers.isArmed .decrease = false ∧ state.2.timers.isArmed .increase = false)

instance (state : Node × Site Inert) : Decidable (Sound state) :=
  inferInstanceAs (Decidable (_ ∧ _))

/-- A drill that goes through the bytes record by record, and stops at the first fault. -/
def drill (state : Node × Site Inert) : Bytes → Except Fault (Node × Site Inert)
  | [] => .ok state
  | header :: tail =>
    let selector := (header &&& 3).toNat
    let length := min (header >>> 3).toNat tail.length
    match topics[selector]? with
    | none => .error (.noTopic selector)
    | some topic =>
      if length ≤ tail.length then
        let fed := feed state ⟨topic, header &&& 4 ≠ 0, tail.take length⟩
        if Sound fed then drill fed (tail.drop length) else .error .unsound
      else .error (.pastEnd length)
termination_by bytes => bytes.length
decreasing_by simp only [List.length_drop, List.length_cons]; omega

private theorem topics_getElem?_ofNat : ∀ n < 256,
    topics[(UInt8.ofNat n &&& 3).toNat]? = some (topicOf (UInt8.ofNat n)) := by
  decide +kernel

theorem topics_getElem? (header : UInt8) :
    topics[(header &&& 3).toNat]? = some (topicOf header) := by
  rw [← UInt8.ofNat_toNat (x := header)]
  exact topics_getElem?_ofNat header.toNat header.toNat_lt

/-! ## What holds between any two callbacks -/

/-- What holds of a drill that has been fed some records. -/
structure Drilled (fed : Nat) (state : Node × Site Inert) : Prop where
  steady : Steady state
  walksOnly : state.2.WalksOnly
  attempts : state.1.connection.attempts = 1
  transitions : state.1.machine.transitions ≤ fed

/-- The state in which the records begin. -/
def started : Node × Site Inert := fresh.1.start fresh.2

theorem run_eq (bytes : Bytes) : run bytes = (records bytes).foldl feed started := rfl

namespace Drilled

variable {fed : Nat} {n : Node} {s : Site Inert}

theorem start : Drilled 0 started := by
  have hsteady : Steady (launched {} fresh.1.connection.session 0 ({} : Inert)) :=
    Steady.launched _ _ _ _
  refine ⟨hsteady, ⟨fun role delay hmem => ?_, fun role harmed => ?_⟩, rfl, Nat.le_refl 0⟩
  · -- All that a start leaves behind are notes, events and the question for a session.
    have hnone : started.2.journal.all (fun e => e.arming? = none) := by decide +kernel
    have harming := List.all_eq_true.mp hnone _ hmem
    simp [Entry.arming?] at harming
  · cases role <;> cases harmed

/-- A callback about the tank, with at most one command in it. -/
theorem tank (h : Drilled fed (n, s)) {c : Callback} {s₁ : Site Inert} (tank : c.isTank)
    (walksOnly : s₁.WalksOnly) (steady : Steady (respond c n s₁)) {fed' : Nat}
    (room : fed + (c.command? n.pending).toList.length ≤ fed') :
    Drilled fed' (respond c n s₁) := by
  obtain ⟨hconnection, hacted⟩ := acted_respond_of_tank n s₁ h.steady.settled tank
  have hattempts : (respond c n s₁).1.connection.attempts = 1 := by
    rw [hconnection]
    exact h.attempts
  have htransitions : n.machine.transitions ≤ fed := h.transitions
  refine ⟨steady, walksOnly.acted hacted, hattempts, ?_⟩
  rw [(responds n s₁ h.steady.settled c).machine_eq h.steady.settled]
  cases hcommand : c.command? n.pending with
  | none =>
    rw [hcommand] at room
    exact htransitions.trans room
  | some command =>
    rw [hcommand] at room
    have hone : n.machine.transitions + 1 ≤ fed' := (Nat.succ_le_succ htransitions).trans room
    show n.machine.transitions + (if _ then 1 else 0) ≤ fed'
    split <;> omega

/-- A timer that is armed when its turn comes is one of the walk. -/
theorem fireIfArmed {state : Node × Site Inert} (h : Drilled fed state) (role : TimerRole) :
    Drilled fed (fireIfArmed state role) := by
  obtain ⟨n, s⟩ := state
  by_cases harmed : s.timers.isArmed role = true
  · let s₁ : Site Inert := { s with timers := s.timers.cancel role }
    have hfires : Soak.fireIfArmed (n, s) role = respond (.timer role) n s₁ := if_pos harmed
    have htank : (Callback.timer role).isTank := h.walksOnly.armed role harmed
    rw [hfires]
    exact h.tank htank (h.walksOnly.taken role) (h.steady.fired harmed rfl) (Nat.le_refl fed)
  · have hrests : Soak.fireIfArmed (n, s) role = (n, s) := if_neg harmed
    rw [hrests]
    exact h

/-- The timers may fire in any order. -/
theorem fireAll {state : Node × Site Inert} (h : Drilled fed state) (roles : List TimerRole) :
    Drilled fed (roles.foldl Soak.fireIfArmed state) := by
  induction roles generalizing state with
  | nil => exact h
  | cons role rest ih => exact ih (h.fireIfArmed role)

theorem feed {state : Node × Site Inert} (h : Drilled fed state) (r : Record) :
    Drilled (fed + 1) (feed state r) := by
  obtain ⟨n, s⟩ := state
  have htopic : Drilled fed (respond (.topic r.topic) n s) :=
    h.tank (c := .topic r.topic) rfl h.walksOnly (h.steady.callback nofun (fun _ => nofun))
      (Nat.le_refl fed)
  have hpayload : Drilled (fed + 1)
      (respond (.payload r.payload r.complete) (n.onTopic r.topic s).1 (n.onTopic r.topic s).2) :=
    htopic.tank (c := .payload r.payload r.complete) rfl htopic.walksOnly
      (htopic.steady.callback nofun (fun _ => nofun))
      (Nat.add_le_add_left Option.length_toList_le fed)
  exact hpayload.fireAll TimerRole.all

theorem feedAll {state : Node × Site Inert} (h : Drilled fed state) (rs : List Record) :
    Drilled (fed + rs.length) (rs.foldl Soak.feed state) := by
  induction rs generalizing fed state with
  | nil => exact h
  | cons r rest ih =>
    rw [List.foldl_cons, List.length_cons, Nat.add_comm rest.length, ← Nat.add_assoc]
    exact ih (h.feed r)

theorem sound {state : Node × Site Inert} (h : Drilled fed state) : Sound state := by
  refine ⟨⟨state.1.gauge.lowest_le, state.1.gauge.le_highest⟩, fun halarm => ?_⟩
  have hwalk := h.steady.walk
  have hmode : state.1.mode = .alarmed := of_decide_eq_true halarm
  rw [hmode] at hwalk
  exact ⟨hwalk .decrease rfl, hwalk .increase rfl⟩

end Drilled

/-! ## The drill -/

/-- A drill that watches itself finds nothing and ends where the other one does. -/
theorem drill_eq_ok {fed : Nat} {state : Node × Site Inert} (h : Drilled fed state)
    (bytes : Bytes) : drill state bytes = .ok ((records bytes).foldl feed state) := by
  induction bytes using records.induct generalizing fed state with
  | case1 => rw [drill, records, List.foldl_nil]
  | case2 header tail =>
    rename_i ih
    let length := (header >>> 3).toNat
    have htake : tail.take (min (header >>> 3).toNat tail.length) = tail.take length :=
      List.take_eq_take_min.symm
    have hdrop : tail.drop (min (header >>> 3).toNat tail.length) = tail.drop length :=
      List.drop_eq_drop_min.symm
    let r : Record := ⟨topicOf header, header &&& 4 ≠ 0, tail.take length⟩
    rw [drill, records, List.foldl_cons]
    simp only [topics_getElem?, htake, hdrop]
    rw [if_pos (Nat.min_le_right _ _), if_pos (h.feed r).sound]
    exact ih (h.feed r)

/-- The drill never fails, whatever its bytes are. They are cut into records, each with as much of
a payload as its header says or as is left, until none is left. Every header names a topic, no
payload goes beyond the end, and after every record, with all timers fired, the level is on the
scale and an alarm has left no step armed. The timers of the connection are never armed, not even
for a while. Nor does anything that is counted run over. -/
theorem drill_never_fails (bytes : Bytes) :
    Cut bytes (records bytes) ∧
    drill started bytes = .ok (run bytes) ∧
    (∀ k,
      let (n, s) := ((records bytes).take k).foldl feed started
      Sound (n, s) ∧
        s.timers.isArmed .reconnect = false ∧ s.timers.isArmed .announce = false) ∧
    (∀ delay, Entry.schedule .reconnect delay ∉ (run bytes).2.journal ∧
      Entry.schedule .announce delay ∉ (run bytes).2.journal) ∧
    (run bytes).1.machine.transitions ≤ (records bytes).length ∧
    (records bytes).length ≤ bytes.length ∧
    (run bytes).1.connection.attempts = 1 := by
  have hrun : Drilled (records bytes).length (run bytes) := by
    rw [run_eq, ← Nat.zero_add (records bytes).length]
    exact Drilled.start.feedAll (records bytes)
  have hcut := cut_records bytes
  refine ⟨hcut, drill_eq_ok .start bytes, fun k => ?_, fun delay => ⟨?_, ?_⟩, hrun.transitions,
    hcut.length_le, hrun.attempts⟩
  · have hpart := Drilled.start.feedAll ((records bytes).take k)
    have hunarmed (role : TimerRole) (hwalk : role.isWalk = false) :=
      Bool.eq_false_iff.mpr fun harmed =>
        Bool.false_ne_true (hwalk.symm.trans (hpart.walksOnly.armed role harmed))
    exact ⟨hpart.sound, hunarmed .reconnect rfl, hunarmed .announce rfl⟩
  · exact fun hmem => Bool.false_ne_true (hrun.walksOnly.armings _ _ hmem)
  · exact fun hmem => Bool.false_ne_true (hrun.walksOnly.armings _ _ hmem)

/-- An alarm that comes while the gauge is emptied: the walk was under way, and is stopped. -/
example :
    let bytes := [0x14, 0x4f, 0x4e, 0x15, 0x4f, 0x4e]
    (run bytes).1.alarmActive = true ∧ (run bytes).1.level = 98 := by
  decide +kernel

end Soak

end TankGauge
