import TankGauge.Proofs.AlarmFreeze
import TankGauge.Proofs.Chronicle

/-!
# The pace of the gauge

What a chronicle tells of a tank is which commands came in and which moves its gauge made, each with
its time (`Chronicle.turns`). A move is in pace with the turns before it (`InPace`) if it keeps the
interval of a walk from every move that no command separates it from, and if it goes the way that
the commands ask for: down while a fill request stands and no alarm is active, and up only when a
fill request was withdrawn a pause ago or earlier, with no alarm active then or raised since.

Each armed deadline keeps its distance from what has happened already (`Tank.Paced`). A command that
enters a mode disarms what the mode must not inherit, so that no deadline outlives the command that
it was armed for, and a walk has one timer at a time.
-/

namespace TankGauge

/-! ## Turns of a tank -/

/-- A command that comes in, or a move of the gauge. -/
inductive Turn
  | command (c : Command)
  | move (d : Direction)
deriving DecidableEq

/-- The turn that is seen. -/
def Sighting.turn? : Sighting → Option Turn
  | entry e => e.command?.map .command
  | moved d => some (.move d)

/-- The commands and the moves that a chronicle tells of. -/
def Chronicle.turns (H : Chronicle) : List (Nat × Turn) := H.view Sighting.turn?

/-- The alarm command among commands. -/
def Command.alarm? : Command → Option Bool
  | .alarm on => some on
  | .fillRequest _ => none

/-- Whether the last alarm command, if there is one, switches on; the latest command comes first. -/
def lastAlarm (commands : List Command) : Bool := (commands.findSome? Command.alarm?).getD false

/-- The commands among turns. -/
def commandsIn (turns : List (Nat × Turn)) : List Command :=
  turns.filterMap fun
    | (_, .command c) => some c
    | (_, .move _) => none

section

variable (now : Nat) (turns : List (Nat × Turn))

@[simp] theorem commandsIn_command (c : Command) :
    commandsIn ((now, .command c) :: turns) = c :: commandsIn turns := rfl

@[simp] theorem commandsIn_move (d : Direction) :
    commandsIn ((now, .move d) :: turns) = commandsIn turns := rfl

end

theorem commandsIn_append (later earlier : List (Nat × Turn)) :
    commandsIn (later ++ earlier) = commandsIn later ++ commandsIn earlier :=
  List.filterMap_append

theorem commandsIn_stamped (now : Nat) (commands : List Command) :
    commandsIn (stamped now (commands.map .command)) = commands := by
  rw [commandsIn, stamped, List.filterMap_map, List.filterMap_map]
  exact List.filterMap_some

/-! ## What it is for a move to be in pace -/

/-- An instant keeps an interval from every move that no command has come after. -/
def Spaced (interval instant : Nat) (turns : List (Nat × Turn)) : Prop :=
  ∀ later earlier t d, turns = later ++ (t, .move d) :: earlier → commandsIn later = [] →
    t + interval ≤ instant

/-- At a time a fill request was withdrawn with no alarm active, and since then no fill command has
come and no alarm was raised. -/
def WithdrawnAt (time : Nat) (turns : List (Nat × Turn)) : Prop :=
  ∃ later earlier, turns = later ++ (time, .command (.fillRequest false)) :: earlier ∧
    lastAlarm (commandsIn earlier) = false ∧ ∀ c ∈ commandsIn later, c = .alarm false

/-- A move at an instant is in pace with the turns before it. -/
structure InPace (c : Config) (earlier : List (Nat × Turn)) (instant : Nat) (d : Direction) :
    Prop where
  spaced : Spaced c.stepInterval.toNat instant earlier
  down : d = .decrease →
    lastFill (commandsIn earlier) = true ∧ lastAlarm (commandsIn earlier) = false
  up : d = .increase → ∃ time, WithdrawnAt time earlier ∧ time + c.resumeDelay.toNat ≤ instant

/-- Every move is in pace with the turns before it. -/
def AllInPace (c : Config) (turns : List (Nat × Turn)) : Prop :=
  ∀ t d earlier, (t, .move d) :: earlier <:+ turns → InPace c earlier t d

section

variable {c : Config} {interval instant now time : Nat} {turns : List (Nat × Turn)}

theorem Spaced.command (command : Command) :
    Spaced interval instant ((now, .command command) :: turns) := by
  intro later earlier t d hsplit hnone
  cases later with
  | nil => cases hsplit
  | cons first later =>
    obtain ⟨rfl, -⟩ := List.cons.inj hsplit
    cases hnone

theorem Spaced.move (h : Spaced interval now turns) {d : Direction}
    (ahead : now + interval ≤ instant) : Spaced interval instant ((now, .move d) :: turns) := by
  intro later earlier t d' hsplit hnone
  cases later with
  | nil =>
    obtain ⟨heq, -⟩ := List.cons.inj hsplit
    obtain ⟨rfl, -⟩ := Prod.mk.inj heq
    exact ahead
  | cons first later =>
    obtain ⟨rfl, hturns⟩ := List.cons.inj hsplit
    have hle := h later earlier t d' hturns hnone
    omega

theorem WithdrawnAt.head (calm : lastAlarm (commandsIn turns) = false) :
    WithdrawnAt now ((now, .command (.fillRequest false)) :: turns) :=
  ⟨[], turns, rfl, calm, nofun⟩

/-- Moves, and the end of an alarm, leave a withdrawal standing. -/
theorem WithdrawnAt.cons (h : WithdrawnAt time turns) {turn : Turn}
    (harmless : ∀ command, turn = .command command → command = .alarm false) :
    WithdrawnAt time ((now, turn) :: turns) := by
  obtain ⟨later, earlier, hsplit, hcalm, hlater⟩ := h
  refine ⟨(now, turn) :: later, earlier, congrArg _ hsplit, hcalm, ?_⟩
  cases turn with
  | move d => exact hlater
  | command command => exact List.forall_mem_cons.mpr ⟨harmless command rfl, hlater⟩

theorem AllInPace.nil : AllInPace c [] :=
  fun _ _ _ hsuffix => absurd (List.suffix_nil.mp hsuffix) (List.cons_ne_nil _ _)

theorem AllInPace.command (h : AllInPace c turns) (command : Command) :
    AllInPace c ((now, .command command) :: turns) := by
  intro t d earlier hsuffix
  rcases List.suffix_cons_iff.mp hsuffix with heq | hsuffix
  · cases heq
  · exact h t d earlier hsuffix

theorem AllInPace.move (h : AllInPace c turns) {d : Direction} (inPace : InPace c turns now d) :
    AllInPace c ((now, .move d) :: turns) := by
  intro t d' earlier hsuffix
  rcases List.suffix_cons_iff.mp hsuffix with heq | hsuffix
  · cases heq
    exact inPace
  · exact h t d' earlier hsuffix

end

/-! ## What the deadlines of a tank keep to -/

namespace Mode

variable {mode : Mode} {fillPending : Bool} {command : Command}

/-- A refill begins with a fill request that is withdrawn while no alarm is active. -/
theorem fill_withdrawn_of_refilling
    (h : (mode.react fillPending command).next = some .refilling) :
    command = .fillRequest false ∧ mode ≠ .alarmed := by
  cases command with
  | fillRequest on =>
    cases on with
    | true => cases mode <;> cases h
    | false =>
      refine ⟨rfl, ?_⟩
      rintro rfl
      cases h
  | alarm on => cases mode <;> cases on <;> cases fillPending <;> cases h

/-- A refill goes on undisturbed only if the command is the end of an alarm that was never
raised. -/
theorem alarm_cleared_of_undisturbed
    (h : (refilling.react fillPending command).next = none) : command = .alarm false := by
  cases command with
  | fillRequest on => cases on <;> cases h
  | alarm on => cases on <;> first | rfl | cases h

end Mode

/-- The level of the gauge. -/
def Tank.level (k : Tank) : UInt8 := k.gauge.level

/-- The move between two moments of a tank, at a time. -/
def Tank.moves (now : Nat) (k k' : Tank) : List (Nat × Turn) :=
  stamped now ((Direction.between? k.level k'.level).toList.map .move)

namespace Tank

/-- All moves were in pace, and a step at any of the deadlines that are armed will be. -/
structure Paced (c : Config) (turns : List (Nat × Turn)) (k : Tank) : Prop where
  walk : ∀ role, k.dueAt role ≠ none → role.isWalk
  interval : k.stepInterval = c.stepInterval
  pause : k.machine.pause = c.resumeDelay
  kept : AllInPace c turns
  spaced : ∀ role due, k.dueAt role = some due → Spaced c.stepInterval.toNat due turns
  refills : k.machine.mode = .refilling → ∃ time, WithdrawnAt time turns ∧
    ∀ role due, k.dueAt role = some due → time + c.resumeDelay.toNat ≤ due

/-- No timer of the walk is armed. -/
def Quiet (k : Tank) : Prop := ∀ role, k.dueAt role = none

variable {c : Config} {k : Tank} {now : Nat} {turns : List (Nat × Turn)}

/-- If none was armed, the one that is armed now is the only one. -/
theorem Quiet.only (h : k.Quiet) {role other : TimerRole} {due due' : Nat}
    (armed : (k.arm role (some due)).dueAt other = some due') : other = role ∧ due' = due := by
  replace armed : (if other = role then some due else k.dueAt other) = some due' := armed
  split at armed
  · exact ⟨‹_›, (Option.some.inj armed).symm⟩
  · rw [h other] at armed
    cases armed

/-- A step moves the gauge and plans the next step, or it leaves all as it is. -/
theorem step_cases (k : Tank) (now : Nat) (d : Direction) :
    k.step now d = k ∨
      (Direction.between? k.level (k.step now d).level = some d ∧
        k.step now d = { k with gauge := (k.gauge.step d).1 }.arm d.timer
          (some (instantAfter now k.stepInterval))) := by
  unfold step
  by_cases hboundary : k.gauge.level = d.boundary
  · rw [if_pos hboundary]
    exact .inl rfl
  · rw [if_neg hboundary]
    refine .inr ⟨?_, rfl⟩
    have hlevel := (Gauge.step_of_ne_boundary hboundary).1
    show Direction.between? k.gauge.level (k.gauge.step d).1.level = some d
    rw [hlevel]
    cases d with
    | decrease => exact if_pos (Gauge.next_decrease_lt k.gauge)
    | increase =>
      have hlt := Gauge.lt_next_increase hboundary
      exact (if_neg (UInt8.lt_asymm hlt)).trans (if_pos hlt)

/-- A step of a tank that has no timer armed keeps the pace, if it is in pace. -/
theorem Paced.step (h : k.Paced c turns) (quiet : k.Quiet) {d : Direction}
    (inPace : InPace c turns now d)
    (refills : k.machine.mode = .refilling →
      ∃ time, WithdrawnAt time turns ∧ time + c.resumeDelay.toNat ≤ now)
    (fits : Direction.between? k.level (k.step now d).level ≠ none →
      now + k.stepInterval.toNat ≤ clockLimit) :
    (k.step now d).Paced c (moves now k (k.step now d) ++ turns) := by
  rcases step_cases k now d with hsame | ⟨hmoved, hstep⟩
  · rw [hsame, moves, Direction.between?_self]
    exact h
  · have hdue : instantAfter now k.stepInterval = now + c.stepInterval.toNat := by
      rw [instantAfter, Nat.min_eq_left (fits (by rw [hmoved]; nofun)), h.interval]
    have honly {role : TimerRole} {due : Nat} (harmed : (k.step now d).dueAt role = some due) :
        role = d.timer ∧ due = now + c.stepInterval.toNat := by
      rw [hstep, hdue] at harmed
      exact Quiet.only (k := { k with gauge := (k.gauge.step d).1 }) quiet harmed
    rw [moves, hmoved]
    refine ⟨fun role harmed => ?_, ?_, ?_, h.kept.move inPace, fun role due harmed => ?_,
      fun hmode => ?_⟩
    · obtain ⟨due, hdue⟩ := Option.ne_none_iff_exists'.mp harmed
      rw [(honly hdue).1]
      cases d <;> rfl
    · rw [hstep]
      exact h.interval
    · rw [hstep]
      exact h.pause
    · exact inPace.spaced.move (honly harmed).2.ge
    · rw [hstep] at hmode
      obtain ⟨time, hwithdrawn, hle⟩ := refills hmode
      refine ⟨time, hwithdrawn.cons nofun, fun role due harmed => ?_⟩
      have hnext := (honly harmed).2
      omega

theorem moves_self (now : Nat) (k : Tank) : moves now k k = [] := by
  rw [moves, Direction.between?_self]
  rfl

theorem commandsIn_moves (now : Nat) (k k' : Tank) : commandsIn (moves now k k') = [] := by
  rw [moves]
  cases Direction.between? k.level k'.level <;> rfl

/-- Fewer deadlines keep the pace all the more. -/
theorem Paced.disarm (h : k.Paced c turns) (role : TimerRole) :
    (k.arm role none).Paced c turns := by
  have hleft {other : TimerRole} {due : Nat} (harmed : (k.arm role none).dueAt other = some due) :
      k.dueAt other = some due := by
    replace harmed : (if other = role then none else k.dueAt other) = some due := harmed
    split at harmed
    · cases harmed
    · exact harmed
  refine ⟨fun other harmed => ?_, h.interval, h.pause, h.kept,
    fun other due harmed => h.spaced other due (hleft harmed), fun hmode => ?_⟩
  · obtain ⟨due, hdue⟩ := Option.ne_none_iff_exists'.mp harmed
    exact h.walk other (by rw [hleft hdue]; nofun)
  obtain ⟨time, hwithdrawn, hdue⟩ := h.refills hmode
  exact ⟨time, hwithdrawn, fun other due harmed => hdue other due (hleft harmed)⟩

/-- A timer that goes off, the only one that is armed, keeps the pace. -/
theorem Paced.goesOff (h : k.Paced c turns) {role : TimerRole} (due : k.dueAt role = some now)
    (single : ∀ other, (k.dueAt other).isSome → other = role)
    (asked : k.machine.mode = .emptying →
      lastFill (commandsIn turns) = true ∧ lastAlarm (commandsIn turns) = false)
    (fits : Direction.between? k.level ((k.arm role none).fire now role).level ≠ none →
      now + k.stepInterval.toNat ≤ clockLimit) :
    ((k.arm role none).fire now role).Paced c
      (moves now k ((k.arm role none).fire now role) ++ turns) := by
  have hdisarmed := h.disarm role
  have hquiet : (k.arm role none).Quiet := by
    intro other
    show (if other = role then none else k.dueAt other) = none
    split
    · rfl
    · cases hother : k.dueAt other with
      | none => rfl
      | some _ => exact absurd (single other (by rw [hother]; rfl)) ‹_›
  have hrefills (hmode : k.machine.mode = .refilling) :
      ∃ time, WithdrawnAt time turns ∧ time + c.resumeDelay.toNat ≤ now := by
    obtain ⟨time, hwithdrawn, hdue⟩ := h.refills hmode
    exact ⟨time, hwithdrawn, hdue role now due⟩
  cases hdirection : role.direction? k.machine.mode with
  | none =>
    have hfire : (k.arm role none).fire now role = k.arm role none := by
      unfold fire
      rw [show (k.arm role none).machine = k.machine from rfl, hdirection]
    rw [hfire, moves, show (k.arm role none).level = k.level from rfl, Direction.between?_self]
    exact hdisarmed
  | some d =>
    have hfire : (k.arm role none).fire now role = (k.arm role none).step now d := by
      unfold fire
      rw [show (k.arm role none).machine = k.machine from rfl, hdirection]
    rw [hfire] at fits ⊢
    refine hdisarmed.step hquiet ⟨h.spaced role now due, ?_, ?_⟩ hrefills fits
    · rintro rfl
      exact asked (TimerRole.mode_of_direction? hdirection)
    · rintro rfl
      exact hrefills (TimerRole.mode_of_direction? hdirection)

/-! ### Commands -/

/-- After a command the deadlines keep to the command, whatever they were before. -/
theorem Paced.command (h : k.Paced c turns) (command : Command) {k' : Tank}
    (walk : ∀ role, k'.dueAt role ≠ none → role.isWalk)
    (interval : k'.stepInterval = k.stepInterval) (pause : k'.machine.pause = k.machine.pause)
    (refills : k'.machine.mode = .refilling →
      ∃ time, WithdrawnAt time ((now, .command command) :: turns) ∧
        ∀ role due, k'.dueAt role = some due → time + c.resumeDelay.toNat ≤ due) :
    k'.Paced c ((now, .command command) :: turns) where
  walk := walk
  interval := interval.trans h.interval
  pause := pause.trans h.pause
  kept := h.kept.command command
  spaced _ _ _ := .command command
  refills := refills

/-- A tank with the timers of the walk disarmed. -/
def disarmed (k : Tank) : Tank :=
  { k with dueAt := fun role => if role.isWalk then none else k.dueAt role }

theorem Paced.quiet_disarmed (h : k.Paced c turns) (machine : ModeMachine) :
    ({ k with machine := machine } : Tank).disarmed.Quiet := by
  intro role
  show (if role.isWalk then none else k.dueAt role) = none
  split
  · rfl
  · exact Classical.not_not.mp (fun harmed => absurd (h.walk role harmed) ‹_›)

/-- What becomes of a tank that obeys a command: the mode stays or is the idle one and no timer is
touched, or all timers are disarmed and the new mode does what it does on entry. -/
inductive Obeys (now : Nat) (k : Tank) (command : Command) : Tank → Prop
  | stays (undisturbed : (k.machine.mode.react k.machine.fillPending command).next = none) :
    Obeys now k command { k with machine := k.machine.after command }
  | rests (mode : (k.machine.after command).mode = .idle) :
    Obeys now k command { k with machine := k.machine.after command }
  | freezes (mode : (k.machine.after command).mode = .alarmed) :
    Obeys now k command { k with machine := k.machine.after command }.disarmed
  | empties (mode : (k.machine.after command).mode = .emptying) :
    Obeys now k command ({ k with machine := k.machine.after command }.disarmed.step now .decrease)
  | refills (withdrawn : command = .fillRequest false) (calm : k.machine.mode ≠ .alarmed) :
    Obeys now k command ({ k with machine := k.machine.after command }.disarmed.arm .resume
      (some (instantAfter now k.machine.pause)))

/-- Disarming the timers of the walk one by one, in whatever order, disarms them all. -/
theorem disarmed_eq {first second third : TimerRole}
    (all : ∀ role : TimerRole, role.isWalk = (role == first || role == second || role == third)) :
    ((k.arm first none).arm second none).arm third none = k.disarmed := by
  refine congrArg (fun dueAt => { k with dueAt }) (funext fun role => ?_)
  show (if role = third then none else if role = second then none else
    if role = first then none else k.dueAt role) = if role.isWalk then none else k.dueAt role
  rw [all role]
  by_cases hthird : role = third
  · simp [hthird]
  · by_cases hsecond : role = second
    · simp [hsecond]
    · simp [hthird, hsecond]

theorem obeys (k : Tank) (now : Nat) (command : Command) :
    k.Obeys now command (k.obey now command) := by
  let turned : Tank := { k with machine := k.machine.after command }
  rcases Mode.effects_cases k.machine.mode k.machine.pause k.machine.fillPending command with
    ⟨hnext, heffects⟩ | ⟨next, hnext, heffects, -⟩
  · have hobey : k.obey now command = turned := by
      unfold Tank.obey
      rcases heffects with heffects | heffects <;> rw [heffects] <;> rfl
    rw [hobey]
    exact .stays hnext
  · have hmode : (k.machine.after command).mode = next := by
      show ((k.machine.mode.react k.machine.fillPending command).next).getD _ = _
      rw [hnext]
      rfl
    unfold Tank.obey
    rw [heffects]
    cases next with
    | idle => exact .rests hmode
    | alarmed =>
      show k.Obeys now command (((turned.arm .decrease none).arm .increase none).arm .resume none)
      rw [disarmed_eq (fun role => by cases role <;> rfl)]
      exact .freezes hmode
    | emptying =>
      show k.Obeys now command
        ((((turned.arm .increase none).arm .resume none).arm .decrease none).step now .decrease)
      rw [disarmed_eq (fun role => by cases role <;> rfl)]
      exact .empties hmode
    | refilling =>
      obtain ⟨hwithdrawn, hcalm⟩ := Mode.fill_withdrawn_of_refilling hnext
      have harmed : ((turned.arm .decrease none).arm .increase none).arm .resume
          (some (instantAfter now k.machine.pause)) =
          turned.disarmed.arm .resume (some (instantAfter now k.machine.pause)) := by
        refine congrArg (fun dueAt => { turned with dueAt }) (funext fun role => ?_)
        cases role <;> rfl
      show k.Obeys now command (((turned.arm .decrease none).arm .increase none).arm .resume _)
      rw [harmed]
      exact .refills hwithdrawn hcalm

/-- A command that is obeyed keeps the pace. -/
theorem Paced.obey (h : k.Paced c turns) {command : Command} {k' : Tank}
    (obeyed : k.Obeys now command k')
    (calm : k.machine.mode ≠ .alarmed → lastAlarm (commandsIn turns) = false)
    (asked : k'.machine.mode = .emptying →
      lastFill (command :: commandsIn turns) = true ∧
        lastAlarm (command :: commandsIn turns) = false)
    (steps : Direction.between? k.level k'.level ≠ none →
      now + k.stepInterval.toNat ≤ clockLimit)
    (pauses : command = .fillRequest false → k.machine.mode ≠ .alarmed →
      now + k.machine.pause.toNat ≤ clockLimit) :
    k'.Paced c (moves now k k' ++ (now, .command command) :: turns) := by
  have hquiet := h.quiet_disarmed (k.machine.after command)
  have hstill : ∀ role, ({ k with machine := k.machine.after command } : Tank).disarmed.dueAt
      role ≠ none → role.isWalk := fun role harmed => absurd (hquiet role) harmed
  cases obeyed with
  | stays undisturbed =>
    refine (moves_self now k).symm ▸ h.command command h.walk rfl rfl (fun hrefilling => ?_)
    have hmode : k.machine.mode = .refilling := by
      rw [← hrefilling]
      show _ = ((k.machine.mode.react k.machine.fillPending command).next).getD _
      rw [undisturbed]
      rfl
    rw [hmode] at undisturbed
    obtain rfl := Mode.alarm_cleared_of_undisturbed undisturbed
    obtain ⟨time, hwithdrawn, hdue⟩ := h.refills hmode
    exact ⟨time, hwithdrawn.cons (fun _ heq => (Turn.command.inj heq).symm), hdue⟩
  | rests mode =>
    exact (moves_self now k).symm ▸ h.command command h.walk rfl rfl
      (fun hrefilling => by cases mode.symm.trans hrefilling)
  | freezes mode =>
    exact (moves_self now k).symm ▸ h.command command hstill rfl rfl
      (fun hrefilling => by cases mode.symm.trans hrefilling)
  | empties mode =>
    have hentered : Paced c ((now, .command command) :: turns)
        { k with machine := k.machine.after command }.disarmed :=
      h.command command hstill rfl rfl (fun hrefilling => by cases mode.symm.trans hrefilling)
    have hsame : ({ k with machine := k.machine.after command }.disarmed.step now
        .decrease).machine.mode = .emptying := by
      rcases step_cases { k with machine := k.machine.after command }.disarmed now .decrease with
        hsame | ⟨-, hstep⟩
      · rw [hsame]; exact mode
      · rw [hstep]; exact mode
    exact hentered.step hquiet ⟨.command command, fun _ => asked hsame, nofun⟩
      (fun hrefilling => by cases mode.symm.trans hrefilling) steps
  | refills withdrawn halarm =>
    subst withdrawn
    have hdue : instantAfter now k.machine.pause = now + c.resumeDelay.toNat := by
      rw [instantAfter, Nat.min_eq_left (pauses rfl halarm), h.pause]
    rw [hdue]
    refine (moves_self now k).symm ▸ h.command _ (fun role harmed => ?_) rfl rfl
      (fun _ => ⟨now, .head (calm halarm), fun role due harmed => (hquiet.only harmed).2.ge⟩)
    obtain ⟨due, hdue⟩ := Option.ne_none_iff_exists'.mp harmed
    rw [(hquiet.only hdue).1]
    rfl

/-- Which payload is awaited does not matter for the pace. -/
theorem Paced.await (h : k.Paced c turns) (pending : PendingTopic) :
    ({ k with pending } : Tank).Paced c turns :=
  ⟨h.walk, h.interval, h.pause, h.kept, h.spaced, h.refills⟩

/-- A callback that is about the tank and comes from outside obeys the command that it brings, and
else does nothing but await a payload. -/
theorem respond_cases (k : Tank) (now : Nat) {callback : Callback} (tank : callback.isTank)
    (timed : ∀ role, callback ≠ .timer role) :
    ∃ pending, k.respond now callback =
      match callback.command? k.pending with
      | some command => { k with pending }.obey now command
      | none => { k with pending } := by
  cases callback with
  | start | connection => cases tank
  | timer role => exact absurd rfl (timed role)
  | topic name => exact ⟨_, rfl⟩
  | command command => exact ⟨k.pending, rfl⟩
  | payload data last =>
    cases last with
    | false => exact ⟨k.pending, rfl⟩
    | true =>
      refine ⟨.none, ?_⟩
      show (match Command.decode k.pending (BoundedList.truncate data : Payload).items with
        | some c => { k with pending := .none }.obey now c
        | none => { k with pending := .none }) = _
      cases hdecode : Command.decode k.pending (BoundedList.truncate data : Payload).items <;>
        simp only [Callback.command?, hdecode]

end Tank

/-! ## Which timers of the walk a node arms -/

namespace Node

open Site

variable {τ : Type} [Transport τ] (n : Node) (s : Site τ)

theorem armings_send (topics : Topics) (ps : List Publication) :
    (send topics ps s).view Entry.arming? = s.view Entry.arming? := by
  refine view_send topics _ (fun e hpublishing => ?_) ps s
  cases e with
  | schedule => cases hpublishing
  | connect | subscribe | publish | cancel | fire | event | note => rfl

/-- A step before the end of the scale arms the timer of the next one. -/
theorem armings_step (d : Direction) :
    (n.step d s).2.view Entry.arming? =
      if n.level = d.boundary then s.view Entry.arming?
      else (d.timer, n.stepInterval) :: s.view Entry.arming? := by
  by_cases h : n.level = d.boundary
  · rw [if_pos h, snd_step_of_boundary n s d h, note_eq_record, view_record, armings_send]
    rfl
  · rw [if_neg h, snd_step_of_ne_boundary n s d h, armings_schedule, armings_send]

omit [Transport τ] in
theorem armings_heard (c : Command) :
    (n.heard s c).view Entry.arming? = s.view Entry.arming? := by
  have hnoted := view_noteAll (s.emit (.commandReceived c)) Entry.arming? (fun _ => rfl)
    (n.machine.handle c).2.2
  unfold heard
  cases (n.machine.handle c).1 with
  | none => exact hnoted
  | some after => exact hnoted

/-- What entering a mode arms. -/
theorem armings_entered (pause : UInt32) (next : Mode) :
    (n.applyEffects s (next.entryEffects pause)).2.view Entry.arming? =
      (match next with
        | .idle | .alarmed => []
        | .emptying => if n.level = 1 then [] else [(.decrease, n.stepInterval)]
        | .refilling => [(.resume, pause)]) ++ s.view Entry.arming? := by
  cases next with
  | idle => rfl
  | emptying =>
    have hstep := armings_step n (((s.cancel .increase).cancel .resume).cancel .decrease) .decrease
    rw [armings_cancel, armings_cancel, armings_cancel] at hstep
    refine hstep.trans ?_
    show (if n.level = 1 then _ else _) = _
    split <;> rfl
  | refilling =>
    simp only [Mode.entryEffects_refilling, applyEffects_publishStable, applyEffects_cancel,
      applyEffects_schedule, applyEffects_nil, armings_schedule, armings_cancel, armings_send,
      List.singleton_append]
  | alarmed =>
    simp only [Mode.entryEffects_alarmed, applyEffects_publishStable, applyEffects_cancel,
      applyEffects_nil, armings_cancel, armings_send, List.nil_append]

/-- A command that moves the gauge arms the timer of the next step, and one that withdraws a fill
request while no alarm is active arms the timer of the pause. -/
theorem armings_handleCommand (settled : n.Settled) (c : Command) :
    ∃ news, (n.handleCommand c s).2.view Entry.arming? = news ++ s.view Entry.arming? ∧
      ((n.handleCommand c s).1.level ≠ n.level → (.decrease, n.stepInterval) ∈ news) ∧
      (c = .fillRequest false → n.mode ≠ .alarmed → (.resume, n.machine.pause) ∈ news) := by
  let turned : Node := { n with machine := n.machine.after c }
  have hwithdrawn (hc : c = .fillRequest false) (hmode : n.mode ≠ .alarmed) :
      (n.mode.react n.machine.fillPending c).next = some .refilling := by
    subst hc
    cases hm : n.mode with
    | alarmed => exact absurd hm hmode
    | idle | emptying | refilling => rfl
  rw [handleCommand_eq n s settled]
  rcases Mode.effects_cases n.mode n.machine.pause n.machine.fillPending c with
    ⟨hnext, heffects⟩ | ⟨next, hnext, heffects, -⟩
  · refine ⟨[], ?_, ?_, fun hc hmode => ?_⟩
    · rcases heffects with heffects | heffects <;> rw [heffects]
      · exact armings_heard n s c
      · exact (armings_send _ _ _).trans (armings_heard n s c)
    · intro hmoved
      rcases heffects with heffects | heffects <;> rw [heffects] at hmoved <;>
        exact absurd rfl hmoved
    · rw [hwithdrawn hc hmode] at hnext
      cases hnext
  · have hentered := armings_entered turned (n.heard s c) n.machine.pause next
    rw [armings_heard] at hentered
    rw [heffects]
    refine ⟨_, hentered, fun hmoved => ?_, fun hc hmode => ?_⟩
    · cases next with
      | idle | refilling | alarmed => exact absurd rfl hmoved
      | emptying =>
        by_cases hlevel : n.level = 1
        · exact absurd (level_step_of_boundary turned _ .decrease hlevel) hmoved
        · rw [if_neg (show ¬ turned.level = 1 from hlevel)]
          exact List.mem_singleton_self _
    · obtain rfl : next = .refilling := Option.some.inj (hnext.symm.trans (hwithdrawn hc hmode))
      exact List.mem_singleton_self _

/-- A callback that brings a command has it carried out, after at most some notes. -/
theorem respond_of_command? {callback : Callback} {c : Command}
    (brought : callback.command? n.pending = some c) :
    ∃ pending notes,
      respond callback n s = { n with pending }.handleCommand c (s.noteAll notes) := by
  cases callback with
  | start | connection | topic | timer => cases brought
  | command command =>
    obtain rfl := Option.some.inj brought
    exact ⟨n.pending, [], rfl⟩
  | payload data last =>
    cases last with
    | false => cases brought
    | true =>
      exact ⟨.none, [.payloadSeen (BoundedList.truncate data : Payload).items n.pending],
        onPayload_of_command n s brought⟩

/-- Whatever moves the gauge arms the timer of the next step, and a command that withdraws a fill
request while no alarm is active arms the timer of the pause. -/
theorem armings_respond (settled : n.Settled) {callback : Callback} (started : callback ≠ .start) :
    ∃ news, (respond callback n s).2.view Entry.arming? = news ++ s.view Entry.arming? ∧
      ((respond callback n s).1.level ≠ n.level → ∃ role, (role, n.stepInterval) ∈ news) ∧
      (callback.command? n.pending = some (.fillRequest false) → n.mode ≠ .alarmed →
        (.resume, n.machine.pause) ∈ news) := by
  cases hcommand : callback.command? n.pending with
  | some command =>
    obtain ⟨pending, notes, hrespond⟩ := respond_of_command? n s hcommand
    obtain ⟨news, hnews, hmoved, hwithdrawn⟩ :=
      armings_handleCommand { n with pending } (s.noteAll notes) settled command
    rw [view_noteAll s _ (fun _ => rfl)] at hnews
    rw [hrespond]
    exact ⟨news, hnews, fun h => ⟨_, hmoved h⟩, fun h => hwithdrawn (Option.some.inj h)⟩
  | none =>
    -- Of what a callback may come to without a command, a step only moves the gauge.
    have hresponds := responds n s settled callback
    obtain ⟨any, hany⟩ := exists_view_of_suffix Entry.arming?
      (acted_respond n s settled callback).suffix_journal
    generalize respond callback n s = result at hresponds hany ⊢
    cases hresponds with
    | aside | announces => exact ⟨_, hany, fun hmoved => absurd rfl hmoved, nofun⟩
    | obeys command pending brought =>
      rw [hcommand] at brought
      cases brought
    | starts => exact absurd rfl started
    | @walks _ d =>
      by_cases hlevel : n.level = d.boundary
      · exact ⟨_, hany, fun hmoved => absurd (level_step_of_boundary n s d hlevel) hmoved, nofun⟩
      · have hstep := armings_step n s d
        rw [if_neg hlevel] at hstep
        exact ⟨[_], hstep, fun _ => ⟨_, List.mem_singleton_self _⟩, nofun⟩

theorem armings_apply {x : Node × Site τ} (settled : x.1.Settled) {h : Happening τ}
    (timely : h.isTimely) :
    ∃ news, (h.apply respond x).2.view Entry.arming? = news ++ x.2.view Entry.arming? ∧
      ((h.apply respond x).1.level ≠ x.1.level → ∃ role, (role, x.1.stepInterval) ∈ news) ∧
      (h.command? x.1 = some (.fillRequest false) → x.1.mode ≠ .alarmed →
        (.resume, x.1.machine.pause) ∈ news) := by
  cases h with
  | callback c => exact armings_respond x.1 x.2 settled (by rintro rfl; cases timely)
  | clock | transport =>
    exact ⟨[], rfl, fun hmoved => absurd rfl hmoved, fun hwithdrawn => by cases hwithdrawn⟩
  | expiry role =>
    cases hslot : x.2.timers.slots.get role with
    | none =>
      simp only [Happening.apply, hslot]
      exact ⟨[], rfl, fun hmoved => absurd rfl hmoved, fun hwithdrawn => by cases hwithdrawn⟩
    | some t =>
      let fired := { x.2 with timers := x.2.timers.cancel role }.record (.fire role t.deadline)
      obtain ⟨news, hnews, hmoved, -⟩ :=
        armings_respond x.1 fired settled (show Callback.timer role ≠ .start by rintro ⟨⟩)
      simp only [Happening.apply, hslot]
      exact ⟨news, hnews, hmoved, fun hwithdrawn => by cases hwithdrawn⟩

/-! ## Runs -/

/-- The turns while something happens: the command that it brings, and then the move. -/
theorem turns_next {x : Node × Site τ} (settled : x.1.Settled) (h : Happening τ) (H : Chronicle) :
    Chronicle.turns
      (stamped (h.apply respond x).2.now (sightings x (h.apply respond x)) ++ H) =
      Tank.moves (h.apply respond x).2.now (tank x) (tank (h.apply respond x)) ++
        stamped (h.apply respond x).2.now ((h.command? x.1).toList.map .command) ++ H.turns := by
  have hcommands (s : Site τ) :
      s.view (fun e => Sighting.turn? (.entry e)) = s.commands.map .command :=
    List.map_filterMap.symm
  have hadded : (h.apply respond x).2.view (fun e => Sighting.turn? (.entry e)) =
      (h.command? x.1).toList.map .command ++
        x.2.view (fun e => Sighting.turn? (.entry e)) := by
    rw [hcommands, hcommands, show (h.apply respond x).2.commands = _ from
      commands_apply h x.1 x.2 settled, List.map_append]
  have hmoves (ds : List Direction) :
      ds.filterMap (fun d => Sighting.turn? (.moved d)) = ds.map .move :=
    congrFun List.filterMap_eq_map ds
  have hnext := view_next Sighting.turn? settled h hadded H
  rw [hmoves] at hnext
  exact hnext

/-- Beside what is known of a node at any time, an alarm is active as the last command says. -/
structure Heeded (x : Node × Site τ) : Prop extends Known x where
  alarm : x.1.alarmActive = lastAlarm x.2.commands

namespace Heeded

variable {x : Node × Site τ}

omit [Transport τ] in
theorem fresh (c : Config) (session : SessionParams) (now : Nat) (t : τ) :
    Heeded (fresh c session now t) := ⟨.fresh c session now t, rfl⟩

theorem apply (h : Heeded x) (happening : Happening τ) : Heeded (happening.apply respond x) := by
  refine ⟨h.toKnown.apply happening, ?_⟩
  obtain ⟨n, s⟩ := x
  obtain ⟨s', hpassed, hcases⟩ := apply_cases happening n s
  have halarm : n.alarmActive = lastAlarm s'.commands := by
    rw [hpassed.commands]
    exact h.alarm
  rcases hcases with ⟨happly, -⟩ | ⟨c, happly, -⟩
  · rw [happly]
    exact halarm
  · have hresponds := responds n s' h.settled c
    have hactive : (respond c n s').1.alarmActive =
        { n with machine := (respond c n s').1.machine }.alarmActive := rfl
    rw [happly, hactive, hresponds.machine_eq h.settled, hresponds.commands_eq h.settled]
    cases c.command? n.pending with
    | none => exact halarm
    | some command =>
      have hafter := alarmActive_after n command
      cases command with
      | fillRequest on => exact hafter.trans halarm
      | alarm on => exact hafter

omit [Transport τ] in
/-- In the emptying mode a fill request stands and no alarm is active. -/
theorem asked (h : Heeded x) (mode : x.1.mode = .emptying) :
    lastFill x.2.commands = true ∧ lastAlarm x.2.commands = false := by
  have hmode : x.1.machine.mode = .emptying := mode
  rw [← h.requested, ← h.alarm, fillRequested, alarmActive, hmode]
  exact ⟨rfl, rfl⟩

omit [Transport τ] in
theorem calm (h : Heeded x) (mode : x.1.mode ≠ .alarmed) : lastAlarm x.2.commands = false := by
  rw [← h.alarm]
  exact decide_eq_false mode

end Heeded

section

variable {c : Config} {x : Node × Site τ} {turns : List (Nat × Turn)}

/-- A callback from outside keeps the pace. -/
theorem paced_callback (settled : x.1.Settled) (heeded : Heeded x)
    (commands : commandsIn turns = x.2.commands) (paced : (tank x).Paced c turns)
    {callback : Callback} (timely : (Happening.callback callback : Happening τ).isTimely)
    (steps : Direction.between? x.1.level (respond callback x.1 x.2).1.level ≠ none →
      x.2.now + x.1.stepInterval.toNat ≤ clockLimit)
    (pauses : callback.command? x.1.pending = some (.fillRequest false) → x.1.mode ≠ .alarmed →
      x.2.now + x.1.machine.pause.toNat ≤ clockLimit) :
    (tank (respond callback x.1 x.2)).Paced c
      (Tank.moves x.2.now (tank x) (tank (respond callback x.1 x.2)) ++
        stamped x.2.now ((callback.command? x.1.pending).toList.map .command) ++ turns) := by
  by_cases htank : callback.isTank
  · have hrespond := tank_respond x.1 x.2 settled htank
    obtain ⟨pending, hcases⟩ := Tank.respond_cases (tank x) x.2.now htank
      (fun role heq => by subst heq; cases timely)
    have hpending : (tank x).pending = x.1.pending := rfl
    rw [hcases, hpending] at hrespond
    cases hcommand : callback.command? x.1.pending with
    | none =>
      rw [hcommand] at hrespond
      rw [hrespond]
      exact (Tank.moves_self x.2.now (tank x)).symm ▸ paced.await pending
    | some command =>
      rw [hcommand] at hrespond pauses
      let waiting : Tank := { tank x with pending }
      have hobeys := waiting.obeys x.2.now command
      rw [← show tank (respond callback x.1 x.2) = waiting.obey x.2.now command from hrespond]
        at hobeys
      have hcommands : (respond callback x.1 x.2).2.commands = command :: x.2.commands := by
        rw [(responds x.1 x.2 settled callback).commands_eq settled, hcommand]
        rfl
      rw [List.append_assoc]
      refine (paced.await pending).obey hobeys (fun hmode => ?_) (fun hmode => ?_) steps
        (fun hwithdrawn => pauses (congrArg some hwithdrawn))
      · rw [commands]
        exact heeded.calm hmode
      · rw [commands, ← hcommands]
        exact (heeded.apply (.callback callback)).asked hmode
  · cases callback with
    | topic | payload | command => exact absurd rfl htank
    | start | timer => cases timely
    | connection event =>
      have hsame := tank_onConnectionEvent x.1 x.2 event
      rw [show tank (respond (.connection event) x.1 x.2) = tank x from hsame, Tank.moves_self]
      exact paced

/-- A timer that goes off in time keeps the pace. -/
theorem paced_expiry (regular : Regular x) (heeded : Heeded x)
    (commands : commandsIn turns = x.2.commands) (paced : (tank x).Paced c turns)
    {role : TimerRole} (inTime : (Happening.expiry role : Happening τ).InTime x)
    (steps : Direction.between? x.1.level
        ((Happening.expiry role).apply respond x).1.level ≠ none →
      x.2.now + x.1.stepInterval.toNat ≤ clockLimit) :
    (tank ((Happening.expiry role).apply respond x)).Paced c
      (Tank.moves x.2.now (tank x) (tank ((Happening.expiry role).apply respond x)) ++ turns) := by
  obtain ⟨harmed, happly, -⟩ := regular.expiry inTime
  rw [happly] at steps ⊢
  by_cases hwalk : role.isWalk
  · have hnow : (x.2.fired role x.2.now).now = x.2.now := Nat.max_self _
    have hfired := tank_respond x.1 (x.2.fired role x.2.now) regular.steady.settled
      (c := .timer role) hwalk
    rw [hnow, tank_fired x.1 x.2 hwalk] at hfired
    replace hfired : tank (x.1.onTimer role (x.2.fired role x.2.now)) =
      ((tank x).arm role none).fire x.2.now role := hfired
    have hdue : (tank x).dueAt role = some x.2.now := (if_pos hwalk).trans harmed
    rw [show (x.1.onTimer role (x.2.fired role x.2.now)).1.level =
      (tank (x.1.onTimer role (x.2.fired role x.2.now))).level from rfl, hfired] at steps
    rw [hfired]
    refine paced.goesOff hdue (fun other hother => ?_) (fun hmode => ?_) steps
    · exact seen_tank.single regular (Option.isSome_of_eq_some hdue) hother
    · rw [commands]
      exact heeded.asked hmode
  · have hsame : tank (x.1.onTimer role (x.2.fired role x.2.now)) = tank x := by
      have hfired := tank_fired_of_not_isWalk x.1 x.2 (Bool.eq_false_iff.mpr hwalk) x.2.now
      cases role with
      | decrease | increase | resume => exact absurd rfl hwalk
      | reconnect => exact (tank_connect x.1 _).trans hfired
      | announce => exact (tank_announce x.1 _).trans hfired
    rw [hsame, Tank.moves_self]
    exact paced

end

namespace Chronicled

variable {c : Config} {session : SessionParams} {H : Chronicle} {x : Node × Site τ}

theorem heeded (h : Chronicled c session H x) : Heeded x := by
  induction h with
  | launched reached t => exact (Heeded.fresh c session _ t).apply (.callback .start)
  | @next _ _ _ happening _ ih => exact ih.apply happening

theorem turns_launched (c : Config) (session : SessionParams) (now : Nat) (t : τ) :
    Chronicle.turns
      (stamped now (sightings (fresh c session now t) (Node.launched c session now t))) = [] := by
  have hstart := turns_next (settled_ofConfig c session) (x := fresh c session now t)
    (.callback .start) []
  have htank : tank ((Happening.callback .start).apply respond (fresh c session now t)) =
      tank (fresh c session now t) := tank_launched c session now t
  have hnow : ((Happening.callback .start).apply respond (fresh c session now t)).2.now = now :=
    now_launched c session now t
  rw [htank, Tank.moves_self, List.append_nil, hnow] at hstart
  exact hstart

/-- The turns that a chronicle tells of hold all commands that came in. -/
theorem commandsIn_turns (h : Chronicled c session H x) : commandsIn H.turns = x.2.commands := by
  induction h with
  | @launched now _ t =>
    rw [turns_launched]
    let blank : Site τ := { now, transport := t }
    exact (commands_apply (.callback .start) _ blank (settled_ofConfig c session)).symm
  | @next H x before happening _ ih =>
    have hsettled := before.regular.steady.settled
    rw [turns_next hsettled, commandsIn_append, commandsIn_append, Tank.commandsIn_moves,
      commandsIn_stamped, ih]
    exact (commands_apply happening x.1 x.2 hsettled).symm

/-- If no timer is armed for an instant beyond the end of the clock, all moves are in pace, and the
deadlines keep the pace. -/
theorem paced (h : Chronicled c session H x) (unsaturated : H.Unsaturated) :
    (tank x).Paced c H.turns := by
  induction h with
  | @launched now _ t =>
    rw [turns_launched, tank_launched]
    refine ⟨fun role harmed => absurd ?_ harmed, rfl, rfl, .nil, fun role due harmed => ?_, nofun⟩
    · cases role <;> rfl
    · cases role <;> cases harmed
  | @next H x before happening inTime ih =>
    have hsettled := before.regular.steady.settled
    have hpaced := ih unsaturated.of_append
    obtain ⟨news, hnews, hmoved, hwithdrawn⟩ := armings_apply hsettled (isTimely_of_inTime inTime)
    have hsteps (h : Direction.between? x.1.level (happening.apply respond x).1.level ≠ none) :
        (happening.apply respond x).2.now + x.1.stepInterval.toNat ≤ clockLimit := by
      obtain ⟨role, hmem⟩ := hmoved (fun hsame => h (hsame ▸ Direction.between?_self _))
      exact armed_in_range hsettled unsaturated hnews hmem
    rw [turns_next hsettled]
    cases happening with
    | clock reading =>
      have hsame : tank ((Happening.clock reading).apply respond x) = tank x := rfl
      rw [hsame, Tank.moves_self]
      exact hpaced
    | transport t =>
      have hsame : tank ((Happening.transport t).apply respond x) = tank x := rfl
      rw [hsame, Tank.moves_self]
      exact hpaced
    | callback callback =>
      have hnow := (acted_respond x.1 x.2 hsettled callback).now_eq
      replace hnow : ((Happening.callback callback).apply respond x).2.now = x.2.now := hnow
      rw [hnow] at hsteps ⊢
      refine paced_callback hsettled before.heeded before.commandsIn_turns hpaced inTime hsteps
        (fun hbrought hmode => ?_)
      rw [← hnow]
      exact armed_in_range hsettled unsaturated hnews (hwithdrawn hbrought hmode)
    | expiry role =>
      obtain ⟨-, happly, -⟩ := before.regular.expiry inTime
      have hnow : ((Happening.expiry role).apply respond x).2.now = x.2.now := by
        rw [happly]
        exact before.regular.now_onTimer role
      have hsilent : (Happening.expiry role : Happening τ).command? x.1 = none := rfl
      rw [hnow] at hsteps ⊢
      rw [hsilent, Option.toList_none, List.map_nil, stamped, List.map_nil, List.append_nil]
      exact paced_expiry before.regular before.heeded before.commandsIn_turns hpaced inTime hsteps

end Chronicled

/-- Take a node that was started at some time and whose timers fire in time, with no deadline beyond
the end of the clock, and any of its moves.

The move keeps the interval of a walk from every move before it, unless a command came in between.
If it is a move up, a fill request was withdrawn a pause ago or earlier, at a time when the last
alarm command, if there was one, was no alarm, and since then no fill command has come and no alarm
was raised. If it is a move down, the last fill command is a fill request, and the last alarm
command, if there is one, is no alarm. -/
theorem moves_in_pace {c : Config} {session : SessionParams} {H : Chronicle} {x : Node × Site τ}
    (h : Chronicled c session H x) (unsaturated : H.Unsaturated) {now : Nat} {d : Direction}
    {earlier : List (Nat × Turn)} (moved : (now, .move d) :: earlier <:+ H.turns) :
    (∀ later before t d', earlier = later ++ (t, .move d') :: before → commandsIn later = [] →
        t + c.stepInterval.toNat ≤ now) ∧
      (d = .increase → ∃ later before time,
        earlier = later ++ (time, .command (.fillRequest false)) :: before ∧
          time + c.resumeDelay.toNat ≤ now ∧ lastAlarm (commandsIn before) = false ∧
          ∀ command ∈ commandsIn later, command = .alarm false) ∧
      (d = .decrease →
        lastFill (commandsIn earlier) = true ∧ lastAlarm (commandsIn earlier) = false) := by
  obtain ⟨hspaced, hdown, hup⟩ := (h.paced unsaturated).kept now d earlier moved
  refine ⟨hspaced, fun hincrease => ?_, hdown⟩
  obtain ⟨time, ⟨later, before, hsplit, hcalm, hlater⟩, hpause⟩ := hup hincrease
  exact ⟨later, before, time, hsplit, hpause, hcalm, hlater⟩

/-- A fill request that is withdrawn at once lowers the gauge by one, and the gauge is raised again
after the pause. -/
theorem moves_in_pace_after_pause :
    let start : Node × Site Scripted := launched {} (Bench.session {}) 0 {}
    let opening := stamped 0 (sightings (fresh {} (Bench.session {}) 0 ({} : Scripted)) start)
    let hs : List (Happening Scripted) := [.callback (.command (.fillRequest true)),
      .callback (.command (.fillRequest false)), .clock 5000, .expiry .resume]
    let H := chronicle start opening hs
    let earlier : List (Nat × Turn) := [(0, .command (.fillRequest false)), (0, .move .decrease),
      (0, .command (.fillRequest true))]
    Chronicled {} (Bench.session {}) H (run respond start hs) ∧ H.Unsaturated ∧
      (5000, .move .increase) :: earlier <:+ H.turns ∧
      ∃ later before time, earlier = later ++ (time, .command (.fillRequest false)) :: before ∧
        time + 5000 ≤ 5000 := by
  intro start opening hs H earlier
  have hchronicled : Chronicled {} (Bench.session {}) H (run respond start hs) :=
    (Chronicled.launched (Nat.zero_le clockLimit) ({} : Scripted)).run (by decide +kernel)
  have hunsaturated : H.Unsaturated := by decide +kernel
  have hmoved : (5000, .move .increase) :: earlier <:+ H.turns := by decide +kernel
  obtain ⟨-, hup, -⟩ := moves_in_pace hchronicled hunsaturated hmoved
  obtain ⟨later, before, time, hsplit, hpause, -⟩ := hup rfl
  exact ⟨hchronicled, hunsaturated, hmoved, later, before, time, hsplit, hpause⟩

end Node

end TankGauge
