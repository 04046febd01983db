import TankGauge.Timer.Role

/-!
# The timer queue

A queue holds at most one deadline for each role. Arming a role replaces the deadline it had.
Deadlines come out earliest first, and those that fall together in the order in which they were
armed. The queue reads no clock: whoever asks says what time it is.

Time is counted in milliseconds up to `clockLimit`, and a deadline beyond that instant falls on it.
-/

namespace TankGauge

/-- The last instant that the clock can name. -/
def clockLimit : Nat := UInt64.size - 1

/-- The instant `delay` milliseconds after `now`, or the last one there is. -/
def instantAfter (now : Nat) (delay : UInt32) : Nat := min (now + delay.toNat) clockLimit

/-- An armed timer: when it is due, and its place in the order of arming. -/
structure ArmedTimer where
  deadline : Nat
  serial : Nat
deriving DecidableEq, Repr

/-- Whether `a` comes out before `b`. -/
def ArmedTimer.precedes (a b : ArmedTimer) : Bool :=
  a.deadline < b.deadline || (a.deadline == b.deadline && a.serial < b.serial)

/-- The armed timers, and how many have been armed so far. -/
structure TimerQueue where
  slots : PerRole (Option ArmedTimer) := PerRole.all none
  nextSerial : Nat := 0
deriving DecidableEq, Repr

namespace TimerQueue

instance : Inhabited TimerQueue := ⟨{}⟩

/-- Arms a role to fall due `delay` after `now`, in place of any deadline it had. -/
def schedule (q : TimerQueue) (r : TimerRole) (delay : UInt32) (now : Nat) : TimerQueue where
  slots := q.slots.set r (some ⟨instantAfter now delay, q.nextSerial⟩)
  nextSerial := q.nextSerial + 1

/-- Disarms a role. -/
def cancel (q : TimerQueue) (r : TimerRole) : TimerQueue := { q with slots := q.slots.set r none }

/-- Whether a role is armed. -/
def isArmed (q : TimerQueue) (r : TimerRole) : Bool := (q.slots.get r).isSome

/-- When a role is due, if it is armed. -/
def deadline? (q : TimerQueue) (r : TimerRole) : Option Nat := (q.slots.get r).map (·.deadline)

/-- The armed roles, in the order of `TimerRole.all`. -/
def armed (q : TimerQueue) : List TimerRole := TimerRole.all.filter q.isArmed

/-- The number of armed roles. -/
def size (q : TimerQueue) : Nat := q.armed.length

/-- Whether no role is armed. -/
def isEmpty (q : TimerQueue) : Bool := q.size == 0

/-- The earlier of a timer found so far and one more. -/
def earlier (best : Option (TimerRole × ArmedTimer)) (r : TimerRole) (t : ArmedTimer) :
    TimerRole × ArmedTimer :=
  match best with
  | none => (r, t)
  | some (r', t') => if t.precedes t' then (r, t) else (r', t')

/-- The armed timer that comes out first. -/
def first? (q : TimerQueue) : Option (TimerRole × ArmedTimer) :=
  TimerRole.all.foldl (fun best r =>
    match q.slots.get r with
    | none => best
    | some t => some (earlier best r t)) none

/-- The earliest deadline. -/
def nextDeadline? (q : TimerQueue) : Option Nat := q.first?.map (·.2.deadline)

/-- Takes out the first timer, provided it is due at `now`. -/
def pop? (q : TimerQueue) (now : Nat) : Option (TimerRole × Nat × TimerQueue) :=
  match q.first? with
  | none => none
  | some (r, t) => if t.deadline ≤ now then some (r, t.deadline, q.cancel r) else none

/-- Takes out due timers one after the other, `limit` at most. -/
def popUpTo (now : Nat) : Nat → TimerQueue → List TimerRole × TimerQueue
  | 0, q => ([], q)
  | limit + 1, q =>
    match q.pop? now with
    | none => ([], q)
    | some (r, _, rest) =>
      let (roles, left) := popUpTo now limit rest
      (r :: roles, left)

/-- Takes out everything that is due, first things first. -/
def drain (q : TimerQueue) (now : Nat) : List TimerRole × TimerQueue :=
  popUpTo now TimerRole.all.length q

/-! ## What each operation does to each role -/

@[simp] theorem slots_schedule (q : TimerQueue) (r s : TimerRole) (delay : UInt32) (now : Nat) :
    (q.schedule r delay now).slots.get s =
      if s = r then some ⟨instantAfter now delay, q.nextSerial⟩ else q.slots.get s := by
  simp [schedule, PerRole.get_set]

@[simp] theorem slots_cancel (q : TimerQueue) (r s : TimerRole) :
    (q.cancel r).slots.get s = if s = r then none else q.slots.get s := by
  simp [cancel, PerRole.get_set]

theorem isArmed_schedule (q : TimerQueue) (r s : TimerRole) (delay : UInt32) (now : Nat) :
    (q.schedule r delay now).isArmed s = (s == r || q.isArmed s) := by
  by_cases h : s = r <;> simp [isArmed, h]

theorem isArmed_cancel (q : TimerQueue) (r s : TimerRole) :
    (q.cancel r).isArmed s = (s != r && q.isArmed s) := by
  by_cases h : s = r <;> simp [isArmed, h]

theorem isArmed_eq_isSome (q : TimerQueue) (r : TimerRole) :
    q.isArmed r = (q.deadline? r).isSome :=
  Option.isSome_map.symm

theorem deadline?_schedule (q : TimerQueue) (r s : TimerRole) (delay : UInt32) (now : Nat) :
    (q.schedule r delay now).deadline? s =
      if s = r then some (instantAfter now delay) else q.deadline? s := by
  by_cases h : s = r <;> simp [deadline?, h]

theorem deadline?_cancel (q : TimerQueue) (r s : TimerRole) :
    (q.cancel r).deadline? s = if s = r then none else q.deadline? s := by
  by_cases h : s = r <;> simp [deadline?, h]

end TimerQueue

end TankGauge
