/-!
# Timer roles

Each one-shot timer has a role, and a role has at most one timer. `PerRole` holds one value for
each role; `set` changes the value of one role and leaves the other four.
-/

namespace TankGauge

/-- What a timer is for. -/
inductive TimerRole
  /-- The next step down. -/
  | decrease
  /-- The next step up. -/
  | increase
  /-- The start of refilling, a while after a fill request has ended. -/
  | resume
  /-- The next connection attempt. -/
  | reconnect
  /-- The availability announcement of an accepted session. -/
  | announce
deriving DecidableEq, Repr

namespace TimerRole

/-- Every role, in the order in which roles are listed. -/
def all : List TimerRole := [decrease, increase, resume, reconnect, announce]

theorem mem_all (r : TimerRole) : r ∈ all := by cases r <;> decide

/-- Whether a timer belongs to the walk of the gauge: a step, or the start of refilling. -/
def isWalk : TimerRole → Bool
  | decrease | increase | resume => true
  | reconnect | announce => false

/-- The name a log line gives the role. -/
def name : TimerRole → String
  | decrease => "Decrease"
  | increase => "Increase"
  | resume => "Resume"
  | reconnect => "Reconnect"
  | announce => "Announce"

end TimerRole

/-- One value for each role. -/
structure PerRole (α : Type) where
  decrease : α
  increase : α
  resume : α
  reconnect : α
  announce : α
deriving DecidableEq, Repr

namespace PerRole

variable {α : Type}

/-- The same value for each role. -/
def all (a : α) : PerRole α := ⟨a, a, a, a, a⟩

/-- The value of a role. -/
def get (p : PerRole α) : TimerRole → α
  | .decrease => p.decrease
  | .increase => p.increase
  | .resume => p.resume
  | .reconnect => p.reconnect
  | .announce => p.announce

/-- Changes the value of one role. -/
def set (p : PerRole α) (r : TimerRole) (a : α) : PerRole α :=
  match r with
  | .decrease => { p with decrease := a }
  | .increase => { p with increase := a }
  | .resume => { p with resume := a }
  | .reconnect => { p with reconnect := a }
  | .announce => { p with announce := a }

@[simp] theorem get_all (a : α) (r : TimerRole) : (all a).get r = a := by cases r <;> rfl

@[simp] theorem get_set_self (p : PerRole α) (r : TimerRole) (a : α) : (p.set r a).get r = a := by
  cases r <;> rfl

theorem get_set_of_ne (p : PerRole α) {r s : TimerRole} (h : s ≠ r) (a : α) :
    (p.set r a).get s = p.get s := by
  cases r <;> cases s <;> first | rfl | exact absurd rfl h

theorem get_set (p : PerRole α) (r s : TimerRole) (a : α) :
    (p.set r a).get s = if s = r then a else p.get s := by
  by_cases h : s = r
  · subst h; simp
  · simp [h, get_set_of_ne]

@[ext] theorem ext {p q : PerRole α} (h : ∀ r, p.get r = q.get r) : p = q := by
  have h₁ := h .decrease
  have h₂ := h .increase
  have h₃ := h .resume
  have h₄ := h .reconnect
  have h₅ := h .announce
  cases p; cases q
  simp_all [get]

end PerRole

end TankGauge
