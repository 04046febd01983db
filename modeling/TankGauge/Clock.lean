import TankGauge.Site

/-!
# Letting time pass

When the clock of a site moves on, the timers that fall due on the way fire one after the other,
each at its own deadline, and what a firing arms may fall due on the way as well. A limit on the
number of firings keeps the walk finite; whoever lets time pass takes a limit that is never
reached.
-/

namespace TankGauge

variable {τ α : Type}

/-- Fires what is due up to `target`, at most `limit` timers, each with the clock at its deadline.
`respond` is what `a` does when a timer of a role fires. -/
def fireDue (respond : TimerRole → α → Site τ → α × Site τ) (target : Nat) :
    Nat → α → Site τ → α × Site τ
  | 0, a, s => (a, s)
  | limit + 1, a, s =>
    match s.timers.pop? target with
    | none => (a, s)
    | some (role, deadline, timers) =>
      let fired := { s with now := max s.now deadline, timers }.record (.fire role deadline)
      let (a, s) := respond role a fired
      fireDue respond target limit a s

/-- Moves the clock to `target` and fires what falls due on the way. -/
def passTime (respond : TimerRole → α → Site τ → α × Site τ) (limit target : Nat) (a : α)
    (s : Site τ) : α × Site τ :=
  let (a, s) := fireDue respond target limit a s
  (a, { s with now := target })

/-- The instant `duration` milliseconds after `now`, or the last one there is. -/
def laterInstant (now duration : Nat) : Nat := min (now + duration) clockLimit

end TankGauge
