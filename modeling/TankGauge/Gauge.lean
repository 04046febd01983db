/-!
# The gauge

The gauge reads a level between 1 and 100 and moves one unit at a time. A step against the end of
the scale leaves the level where it is and says so; every other step moves it.
-/

namespace TankGauge

/-- Which way the gauge is walked. -/
inductive Direction
  | decrease
  | increase
deriving DecidableEq, Repr

/-- The level at which a walk in this direction ends. -/
def Direction.boundary : Direction → UInt8
  | .decrease => 1
  | .increase => 100

/-- The level one unit further in this direction. -/
def Direction.next : Direction → UInt8 → UInt8
  | .decrease, level => level - 1
  | .increase, level => level + 1

/-- A gauge reading. -/
structure Gauge where
  level : UInt8
  lowest_le : 1 ≤ level
  le_highest : level ≤ 100
deriving DecidableEq, Repr

/-- What one step did: moved the gauge to a level, or found it at the end of the scale. -/
inductive StepOutcome
  | moved (level : UInt8)
  | atBoundary (level : UInt8)
deriving DecidableEq, Repr

/-- The level after the step. -/
def StepOutcome.level : StepOutcome → UInt8
  | .moved l => l
  | .atBoundary l => l

namespace Gauge

/-- A gauge at the upper end of its scale, as a fresh one is. -/
def full : Gauge := ⟨100, by decide, by decide⟩

instance : Inhabited Gauge := ⟨full⟩

private theorem pred_in_scale {l : UInt8} (low : 1 ≤ l) (high : l ≤ 100) (h : l ≠ 1) :
    1 ≤ l - 1 ∧ l - 1 ≤ 100 := by
  grind

private theorem succ_in_scale {l : UInt8} (low : 1 ≤ l) (high : l ≤ 100) (h : l ≠ 100) :
    1 ≤ l + 1 ∧ l + 1 ≤ 100 := by
  grind

/-- One unit down, unless the gauge is at its lowest. -/
def lower (g : Gauge) : Gauge × StepOutcome :=
  if h : g.level = 1 then (g, .atBoundary g.level)
  else
    have scale := pred_in_scale g.lowest_le g.le_highest h
    (⟨g.level - 1, scale.1, scale.2⟩, .moved (g.level - 1))

/-- One unit up, unless the gauge is full. -/
def raise (g : Gauge) : Gauge × StepOutcome :=
  if h : g.level = 100 then (g, .atBoundary g.level)
  else
    have scale := succ_in_scale g.lowest_le g.le_highest h
    (⟨g.level + 1, scale.1, scale.2⟩, .moved (g.level + 1))

/-- One unit in the given direction. -/
def step (g : Gauge) : Direction → Gauge × StepOutcome
  | .decrease => g.lower
  | .increase => g.raise

theorem level_step (g : Gauge) (d : Direction) : (g.step d).2.level = (g.step d).1.level := by
  cases d <;> simp only [step, lower, raise] <;> split <;> rfl

/-! ## The two cases of a step -/

/-- At the end of the scale a step leaves the gauge as it is. -/
theorem step_of_boundary {g : Gauge} {d : Direction} (h : g.level = d.boundary) :
    g.step d = (g, .atBoundary g.level) := by
  cases d with
  | decrease => exact dif_pos h
  | increase => exact dif_pos h

/-- Before the end of the scale a step moves the gauge by one. -/
theorem step_of_ne_boundary {g : Gauge} {d : Direction} (h : g.level ≠ d.boundary) :
    (g.step d).1.level = d.next g.level ∧ (g.step d).2 = .moved (d.next g.level) := by
  cases d with
  | decrease =>
    have hl : g.level ≠ 1 := h
    simp only [step, lower, dif_neg hl, Direction.next, and_self]
  | increase =>
    have hl : g.level ≠ 100 := h
    simp only [step, raise, dif_neg hl, Direction.next, and_self]

/-- On the scale, the next level down is a lower one. -/
theorem next_decrease_lt (g : Gauge) : Direction.decrease.next g.level < g.level := by
  have hlow := g.lowest_le
  show g.level - 1 < g.level
  grind

/-- Below the upper end of the scale, the next level up is a higher one. -/
theorem lt_next_increase {g : Gauge} (h : g.level ≠ 100) :
    g.level < Direction.increase.next g.level := by
  have hhigh := g.le_highest
  show g.level < g.level + 1
  grind

end Gauge

end TankGauge
