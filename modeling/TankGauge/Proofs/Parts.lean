import TankGauge.Proofs.Drain

/-!
# Parts of a node

In a clock-driven run inputs come in one after the other, time passes to its end, and timers fire at
their deadlines and not otherwise (`Node.ClockRun`).

A part of a node has timers of its own and callbacks that are about it (`Part`). By itself it takes
a course: it reacts to those callbacks and, as time passes, to its own timers (`Part.Course`). If
at most one of its timers is armed at a time, and each callback can make only one thing of it, then
it can take one course only (`Part.Course.unique`).

Whatever of a node looks like a part to a view (`Part.Seen`) takes the course of that part in any
clock-driven run: the rest of the node may fire timers in between, at whatever times, but the part
does not notice (`Part.Seen.course`). So what becomes of a part in such a run is decided by the
inputs that are about it (`Part.Seen.eq_of_clockRuns`).
-/

namespace TankGauge

/-! ## Clock-driven runs -/

/-- What a clock-driven run is given from outside. -/
inductive Input
  | command (c : Command)
  | topic (name : String)
  | payload (data : Bytes) (last : Bool)
  | connection (event : ConnectionEvent)
  /-- Time passes. -/
  | advance (duration : Nat)
deriving DecidableEq, Repr

namespace Input

/-- The callback that an input makes. Time makes none by itself. -/
def callback? : Input → Option Callback
  | command c => some (.command c)
  | topic name => some (.topic name)
  | payload data last => some (.payload data last)
  | connection event => some (.connection event)
  | advance _ => none

/-- Whether an input is about what some callbacks are about. Time is about everything. -/
def concerns (owns : Callback → Bool) (i : Input) : Bool := i.callback?.all owns

theorem isTimely_of_callback? {τ : Type} {i : Input} {c : Callback} (h : i.callback? = some c) :
    (Happening.callback c : Happening τ).isTimely := by
  cases i with
  | advance => cases h
  | command | topic | payload | connection =>
    obtain rfl := Option.some.inj h
    rfl

theorem ne_start_of_callback? {i : Input} {c : Callback} (h : i.callback? = some c) :
    c ≠ .start := by
  rintro rfl
  cases i <;> cases h

end Input

namespace Node

variable {τ : Type} [Transport τ]

/-- A run in which inputs come in, and the timers that fall due while time passes fire at their
deadlines until none is left that is due. The transport may change by itself at any moment. -/
inductive ClockRun : List Input → Node × Site τ → Node × Site τ → Prop
  | nil {x : Node × Site τ} : ClockRun [] x x
  | transport {inputs : List Input} {x x' : Node × Site τ} (t : τ)
      (after : ClockRun inputs (x.1, { x.2 with transport := t }) x') : ClockRun inputs x x'
  | callback {i : Input} {c : Callback} {inputs : List Input} {x x' : Node × Site τ}
      (made : i.callback? = some c) (after : ClockRun inputs (respond c x.1 x.2) x') :
      ClockRun (i :: inputs) x x'
  | advance {duration : Nat} {inputs : List Input} {x x' : Node × Site τ} (limit : Nat)
      (idle : (fireDue onTimer (laterInstant x.2.now duration) limit x.1 x.2).2.timers.pop?
        (laterInstant x.2.now duration) = none)
      (after : ClockRun inputs
        (passTime onTimer limit (laterInstant x.2.now duration) x.1 x.2) x') :
      ClockRun (.advance duration :: inputs) x x'

/-- A clock-driven run is a run. -/
theorem exists_run_of_clockRun {inputs : List Input} {x x' : Node × Site τ}
    (h : ClockRun inputs x x') : ∃ hs, x' = run respond x hs := by
  induction h with
  | nil => exact ⟨[], rfl⟩
  | transport t _ ih =>
    obtain ⟨hs, hrun⟩ := ih
    exact ⟨.transport t :: hs, hrun⟩
  | callback _ _ ih =>
    obtain ⟨hs, hrun⟩ := ih
    exact ⟨.callback _ :: hs, hrun⟩
  | @advance duration _ x _ limit _ _ ih =>
    obtain ⟨hs, hrun⟩ := ih
    obtain ⟨passing, -, hpassing⟩ := exists_run_of_passTime respond limit
      (laterInstant x.2.now duration) x
    refine ⟨passing ++ hs, ?_⟩
    rw [run_append, ← hpassing]
    exact hrun

end Node

/-! ## Parts by themselves -/

/-- A part of a node: when its timers are due, which callbacks are about it, and what these may make
of it at a time. -/
structure Part (β : Type) where
  due : β → TimerRole → Option Nat
  disarm : β → TimerRole → β
  owns : Callback → Bool
  reacts : Nat → Callback → β → β → Prop

namespace Part

variable {β : Type} (p : Part β)

/-- The timers of a part fire, each at its deadline and with no other one armed, until none is due
by an instant. -/
inductive Settles (target : Nat) : β → β → Prop
  | done {b : β} (idle : ∀ role deadline, p.due b role = some deadline → target < deadline) :
      Settles target b b
  | fire {b b₁ b' : β} {role : TimerRole} {deadline : Nat} (due : p.due b role = some deadline)
      (reached : deadline ≤ target) (only : ∀ other, (p.due b other).isSome → other = role)
      (reacts : p.reacts deadline (.timer role) (p.disarm b role) b₁)
      (after : Settles target b₁ b') : Settles target b b'

/-- What a part makes of inputs that are about it, from a time to a time. -/
inductive Course : List Input → Nat × β → Nat × β → Prop
  | nil {a : Nat × β} : Course [] a a
  | callback {i : Input} {c : Callback} {inputs : List Input} {now : Nat} {b b₁ : β} {a' : Nat × β}
      (made : i.callback? = some c) (reacts : p.reacts now c b b₁)
      (after : Course inputs (now, b₁) a') : Course (i :: inputs) (now, b) a'
  | advance {duration : Nat} {inputs : List Input} {now : Nat} {b b₁ : β} {a' : Nat × β}
      (settles : p.Settles (laterInstant now duration) b b₁)
      (after : Course inputs (laterInstant now duration, b₁) a') :
      Course (.advance duration :: inputs) (now, b) a'

/-- Among the states that are possible, a callback can make only one thing of a part. What led to a
possible state was possible. -/
structure Determined (Possible : β → Prop) : Prop where
  disarm : ∀ {b role}, Possible (p.disarm b role) → Possible b
  before : ∀ {now c b b'}, p.reacts now c b b' → Possible b' → Possible b
  unique : ∀ {now c b b₁ b₂}, p.reacts now c b b₁ → p.reacts now c b b₂ →
    Possible b₁ → Possible b₂ → b₁ = b₂

variable {p} {Possible : β → Prop}

theorem Settles.before (determined : p.Determined Possible) {target : Nat} {b b' : β}
    (h : p.Settles target b b') (possible : Possible b') : Possible b := by
  induction h with
  | done => exact possible
  | fire _ _ _ reacts _ ih => exact determined.disarm (determined.before reacts (ih possible))

theorem Settles.unique (determined : p.Determined Possible) {target : Nat} {b b₁ b₂ : β}
    (h₁ : p.Settles target b b₁) (h₂ : p.Settles target b b₂) (possible₁ : Possible b₁)
    (possible₂ : Possible b₂) : b₁ = b₂ := by
  -- At most one timer is armed, so that both ways fire the same one next, or none.
  induction h₁ with
  | done idle =>
    cases h₂ with
    | done => rfl
    | fire due reached => exact absurd reached (Nat.not_le_of_lt (idle _ _ due))
  | fire due reached only reacts after ih =>
    cases h₂ with
    | done idle => exact absurd reached (Nat.not_le_of_lt (idle _ _ due))
    | fire due' _ _ reacts' after' =>
      obtain rfl := only _ (Option.isSome_of_eq_some due')
      obtain rfl := Option.some.inj (due.symm.trans due')
      obtain rfl := determined.unique reacts reacts' (after.before determined possible₁)
        (after'.before determined possible₂)
      exact ih after' possible₁

theorem Course.before (determined : p.Determined Possible) {inputs : List Input} {a a' : Nat × β}
    (h : p.Course inputs a a') (possible : Possible a'.2) : Possible a.2 := by
  induction h with
  | nil => exact possible
  | callback _ reacts _ ih => exact determined.before reacts (ih possible)
  | advance settles _ ih => exact settles.before determined (ih possible)

/-- A part can take one course only. -/
theorem Course.unique (determined : p.Determined Possible) {inputs : List Input}
    {a a₁ a₂ : Nat × β} (h₁ : p.Course inputs a a₁) (h₂ : p.Course inputs a a₂)
    (possible₁ : Possible a₁.2) (possible₂ : Possible a₂.2) : a₁ = a₂ := by
  induction h₁ with
  | nil =>
    cases h₂
    rfl
  | callback made reacts after ih =>
    cases h₂ with
    | advance => cases made
    | callback made' reacts' after' =>
      obtain rfl := Option.some.inj (made.symm.trans made')
      obtain rfl := determined.unique reacts reacts' (after.before determined possible₁)
        (after'.before determined possible₂)
      exact ih after' possible₁
  | advance settles after ih =>
    cases h₂ with
    | callback made' => cases made'
    | advance settles' after' =>
      obtain rfl := settles.unique determined settles' (after.before determined possible₁)
        (after'.before determined possible₂)
      exact ih after' possible₁

end Part

/-! ## Parts of a node in its runs -/

open Node Site

variable {β τ : Type} [Transport τ]

/-- What a view shows of a node behaves like a part: it has the deadlines of its own timers, it
reacts to its own callbacks, and nothing else touches it. At most one of its timers is armed at a
time. -/
structure Part.Seen (p : Part β) (view : Node × Site τ → β) : Prop where
  due : ∀ x role, p.due (view x) role =
    if p.owns (.timer role) then x.2.timers.deadline? role else none
  single : ∀ {x}, Regular x → ∀ {role other}, (p.due (view x) role).isSome →
    (p.due (view x) other).isSome → other = role
  clock : ∀ x now, view (x.1, { x.2 with now }) = view x
  transport : ∀ x t, view (x.1, { x.2 with transport := t }) = view x
  fired : ∀ x role deadline, view (x.1, x.2.fired role deadline) =
    if p.owns (.timer role) then p.disarm (view x) role else view x
  foreign : ∀ {n : Node} {s : Site τ}, n.Settled → ∀ {c}, c ≠ .start → p.owns c = false →
    view (respond c n s) = view (n, s)
  own : ∀ {n : Node} {s : Site τ}, n.Settled → ∀ {c}, c ≠ .start → p.owns c →
    p.reacts s.now c (view (n, s)) (view (respond c n s))

namespace Part.Seen

variable {p : Part β} {view : Node × Site τ → β}

/-- While the timers of a node fire, its part notices its own only. -/
theorem settles (seen : p.Seen view) {target : Nat} (reached : target ≤ clockLimit)
    {x x' : Node × Site τ} (regular : Regular x) (h : Drains target x x') :
    p.Settles target (view x) (view x') ∧ Regular x' ∧ x'.2.timers.pop? target = none := by
  induction h with
  | @done x idle =>
    refine ⟨.done (fun role deadline hdue => ?_), regular, idle⟩
    rw [seen.due] at hdue
    split at hdue
    · exact TimerQueue.lt_of_pop?_eq_none idle hdue
    · cases hdue
  | @fire x x' role deadline rest first after ih =>
    obtain ⟨-, harmed, hle, hnow, hregular⟩ := regular.fired first reached
    obtain ⟨hsettles, hrest⟩ := ih hregular
    refine ⟨?_, hrest⟩
    have hfired := seen.fired x role deadline
    cases howns : p.owns (.timer role) with
    | false =>
      -- The rest of the node fires a timer, which is no step for the part.
      have hsame : view (x.1.onTimer role (x.2.fired role deadline)) = view x := by
        rw [howns, if_neg Bool.false_ne_true] at hfired
        exact (seen.foreign regular.steady.settled (c := .timer role) nofun howns).trans hfired
      rw [← hsame]
      exact hsettles
    | true =>
      have hdue : p.due (view x) role = some deadline := by
        rw [seen.due, howns, if_pos rfl]
        exact harmed
      have hreacts := seen.own (s := x.2.fired role deadline) regular.steady.settled
        (c := .timer role) nofun howns
      rw [howns, if_pos rfl] at hfired
      rw [hnow, hfired] at hreacts
      exact .fire hdue hle
        (fun other hother => seen.single regular (Option.isSome_of_eq_some hdue) hother)
        hreacts hsettles

/-- In a clock-driven run of a node, its part takes the course that the inputs about it lead to. -/
theorem course (seen : p.Seen view) {inputs : List Input} {x x' : Node × Site τ}
    (regular : Regular x) (h : ClockRun inputs x x') :
    p.Course (inputs.filter (·.concerns p.owns)) (x.2.now, view x) (x'.2.now, view x') := by
  induction h with
  | nil => exact .nil
  | @transport inputs x x' t _ ih =>
    have hcourse := ih (regular.transport t)
    rw [seen.transport x t] at hcourse
    exact hcourse
  | @callback i c inputs x x' made _ ih =>
    have hcourse := ih (regular.callback (Input.isTimely_of_callback? made))
    have hsettled := regular.steady.settled
    have hstarted := Input.ne_start_of_callback? made
    have hconcerns : i.concerns p.owns = p.owns c := by
      rw [Input.concerns, made]
      rfl
    rw [(acted_respond x.1 x.2 hsettled c).now_eq] at hcourse
    cases howns : p.owns c with
    | false =>
      -- The input is not about the part, and drops out of its list.
      rw [List.filter_cons_of_neg (by simp [hconcerns, howns])]
      rw [seen.foreign hsettled hstarted howns] at hcourse
      exact hcourse
    | true =>
      rw [List.filter_cons_of_pos (by simp [hconcerns, howns])]
      exact .callback made (seen.own hsettled hstarted howns) hcourse
  | @advance duration inputs x x' limit idle _ ih =>
    have hreached : laterInstant x.2.now duration ≤ clockLimit := Nat.min_le_right _ _
    obtain ⟨hsettles, hregular, hidle⟩ :=
      seen.settles hreached regular (drains_fireDue _ limit x idle)
    have hcourse := ih (hregular.passed hidle hreached)
    rw [List.filter_cons_of_pos rfl]
    refine .advance hsettles ?_
    rw [← seen.clock _ (laterInstant x.2.now duration)]
    exact hcourse

variable {τ' : Type} [Transport τ'] {view' : Node × Site τ' → β} {Possible : β → Prop}

/-- Two clock-driven runs with the same inputs about a part, from nodes whose parts look the same at
the same time, lead to the same part. -/
theorem eq_of_clockRuns (seen : p.Seen view) (seen' : p.Seen view')
    (determined : p.Determined Possible) {inputs inputs' : List Input}
    {x₀ x : Node × Site τ} {x₀' x' : Node × Site τ'} (regular : Regular x₀) (regular' : Regular x₀')
    (now : x₀.2.now = x₀'.2.now)
    (initial : Possible (view x₀) → Possible (view' x₀') → view x₀ = view' x₀')
    (h : ClockRun inputs x₀ x) (h' : ClockRun inputs' x₀' x')
    (same : inputs.filter (·.concerns p.owns) = inputs'.filter (·.concerns p.owns))
    (possible : Possible (view x)) (possible' : Possible (view' x')) : view x = view' x' := by
  have hcourse := seen.course regular h
  have hcourse' := seen'.course regular' h'
  have hinitial : view x₀ = view' x₀' :=
    initial (hcourse.before determined possible) (hcourse'.before determined possible')
  rw [same, now, hinitial] at hcourse
  exact congrArg Prod.snd (hcourse.unique determined hcourse' possible possible')

end Part.Seen

end TankGauge
