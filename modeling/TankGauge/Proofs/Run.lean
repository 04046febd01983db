import TankGauge.Bench

/-!
# Runs

A run is a list of happenings, one after the other. Most happenings are callbacks; beside them the
clock may show another time, the transport may change by itself, and a timer may expire, which
takes it out of the queue before its callback is made. Nothing is said about the order of clock
readings or about which armed timer expires first, so that a law of all runs is a law of the
clock-driven ones.

A run is told for anything that answers callbacks on a site, be it a node or something that a node
is compared with. `run_invariant` lifts what one happening preserves to whole runs, and
`run_relation` does so for two runs at a time.

The timers of a clock that moves on (`passTime`) and the stimuli of the bench are such happenings:
`exists_run_of_passTime` and `Bench.exists_run_of_apply`.
-/

namespace TankGauge

/-- What reaches a node from outside. -/
inductive Callback
  | start
  | connection (event : ConnectionEvent)
  | topic (name : String)
  | payload (data : Bytes) (last : Bool)
  | command (c : Command)
  /-- The callback of a timer is made, and the queue is not asked. -/
  | timer (role : TimerRole)
deriving DecidableEq, Repr

/-- What something on a site makes of callbacks. -/
abbrev Responder (α τ : Type) := Callback → α → Site τ → α × Site τ

/-- Something that happens to a site or to what lives on it. -/
inductive Happening (τ : Type)
  | callback (c : Callback)
  /-- The timer of a role, if it is armed, is taken out of the queue and its callback is made. -/
  | expiry (role : TimerRole)
  /-- The clock shows a time. -/
  | clock (reading : Nat)
  /-- The transport changes by itself: a link breaks, a queue empties, answers to come change. -/
  | transport (t : τ)

namespace Happening

variable {α τ : Type}

/-- Whether a happening is neither a start nor the callback of a timer that was not taken out of
the queue. -/
def isTimely : Happening τ → Bool
  | callback .start => false
  | callback (.timer _) => false
  | _ => true

/-- Whether a happening is what a clock does by itself: it shows a time, or a timer expires. -/
def isClockwork : Happening τ → Bool
  | expiry _ | clock _ => true
  | callback _ | transport _ => false

theorem isTimely_of_isClockwork {h : Happening τ} (clockwork : h.isClockwork) : h.isTimely := by
  cases h with
  | expiry | clock => rfl
  | callback | transport => cases clockwork

/-- What a happening makes of what it happens to. -/
def apply (respond : Responder α τ) (state : α × Site τ) : Happening τ → α × Site τ
  | callback c => respond c state.1 state.2
  | expiry role =>
    match state.2.timers.slots.get role with
    | none => state
    | some t =>
      respond (.timer role) state.1
        ({ state.2 with timers := state.2.timers.cancel role }.record (.fire role t.deadline))
  | clock reading => (state.1, { state.2 with now := reading })
  | transport t => (state.1, { state.2 with transport := t })

end Happening

/-! ## Runs and what they preserve -/

section

variable {α β τ : Type} {respond : Responder α τ}

/-- Lets happenings happen, one after the other. -/
def run (respond : Responder α τ) (state : α × Site τ) (happenings : List (Happening τ)) :
    α × Site τ :=
  happenings.foldl (Happening.apply respond) state

@[simp] theorem run_nil (state : α × Site τ) : run respond state [] = state := rfl

@[simp] theorem run_cons (state : α × Site τ) (h : Happening τ) (hs : List (Happening τ)) :
    run respond state (h :: hs) = run respond (h.apply respond state) hs := rfl

theorem run_append (state : α × Site τ) (first second : List (Happening τ)) :
    run respond state (first ++ second) = run respond (run respond state first) second :=
  List.foldl_append

/-- What callbacks and the going off of a timer keep true of a journal, a happening keeps true. -/
theorem Happening.journal_apply {P : List Entry → Prop} {state : α × Site τ} (h : Happening τ)
    (callback : ∀ (c : Callback) (s : Site τ), P s.journal → P (respond c state.1 s).2.journal)
    (fire : ∀ role deadline, P state.2.journal → P (.fire role deadline :: state.2.journal))
    (initial : P state.2.journal) : P (h.apply respond state).2.journal := by
  cases h with
  | callback c => exact callback c state.2 initial
  | clock | transport => exact initial
  | expiry role =>
    cases hslot : state.2.timers.slots.get role with
    | none =>
      simp only [Happening.apply, hslot]
      exact initial
    | some t =>
      simp only [Happening.apply, hslot]
      exact callback (.timer role) _ (fire role t.deadline initial)

/-- What each happening of a run preserves, the run preserves. -/
theorem run_invariant {P : α × Site τ → Prop} {hs : List (Happening τ)}
    (preserved : ∀ h ∈ hs, ∀ state, P state → P (h.apply respond state)) {state : α × Site τ}
    (initial : P state) : P (run respond state hs) := by
  induction hs generalizing state with
  | nil => exact initial
  | cons h rest ih =>
    rw [run_cons]
    refine ih (fun h' hmem => preserved h' (List.mem_cons_of_mem h hmem)) ?_
    exact preserved h List.mem_cons_self state initial

/-- What each happening preserves between two states, a run of the same happenings from both
preserves. -/
theorem run_relation {respond' : Responder β τ} {R : α × Site τ → β × Site τ → Prop}
    {hs : List (Happening τ)}
    (preserved : ∀ h ∈ hs, ∀ x y, R x y → R (h.apply respond x) (h.apply respond' y))
    {x : α × Site τ} {y : β × Site τ} (initial : R x y) :
    R (run respond x hs) (run respond' y hs) := by
  induction hs generalizing x y with
  | nil => exact initial
  | cons h rest ih =>
    rw [run_cons, run_cons]
    refine ih (fun h' hmem => preserved h' (List.mem_cons_of_mem h hmem)) ?_
    exact preserved h List.mem_cons_self x y initial

end

/-! ## The queue gives out armed timers only -/

namespace TimerQueue

private theorem foldl_earlier_mem {q : TimerQueue} (roles : List TimerRole)
    (best : Option (TimerRole × ArmedTimer))
    (hbest : ∀ r t, best = some (r, t) → q.slots.get r = some t) (r : TimerRole) (t : ArmedTimer)
    (h : roles.foldl (fun best r =>
      match q.slots.get r with
      | none => best
      | some t => some (earlier best r t)) best = some (r, t)) :
    q.slots.get r = some t := by
  induction roles generalizing best with
  | nil => exact hbest r t h
  | cons role rest ih =>
    rw [List.foldl_cons] at h
    refine ih _ ?_ h
    intro r' t' h'
    cases hslot : q.slots.get role with
    | none =>
      rw [hslot] at h'
      exact hbest r' t' h'
    | some u =>
      rw [hslot] at h'
      simp only [Option.some.injEq] at h'
      -- Whichever of the two comes earlier, it stands in the queue.
      cases best with
      | none =>
        obtain ⟨rfl, rfl⟩ := Prod.mk.inj h'
        exact hslot
      | some b =>
        obtain ⟨r₁, t₁⟩ := b
        simp only [earlier] at h'
        split at h'
        · obtain ⟨rfl, rfl⟩ := Prod.mk.inj h'
          exact hslot
        · obtain ⟨rfl, rfl⟩ := Prod.mk.inj h'
          exact hbest _ _ rfl

/-- What comes out first is armed. -/
theorem slots_of_first? {q : TimerQueue} {r : TimerRole} {t : ArmedTimer}
    (h : q.first? = some (r, t)) : q.slots.get r = some t :=
  foldl_earlier_mem TimerRole.all none (fun _ _ h => nomatch h) r t h

/-- What is taken out was armed and due, and is armed no more. -/
theorem eq_of_pop? {q rest : TimerQueue} {now deadline : Nat} {r : TimerRole}
    (h : q.pop? now = some (r, deadline, rest)) :
    ∃ t, q.slots.get r = some t ∧ t.deadline = deadline ∧ deadline ≤ now ∧ rest = q.cancel r := by
  unfold pop? at h
  cases hfirst : q.first? with
  | none =>
    rw [hfirst] at h
    cases h
  | some first =>
    obtain ⟨r', t⟩ := first
    rw [hfirst] at h
    simp only at h
    split at h
    · rename_i hdue
      simp only [Option.some.injEq, Prod.mk.injEq] at h
      obtain ⟨rfl, rfl, rfl⟩ := h
      exact ⟨t, slots_of_first? hfirst, rfl, hdue, rfl⟩
    · cases h

end TimerQueue

/-! ## Time that passes is a run -/

section

variable {α τ : Type} (respond : Responder α τ)

/-- Firing what is due is a run of clock readings and expiries. -/
theorem exists_run_of_fireDue (target limit : Nat) (state : α × Site τ) :
    ∃ hs : List (Happening τ), (∀ h ∈ hs, h.isClockwork) ∧
      fireDue (fun role => respond (.timer role)) target limit state.1 state.2 =
        run respond state hs := by
  induction limit generalizing state with
  | zero => exact ⟨[], by simp, rfl⟩
  | succ limit ih =>
    cases hpop : state.2.timers.pop? target with
    | none => exact ⟨[], by simp, by simp only [fireDue, hpop, run_nil]⟩
    | some popped =>
      obtain ⟨role, deadline, rest⟩ := popped
      obtain ⟨t, hslot, hdeadline, -, hrest⟩ := TimerQueue.eq_of_pop? hpop
      obtain ⟨hs, hclockwork, hrun⟩ := ih (respond (.timer role) state.1
        ({ state.2 with now := max state.2.now deadline, timers := rest }.record
          (.fire role deadline)))
      -- The clock goes to the deadline first, since that is the time that the callback sees.
      refine ⟨.clock (max state.2.now deadline) :: .expiry role :: hs, ?_, ?_⟩
      · intro h hmem
        rcases List.mem_cons.mp hmem with rfl | hmem
        · rfl
        rcases List.mem_cons.mp hmem with rfl | hmem
        · rfl
        · exact hclockwork h hmem
      · subst hdeadline hrest
        simp only [fireDue, hpop, run_cons, Happening.apply, hslot]
        exact hrun

/-- Time that passes is a run of clock readings and expiries. -/
theorem exists_run_of_passTime (limit target : Nat) (state : α × Site τ) :
    ∃ hs : List (Happening τ), (∀ h ∈ hs, h.isClockwork) ∧
      passTime (fun role => respond (.timer role)) limit target state.1 state.2 =
        run respond state hs := by
  obtain ⟨hs, hclockwork, hrun⟩ := exists_run_of_fireDue respond target limit state
  refine ⟨hs ++ [.clock target], ?_, ?_⟩
  · intro h hmem
    rcases List.mem_append.mp hmem with hmem | hmem
    · exact hclockwork h hmem
    · rw [List.mem_singleton.mp hmem]
      rfl
  · rw [run_append, ← hrun]
    rfl

end

/-! ## Runs of a node -/

namespace Node

variable {τ : Type} [Transport τ]

/-- What a node makes of callbacks. -/
def respond : Responder Node τ
  | .start, n, s => n.start s
  | .connection event, n, s => n.onConnectionEvent event s
  | .topic name, n, s => n.onTopic name s
  | .payload data last, n, s => n.onPayload data last s
  | .command c, n, s => n.handleCommand c s
  | .timer role, n, s => n.onTimer role s

/-- A node that has not been started, on a site where nothing has happened. -/
def fresh (c : Config) (session : SessionParams) (now : Nat) (t : τ) : Node × Site τ :=
  (ofConfig c session, { now, transport := t })

/-- A node that has just been started. -/
def launched (c : Config) (session : SessionParams) (now : Nat) (t : τ) : Node × Site τ :=
  (ofConfig c session).start { now, transport := t }

end Node

/-- A stimulus of the bench is a run, and a timely one if it is neither a start nor a timer. -/
theorem Bench.exists_run_of_apply (b : Bench) (stimulus : Stimulus)
    (h : stimulus ≠ .start) (h' : ∀ role, stimulus ≠ .timer role) (h'' : stimulus ≠ .describe) :
    ∃ hs : List (Happening Scripted), (∀ h ∈ hs, h.isTimely) ∧
      ((b.apply stimulus).node, (b.apply stimulus).site) =
        TankGauge.run Node.respond (b.node, b.site) hs := by
  cases stimulus with
  | link up =>
    exact ⟨[.transport { b.site.transport with linkUp := up }], by simp [Happening.isTimely], rfl⟩
  | script connects subscribes publishes =>
    exact ⟨[.transport (b.site.transport.extend connects subscribes publishes)],
      by simp [Happening.isTimely], rfl⟩
  | advance duration =>
    obtain ⟨hs, hclockwork, hrun⟩ := exists_run_of_passTime Node.respond _ _ (b.node, b.site)
    exact ⟨hs, fun h hmem => Happening.isTimely_of_isClockwork (hclockwork h hmem), hrun⟩
  | start => exact absurd rfl h
  | describe => exact absurd rfl h''
  | connection event => exact ⟨[.callback (.connection event)], by simp [Happening.isTimely], rfl⟩
  | topic name => exact ⟨[.callback (.topic name)], by simp [Happening.isTimely], rfl⟩
  | payload data last => exact ⟨[.callback (.payload data last)], by simp [Happening.isTimely], rfl⟩
  | command c => exact ⟨[.callback (.command c)], by simp [Happening.isTimely], rfl⟩
  | timer role => exact absurd rfl (h' role)

end TankGauge
