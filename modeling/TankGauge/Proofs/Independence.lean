import TankGauge.Proofs.Parts
import TankGauge.Proofs.Tank
import Mathlib.Data.List.Infix

/-!
# The tank and the connection do not interfere

A node has two parts: its tank (`Tank.part`) and its link (`Link.part`). They share the queue of
timers, the policy and the transport, and their timers go off in any order. Yet what becomes of the
tank in a clock-driven run is decided by the commands and messages that come in and by the time that
passes; no session, no news of one and no answer of the transport matters. And what becomes of the
link is decided by the news of sessions, the time that passes and the answers to the calls that ask
for a session (`Node.independent_of_clockRuns`).
-/

namespace TankGauge

/-! ## The two parts -/

/-- The part of a node that its commands are about. -/
def Tank.part : Part Tank where
  due k role := k.dueAt role
  disarm k role := k.arm role none
  owns := Callback.isTank
  reacts now c k k' := k' = k.respond now c

/-- Whether a callback is about the connection. -/
def Callback.isLink (c : Callback) : Bool := !c.isTank

/-- The answers to the calls that asked for a session, newest first. -/
def Site.connectAnswers {τ : Type} (s : Site τ) : List Answer :=
  s.view fun
    | .connect _ answer => some answer
    | _ => none

namespace Link

/-- The answers to the calls that asked for a session, newest first. -/
def answers (l : Link) : List Answer :=
  l.log.filterMap fun
    | .asked answer => some answer
    | _ => none

/-- What a callback about the connection may make of a link. How a call will be answered is not for
the link to say. -/
inductive Reacts (now : Nat) (l : Link) : Callback → Link → Prop
  | starts (answer : Answer) : l.Reacts now .start (l.ask now answer)
  | retries (answer : Answer) : l.Reacts now (.timer .reconnect) (l.ask now answer)
  | announces : l.Reacts now (.timer .announce) l.tell
  | hears (event : ConnectionEvent) : l.Reacts now (.connection event) (l.hear now event)

/-- The part of a node that the news of its sessions is about. -/
def part : Part Link where
  due l role :=
    match role with
    | .reconnect => l.retryAt
    | .announce => l.announceAt
    | .decrease | .increase | .resume => none
  disarm l role :=
    { l with
      retryAt := if .reconnect = role then none else l.retryAt
      announceAt := if .announce = role then none else l.announceAt }
  owns := Callback.isLink
  reacts now c l l' := l.Reacts now c l'

/-! ### A link is determined by the answers to its calls -/

variable (l : Link) (now : Nat)

theorem answers_hear (event : ConnectionEvent) : (l.hear now event).answers = l.answers := by
  unfold hear
  cases l.status <;> cases event <;> rfl

/-- One answer more, unless there is a session or one is on its way. -/
theorem answers_ask (answer : Answer) :
    (l.ask now answer).answers =
      if l.status = .disconnected then answer :: l.answers else l.answers := by
  unfold ask
  split
  · cases answer <;> rfl
  · rfl

theorem suffix_answers_ask (answer : Answer) : l.answers <:+ (l.ask now answer).answers := by
  rw [answers_ask]
  split
  · exact List.suffix_cons answer l.answers
  · exact List.suffix_refl _

/-- Two answers to the same call are the same if both stand in one list at the same place. -/
theorem ask_unique {script : List Answer} {answer answer' : Answer}
    (h : (l.ask now answer).answers <:+ script) (h' : (l.ask now answer').answers <:+ script) :
    l.ask now answer = l.ask now answer' := by
  rw [answers_ask] at h h'
  by_cases hstatus : l.status = .disconnected
  · rw [if_pos hstatus] at h h'
    have hsuffix := List.suffix_of_suffix_length_le h h' (Nat.le_refl _)
    rw [(List.cons.inj (hsuffix.eq_of_length rfl)).1]
  · unfold ask
    rw [if_neg hstatus, if_neg hstatus]

variable {l now}

theorem Reacts.suffix_answers {c : Callback} {l' : Link} (h : l.Reacts now c l') :
    l.answers <:+ l'.answers := by
  cases h with
  | starts answer | retries answer => exact suffix_answers_ask l now answer
  | announces => exact List.suffix_refl _
  | hears event => rw [answers_hear]

/-- If it is known how its calls are answered, only one thing can become of a link. -/
theorem determined_part (script : List Answer) :
    part.Determined (fun l => l.answers <:+ script) where
  disarm h := h
  before reacts h := reacts.suffix_answers.trans h
  unique h₁ h₂ possible₁ possible₂ := by
    cases h₁ with
    | starts | retries =>
      cases h₂
      exact ask_unique _ _ possible₁ possible₂
    | announces | hears => cases h₂; rfl

end Link

/-- Only one thing can become of a tank. -/
theorem Tank.determined_part : Tank.part.Determined (fun _ => True) where
  disarm _ := trivial
  before _ _ := trivial
  unique h₁ h₂ _ _ := h₁.trans h₂.symm

/-! ## The parts as they are seen in a node -/

namespace Node

open Site

variable {τ : Type} [Transport τ]

theorem seen_tank : Tank.part.Seen (tank (τ := τ)) where
  due _ _ := rfl
  single {x} regular {role other} hrole hother := by
    have harmed (role : TimerRole) (h : ((tank x).dueAt role).isSome) :
        role.isWalk ∧ x.2.timers.isArmed role := by
      have hdue : (if role.isWalk then x.2.timers.deadline? role else none).isSome := h
      split at hdue
      · exact ⟨‹_›, by rw [TimerQueue.isArmed_eq_isSome]; exact hdue⟩
      · cases hdue
    obtain ⟨hwalk, hrole⟩ := harmed role hrole
    obtain ⟨hwalk', hother⟩ := harmed other hother
    exact regular.steady.walk.eq_of_armed hwalk hrole hwalk' hother
  clock _ _ := rfl
  transport _ _ := rfl
  fired x role deadline := by
    show _ = if role.isWalk then (tank x).arm role none else tank x
    cases hwalk : role.isWalk with
    | true => exact tank_fired x.1 x.2 hwalk deadline
    | false => exact tank_fired_of_not_isWalk x.1 x.2 hwalk deadline
  foreign {n s} _ {c} started foreign := by
    cases c with
    | start => exact absurd rfl started
    | topic | payload | command => cases foreign
    | connection event => exact tank_onConnectionEvent n s event
    | timer role =>
      cases role with
      | decrease | increase | resume => cases foreign
      | reconnect => exact tank_connect n s
      | announce => exact tank_announce n s
  own {n s} settled {_} _ own := tank_respond n s settled own

theorem seen_link : Link.part.Seen (link (τ := τ)) where
  due _ role := by cases role <;> rfl
  single {x} regular {role other} hrole hother := by
    -- A retry is planned only without a session, an announcement only with one.
    have hnever (hretry : (link x).retryAt.isSome) (hannounce : (link x).announceAt.isSome) :
        False := by
      have hdown := regular.alive.waits.mpr hretry
      rw [(regular.alive.due hannounce).1] at hdown
      cases hdown
    cases role with
    | decrease | increase | resume => cases hrole
    | reconnect =>
      cases other with
      | decrease | increase | resume => cases hother
      | reconnect => rfl
      | announce => exact (hnever hrole hother).elim
    | announce =>
      cases other with
      | decrease | increase | resume => cases hother
      | reconnect => exact (hnever hother hrole).elim
      | announce => rfl
  clock _ _ := rfl
  transport _ _ := rfl
  fired x role deadline := by
    have hfired := link_fired x.1 x.2 (max x.2.now deadline) deadline role
    cases role with
    | decrease | increase | resume | reconnect | announce => exact hfired
  foreign {n s} settled {c} _ foreign :=
    link_respond_of_tank n s settled (by simpa [Link.part, Callback.isLink] using foreign)
  own {n s} settled {c} started own := by
    cases c with
    | start => exact absurd rfl started
    | topic | payload | command => cases own
    | connection event =>
      show (link (n, s)).Reacts s.now _ (link (n.onConnectionEvent event s))
      rw [link_onConnectionEvent]
      exact .hears event
    | timer role =>
      cases role with
      | decrease | increase | resume => cases own
      | reconnect =>
        show (link (n, s)).Reacts s.now _ (link (n.connect s))
        rw [link_connect]
        exact .retries _
      | announce =>
        show (link (n, s)).Reacts s.now _ (link (n.announce s))
        rw [link_announce]
        exact .announces

/-! ## Both at the start -/

/-- A node that is started enters the idle mode, which does nothing to the tank. -/
theorem tank_launched (c : Config) (session : SessionParams) (now : Nat) (t : τ) :
    tank (launched c session now t) = tank (fresh c session now t) := by
  let n := ofConfig c session
  let blank : Site τ := { now, transport := t }
  rw [launched_eq, tank_connect]
  refine tank_congr n blank (fun role _ => ?_)
  exact congrArg (·.deadline? role) (timers_noteAll blank n.machine.start.2)

theorem now_launched (c : Config) (session : SessionParams) (now : Nat) (t : τ) :
    (launched c session now t).2.now = now :=
  (acted_respond _ _ (settled_ofConfig c session) .start).now_eq

theorem reacts_launched (c : Config) (session : SessionParams) (now : Nat) (t : τ) :
    (link (fresh c session now t)).Reacts now .start (link (launched c session now t)) := by
  obtain ⟨answer, hlink⟩ := exists_link_start (ofConfig c session) { now, transport := t }
    (settled_ofConfig c session)
  rw [show link (launched c session now t) = _ from hlink]
  exact .starts answer

omit [Transport τ] in
theorem answers_link (x : Node × Site τ) : (link x).answers = x.2.connectAnswers := by
  show (x.2.journal.filterMap Entry.link?).filterMap _ = x.2.journal.filterMap _
  rw [List.filterMap_filterMap]
  congr 1
  funext e
  cases e with
  | publish topic payload =>
    by_cases h : payload = Publication.onlineWord <;> simp [Entry.link?, h]
  | event e => cases e <;> rfl
  | note n => cases n <;> rfl
  | connect | subscribe | schedule | cancel | fire => rfl

/-! ## Two runs -/

variable {τ' : Type} [Transport τ']

/-- Take two clock-driven runs of nodes that were started alike, on any two transports.

If the same commands and messages come in and the same time passes, then whatever happens to the
connections, the runs end with the same level, mode, deferred request and pending topic, and with
the same deadlines of the walk timers.

If the same news of sessions comes in and the same time passes, and the calls that ask for a session
are answered alike as far as both runs go, then whatever happens to the tanks, the runs end with the
same status and number of attempts, and with the same deadlines of the timers of the connection.

A run may end after any of its inputs, so that this is how things stand at each moment. -/
theorem independent_of_clockRuns (c : Config) (session : SessionParams) {now : Nat}
    (reached : now ≤ clockLimit) (t : τ) (t' : τ') {inputs inputs' : List Input}
    {x : Node × Site τ} {x' : Node × Site τ'} (h : ClockRun inputs (launched c session now t) x)
    (h' : ClockRun inputs' (launched c session now t') x') :
    (inputs.filter (·.concerns Callback.isTank) = inputs'.filter (·.concerns Callback.isTank) →
      x.1.level = x'.1.level ∧ x.1.mode = x'.1.mode ∧
        x.1.machine.fillPending = x'.1.machine.fillPending ∧ x.1.pending = x'.1.pending ∧
        ∀ role, role.isWalk → x.2.timers.deadline? role = x'.2.timers.deadline? role) ∧
      (inputs.filter (·.concerns Callback.isLink) = inputs'.filter (·.concerns Callback.isLink) →
        x.2.connectAnswers <:+ x'.2.connectAnswers ∨ x'.2.connectAnswers <:+ x.2.connectAnswers →
        x.1.connection.status = x'.1.connection.status ∧
          x.1.connection.attempts = x'.1.connection.attempts ∧
          ∀ role, role.isWalk = false →
            x.2.timers.deadline? role = x'.2.timers.deadline? role) := by
  have hregular : Regular (launched c session now t) := .launched c session t reached
  have hregular' : Regular (launched c session now t') := .launched c session t' reached
  have hnow : (launched c session now t).2.now = (launched c session now t').2.now := by
    rw [now_launched, now_launched]
  constructor
  · intro same
    have htank : tank x = tank x' := by
      refine seen_tank.eq_of_clockRuns seen_tank Tank.determined_part hregular hregular' hnow
        (fun _ _ => ?_) h h' same trivial trivial
      rw [tank_launched, tank_launched]
      rfl
    refine ⟨congrArg (·.gauge.level) htank, congrArg (·.machine.mode) htank,
      congrArg (·.machine.fillPending) htank, congrArg (·.pending) htank, fun role hwalk => ?_⟩
    have hdue := congrFun (congrArg Tank.dueAt htank) role
    simpa only [tank, hwalk, if_true] using hdue
  · intro same answered
    have hlink : link x = link x' := by
      -- Of the two lists of answers the longer one is the script of both runs.
      obtain ⟨script, hscript, hscript'⟩ : ∃ script, (link x).answers <:+ script ∧
          (link x').answers <:+ script := by
        rw [answers_link, answers_link]
        rcases answered with h | h
        · exact ⟨_, h, List.suffix_refl _⟩
        · exact ⟨_, List.suffix_refl _, h⟩
      have hdetermined := Link.determined_part script
      refine seen_link.eq_of_clockRuns seen_link hdetermined hregular hregular' hnow
        (fun possible possible' => ?_) h h' same hscript hscript'
      exact hdetermined.unique (reacts_launched c session now t) (reacts_launched c session now t')
        possible possible'
    refine ⟨congrArg (·.connection.status) hlink, congrArg (·.connection.attempts) hlink,
      fun role hwalk => ?_⟩
    cases role with
    | decrease | increase | resume => cases hwalk
    | reconnect => exact congrArg Link.retryAt hlink
    | announce => exact congrArg Link.announceAt hlink

/-- Whether a fill request comes in before the session is accepted or after it, and whether what is
published is taken or refused, the gauge is as low and the connection as it was some time later. -/
theorem independent_of_order :
    ∃ x x' : Node × Site Scripted,
      ClockRun [.command (.fillRequest true), .connection .accepted, .advance 25]
        (launched {} (Bench.session {}) 0 {}) x ∧
      ClockRun [.connection .accepted, .command (.fillRequest true), .advance 25]
        (launched {} (Bench.session {}) 0 { linkUp := true }) x' ∧
      0 ≤ clockLimit ∧ x.1.level = x'.1.level ∧ x.1.connection.status = x'.1.connection.status := by
  have h : ClockRun [.command (.fillRequest true), .connection .accepted, .advance 25]
      (launched {} (Bench.session {}) 0 ({} : Scripted)) _ :=
    .callback rfl (.callback rfl (.advance 8 (by decide +kernel) .nil))
  have h' : ClockRun [.connection .accepted, .command (.fillRequest true), .advance 25]
      (launched {} (Bench.session {}) 0 ({ linkUp := true } : Scripted)) _ :=
    .callback rfl (.callback rfl (.advance 8 (by decide +kernel) .nil))
  obtain ⟨htank, hlink⟩ := independent_of_clockRuns {} (Bench.session {}) (Nat.zero_le clockLimit)
    _ _ h h'
  exact ⟨_, _, h, h', Nat.zero_le _, (htank rfl).1, (hlink rfl (.inl (by decide +kernel))).1⟩

end Node

end TankGauge
