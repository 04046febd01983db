import Mathlib.Data.List.Chain
import TankGauge.Proofs.Chronicle
import TankGauge.Proofs.Subscriptions

/-!
# When a session is asked for again

What a chronicle tells of a connection (`Chronicle.linkLog`) goes through one story over and over
(`Story`): a session is asked for, the attempt fails or is accepted, an accepted session is
subscribed to and announced, and sooner or later it drops. Each attempt but the first is made when
the delay is over that the loss before it calls for, which is the short one for a session that was
accepted, and the long one for an attempt that has failed in whatever way.

That the next attempt is planned for that time is what everything that happens to a link preserves
(`Link.Storied`). What can happen to it in time are six things (`Link.Steps`).
-/

namespace TankGauge

/-! ## The story of a connection -/

/-- How long the next attempt waits after the connection has left a status: the short delay after a
session that was accepted, and else the long one. -/
def Config.backoff (c : Config) (left : ConnectionStatus) : UInt32 :=
  if left = .connected then c.reconnectShort else c.reconnectLong

/-- The delays that a configuration sets, as its connection keeps them. -/
def Connection.backoff (c : Connection) (left : ConnectionStatus) : UInt32 :=
  if left = .connected then c.shortDelay else c.longDelay

/-- What is seen of the connection. -/
def Sighting.link? : Sighting → Option LinkEntry
  | entry e => e.link?
  | moved _ => none

/-- What a chronicle tells of the connection. -/
def Chronicle.linkLog (H : Chronicle) : List (Nat × LinkEntry) := H.view Sighting.link?

/-- Whether an entry tells of an attempt. -/
def LinkEntry.isAttempt : LinkEntry → Bool
  | asked _ => true
  | _ => false

/-- The connection was lost just before, and the delay that this calls for is over at an instant. -/
def DueAt (c : Config) (log : List (Nat × LinkEntry)) (instant : Nat) : Prop :=
  ∃ t left earlier, log = (t, .moved left .disconnected) :: earlier ∧
    instant = t + (c.backoff left).toNat

/-- What may be told of a connection up to a status, newest first. -/
inductive Story (c : Config) : ConnectionStatus → List (Nat × LinkEntry) → Prop
  | blank : Story c .disconnected []
  | asks {log : List (Nat × LinkEntry)} {now : Nat} (h : Story c .disconnected log)
      (due : log = [] ∨ DueAt c log now) (answer : Answer) :
      Story c .connecting ((now, .asked answer) :: (now, .moved .disconnected .connecting) :: log)
  | fails {log : List (Nat × LinkEntry)} (h : Story c .connecting log) (now : Nat) :
      Story c .disconnected ((now, .moved .connecting .disconnected) :: log)
  | accepts {log : List (Nat × LinkEntry)} (h : Story c .connecting log) (now : Nat) :
      Story c .connected (stamped now (acceptance c.topics) ++ log)
  | announces {log : List (Nat × LinkEntry)} (h : Story c .connected log) (now : Nat) :
      Story c .connected ((now, .announced) :: log)
  | drops {log : List (Nat × LinkEntry)} (h : Story c .connected log) (now : Nat) :
      Story c .disconnected ((now, .moved .connected .disconnected) :: log)

/-- The moves from one status to another in a log. -/
def movesIn (log : List (Nat × LinkEntry)) : List (ConnectionStatus × ConnectionStatus) :=
  log.filterMap fun
    | (_, .moved before after) => some (before, after)
    | _ => none

/-- The moves that a connection makes. -/
def ConnectionStatus.transitions : List (ConnectionStatus × ConnectionStatus) :=
  [(.disconnected, .connecting), (.connecting, .connected), (.connecting, .disconnected),
    (.connected, .disconnected)]

namespace Story

variable {c : Config} {status : ConnectionStatus} {log earlier : List (Nat × LinkEntry)} {t : Nat}

/-- Each attempt comes right after the move that it is made with, and that move comes right after
the loss that called for it, unless it is the first one. -/
theorem due_of_asked (h : Story c status log) {answer : Answer}
    (asked : (t, .asked answer) :: earlier <:+ log) :
    ∃ before, earlier = (t, .moved .disconnected .connecting) :: before ∧
      (before = [] ∨ DueAt c before t) := by
  induction h with
  | blank => exact absurd (List.suffix_nil.mp asked) (List.cons_ne_nil _ _)
  | asks h due _ ih =>
    rcases List.suffix_cons_iff.mp asked with heq | hsuffix
    · cases heq
      exact ⟨_, rfl, due⟩
    · exact ih (suffix_tail_of_ne hsuffix nofun)
  | fails _ _ ih | announces _ _ ih | drops _ _ ih => exact ih (suffix_tail_of_ne asked nofun)
  | accepts _ _ ih =>
    exact ih (suffix_of_not_mem asked (by simp [stamped, acceptance]))

/-- Each move away from no session comes with an attempt. -/
theorem asked_of_moved (h : Story c status log)
    (moved : (t, .moved .disconnected .connecting) :: earlier <:+ log) :
    ∃ answer, (t, .asked answer) :: (t, .moved .disconnected .connecting) :: earlier <:+ log := by
  -- What is found in a part of the log is found in the log.
  have hup {part : List (Nat × LinkEntry)} (news : List (Nat × LinkEntry))
      (found : ∃ answer,
        (t, .asked answer) :: (t, .moved .disconnected .connecting) :: earlier <:+ part) :
      ∃ answer, (t, .asked answer) :: (t, .moved .disconnected .connecting) :: earlier <:+
        news ++ part :=
    found.imp fun _ hsuffix => hsuffix.trans (List.suffix_append news part)
  induction h with
  | blank => exact absurd (List.suffix_nil.mp moved) (List.cons_ne_nil _ _)
  | asks h due answer ih =>
    rcases List.suffix_cons_iff.mp (suffix_tail_of_ne moved nofun) with heq | hsuffix
    · cases heq
      exact ⟨answer, List.suffix_refl _⟩
    · exact hup [_, _] (ih hsuffix)
  | fails _ _ ih | announces _ _ ih | drops _ _ ih =>
    exact hup [_] (ih (suffix_tail_of_ne moved nofun))
  | accepts _ _ ih =>
    exact hup [_, _, _] (ih (suffix_of_not_mem moved (by simp [stamped, acceptance])))

/-- The moves form a chain that ends where the connection stands. -/
theorem chain (h : Story c status log) :
    (∀ m, (movesIn log).head? = some m → m.2 = status) ∧
      (movesIn log).IsChain (fun later earlier => later.1 = earlier.2) ∧
      ∀ m ∈ movesIn log, m ∈ ConnectionStatus.transitions := by
  -- One more move goes on from where the connection stands.
  have hmove {before after : ConnectionStatus}
      {moves : List (ConnectionStatus × ConnectionStatus)}
      (h : (∀ m, moves.head? = some m → m.2 = before) ∧
        moves.IsChain (fun later earlier => later.1 = earlier.2) ∧
        ∀ m ∈ moves, m ∈ ConnectionStatus.transitions)
      (known : (before, after) ∈ ConnectionStatus.transitions) :
      (∀ m, ((before, after) :: moves).head? = some m → m.2 = after) ∧
        ((before, after) :: moves).IsChain (fun later earlier => later.1 = earlier.2) ∧
        ∀ m ∈ (before, after) :: moves, m ∈ ConnectionStatus.transitions :=
    ⟨fun m hm => (congrArg Prod.snd (Option.some.inj hm)).symm,
      h.2.1.cons (fun m hm => (h.1 m hm).symm), List.forall_mem_cons.mpr ⟨known, h.2.2⟩⟩
  induction h with
  | blank => exact ⟨nofun, .nil, nofun⟩
  | asks _ _ _ ih | fails _ _ ih | accepts _ _ ih | drops _ _ ih => exact hmove ih (by decide)
  | announces _ _ ih => exact ih

end Story

/-! ## What can happen to a link in time -/

namespace Link

/-- What an attempt leaves in the log of a link, newest first. -/
def attempt : Answer → List LinkEntry
  | .taken => [.asked .taken, .moved .disconnected .connecting]
  | .refused reason => [.moved .connecting .disconnected, .asked (.refused reason),
      .moved .disconnected .connecting]

/-- What may become of a link at a time, and what this leaves in its log. -/
inductive Steps (now : Nat) (l : Link) : List LinkEntry → Link → Prop
  | stays : Steps now l [] l
  | asks (down : l.status = .disconnected) (due : l.retryAt = some now) (answer : Answer) :
      Steps now l (attempt answer) ({ l with retryAt := none }.ask now answer)
  | fails (waiting : l.status = .connecting) :
      Steps now l [.moved .connecting .disconnected]
        ((l.moveTo .disconnected).retryAfter now l.connection.longDelay)
  | accepts (waiting : l.status = .connecting) :
      Steps now l (acceptance l.topics) (l.hear now .accepted)
  | announces (up : l.status = .connected) :
      Steps now l [.announced] { l with announceAt := none }.tell
  | drops (up : l.status = .connected) :
      Steps now l [.moved .connected .disconnected]
        (({ l with announceAt := none }.moveTo .disconnected).retryAfter now
          l.connection.shortDelay)

variable {l l' : Link} {now : Nat}

theorem log_ask (down : l.status = .disconnected) (now : Nat) (answer : Answer) :
    (l.ask now answer).log = attempt answer ++ l.log := by
  unfold ask
  rw [if_pos down]
  cases answer with
  | taken =>
    show _ :: .moved l.status .connecting :: l.log = _
    rw [down]
    rfl
  | refused reason =>
    show _ :: _ :: .moved l.status .connecting :: l.log = _
    rw [down]
    rfl

theorem log_accepted (waiting : l.status = .connecting) (now : Nat) :
    (l.hear now .accepted).log = acceptance l.topics ++ l.log := by
  unfold hear
  rw [waiting]
  show _ :: _ :: .moved l.status .connected :: l.log = _
  rw [waiting]
  rfl

theorem Steps.log_eq {news : List LinkEntry} (h : l.Steps now news l') :
    l'.log = news ++ l.log := by
  cases h with
  | stays | announces => rfl
  | asks down due answer => exact log_ask (l := { l with retryAt := none }) down now answer
  | accepts waiting => exact log_accepted waiting now
  | fails waiting =>
    show .moved l.status .disconnected :: l.log = _
    rw [waiting]
    rfl
  | drops up =>
    show .moved l.status .disconnected :: l.log = _
    rw [up]
    rfl

theorem countP_attempt (now : Nat) (answer : Answer) :
    (stamped now (attempt answer)).countP (·.2.isAttempt) = 1 := by
  cases answer <;> rfl

/-- If what is left in a log at a time ends with a loss, the delay that it calls for is over before
the end of the clock. -/
def PlansIn (c : Config) (now : Nat) (news : List LinkEntry) : Prop :=
  ∀ left, news.head? = some (.moved left .disconnected) → now + (c.backoff left).toNat ≤ clockLimit

/-- A link whose log tells a story that the link is in the middle of, with the next attempt planned
for when it is due. -/
structure Storied (c : Config) (log : List (Nat × LinkEntry)) (l : Link) : Prop where
  topics : l.topics = c.topics
  backoff : ∀ left, l.connection.backoff left = c.backoff left
  story : Story c l.status log
  retry : ∀ due, l.retryAt = some due → DueAt c log due
  attempts : l.connection.attempts = log.countP (·.2.isAttempt)

namespace Storied

variable {c : Config} {log : List (Nat × LinkEntry)}

/-- A connection that is lost plans the next attempt for when it is due. -/
theorem due_retry {left : ConnectionStatus} {delay : UInt32} (delayed : delay = c.backoff left)
    (fits : now + (c.backoff left).toNat ≤ clockLimit) (log : List (Nat × LinkEntry)) (due : Nat)
    (planned : some (instantAfter now delay) = some due) :
    DueAt c ((now, .moved left .disconnected) :: log) due := by
  obtain rfl : instantAfter now delay = due := Option.some.inj planned
  refine ⟨now, left, log, rfl, ?_⟩
  rw [instantAfter, delayed, Nat.min_eq_left fits]

/-- An attempt that is made when it is due goes on with the story. -/
theorem ask (h : Storied c log l) (down : l.status = .disconnected) (idle : l.retryAt = none)
    (due : log = [] ∨ DueAt c log now) (answer : Answer)
    (planned : PlansIn c now (attempt answer)) :
    Storied c (stamped now (attempt answer) ++ log) (l.ask now answer) := by
  have hstory : Story c .disconnected log := down ▸ h.story
  have hattempts : l.connection.attempts + 1 =
      (stamped now (attempt answer) ++ log).countP (·.2.isAttempt) := by
    rw [List.countP_append, countP_attempt, h.attempts, Nat.add_comm]
  unfold Link.ask
  rw [if_pos down]
  cases answer with
  | taken =>
    refine ⟨h.topics, h.backoff, hstory.asks due .taken, fun due harmed => ?_, hattempts⟩
    exact absurd (idle.symm.trans harmed) nofun
  | refused reason =>
    exact ⟨h.topics, h.backoff, (hstory.asks due (.refused reason)).fails now,
      due_retry (h.backoff .connecting) (planned _ rfl) _, hattempts⟩

/-- Whatever happens to a link in time goes on with its story. -/
theorem steps (h : Storied c log l) {news : List LinkEntry} (steps : l.Steps now news l')
    (waits : l.status = .disconnected ↔ l.retryAt.isSome) (planned : PlansIn c now news) :
    Storied c (stamped now news ++ log) l' := by
  have hidle (h : l.status ≠ .disconnected) : l.retryAt = none :=
    Option.not_isSome_iff_eq_none.mp (fun hsome => h (waits.mpr hsome))
  cases steps with
  | stays => exact h
  | asks down due answer =>
    have hasking : Storied c log { l with retryAt := none } :=
      ⟨h.topics, h.backoff, h.story, nofun, h.attempts⟩
    exact hasking.ask down rfl (.inr (h.retry now due)) answer planned
  | fails waiting =>
    have hstory : Story c .connecting log := waiting ▸ h.story
    exact ⟨h.topics, h.backoff, hstory.fails now,
      due_retry (h.backoff .connecting) (planned _ rfl) _, h.attempts⟩
  | drops up =>
    have hstory : Story c .connected log := up ▸ h.story
    exact ⟨h.topics, h.backoff, hstory.drops now,
      due_retry (h.backoff .connected) (planned _ rfl) _, h.attempts⟩
  | announces up =>
    have hstory : Story c .connected log := up ▸ h.story
    refine ⟨h.topics, h.backoff, ?_, fun due harmed => ?_, h.attempts⟩
    · exact (up.symm ▸ hstory.announces now : Story c l.status ((now, .announced) :: log))
    · exact absurd ((hidle (by rw [up]; nofun)).symm.trans harmed) nofun
  | accepts waiting =>
    have hstory : Story c .connecting log := waiting ▸ h.story
    have hquiet := hidle (by rw [waiting]; nofun)
    unfold hear
    rw [waiting, h.topics]
    refine ⟨h.topics, h.backoff, hstory.accepts now, fun due harmed => ?_, h.attempts⟩
    exact absurd (hquiet.symm.trans harmed) nofun

end Storied

end Link

/-! ## The timer of the next attempt -/

namespace Connection

open Site

variable {τ : Type} (c : Connection) (s : Site τ)

/-- `s'` came out of `s`, and if what was left in the log meanwhile ends with a loss, the timer of
the next attempt was armed with the delay that this calls for. -/
def Plans (news : List LinkEntry) (s s' : Site τ) : Prop :=
  ∃ arms, s'.view Entry.arming? = arms ++ s.view Entry.arming? ∧
    ∀ left, news.head? = some (.moved left .disconnected) → (.reconnect, c.backoff left) ∈ arms

variable {c s}

/-- Where nothing was lost, it does not matter which timers were armed. -/
theorem plans_of_suffix {s' : Site τ} (grown : s.journal <:+ s'.journal) {news : List LinkEntry}
    (kept : ∀ left, news.head? ≠ some (.moved left .disconnected)) : c.Plans news s s' := by
  obtain ⟨arms, harms⟩ := Node.exists_view_of_suffix Entry.arming? grown
  exact ⟨arms, harms, fun left hlost => absurd hlost (kept left)⟩

theorem plans_of_lost {s' : Site τ} {left : ConnectionStatus} {earlier : List LinkEntry}
    (armed : s'.view Entry.arming? = (.reconnect, c.backoff left) :: s.view Entry.arming?) :
    c.Plans (.moved left .disconnected :: earlier) s s' := by
  refine ⟨[(.reconnect, c.backoff left)], armed, fun other hlost => ?_⟩
  cases hlost
  exact List.mem_singleton.mpr rfl

/-- What was done before does not matter. -/
theorem Plans.of_suffix {s₁ s' : Site τ} {news : List LinkEntry} (h : c.Plans news s₁ s')
    (grown : s.journal <:+ s₁.journal) : c.Plans news s s' := by
  obtain ⟨arms, harms, hplanned⟩ := h
  obtain ⟨before, hbefore⟩ := Node.exists_view_of_suffix Entry.arming? grown
  refine ⟨arms ++ before, by rw [harms, hbefore, List.append_assoc], fun left hlost => ?_⟩
  exact List.mem_append_left before (hplanned left hlost)

variable (c s)

theorem armings_retryAfter (delay : UInt32) :
    (retryAfter delay s).view Entry.arming? = (.reconnect, delay) :: s.view Entry.arming? := by
  rw [retryAfter, emit_eq_record, view_record, armings_schedule]
  rfl

theorem armings_failAttempt :
    (c.failAttempt s).2.view Entry.arming? =
      (.reconnect, c.backoff .connecting) :: s.view Entry.arming? :=
  armings_retryAfter (c.moveTo .disconnected s).2 c.longDelay

variable [Transport τ]

theorem plans_connect (down : c.status = .disconnected) :
    c.Plans (Link.attempt ((c.asking s).connect c.session).1) s (c.connect s).2 := by
  have hasked : ((c.asking s).connect c.session).2.view Entry.arming? = s.view Entry.arming? :=
    view_connect (c.asking s) Entry.arming? c.session
  rw [connect_of_disconnected down]
  rcases hcall : (c.asking s).connect c.session with ⟨_ | reason, s'⟩ <;> rw [hcall] at hasked
  · exact ⟨[], hasked, nofun⟩
  · refine plans_of_lost ?_
    show (failAttempt _ (s'.note (.connectFailed reason))).2.view Entry.arming? = _
    rw [armings_failAttempt, note_eq_record, view_record]
    exact congrArg _ hasked

end Connection

/-! ## What happens in time to the link of a node -/

namespace Node

open Site

variable {τ : Type} [Transport τ]

/-- News of the session takes a step of the link. -/
theorem exists_steps_onConnectionEvent (n : Node) (s : Site τ) (event : ConnectionEvent) :
    ∃ news, (link (n, s)).Steps s.now news (link (n.onConnectionEvent event s)) ∧
      n.connection.Plans news s (n.onConnectionEvent event s).2 := by
  have hgrown : s.journal <:+ (n.onConnectionEvent event s).2.journal :=
    (Connection.acted_onEvent n.connection s n.topics event).suffix_journal
  have hlink : (link (n, s)).status = n.connection.status := rfl
  have hstays (h : (link (n, s)).hear s.now event = link (n, s)) :
      ∃ news, (link (n, s)).Steps s.now news ((link (n, s)).hear s.now event) ∧
        n.connection.Plans news s (n.onConnectionEvent event s).2 :=
    ⟨[], h.symm ▸ .stays, Connection.plans_of_suffix hgrown nofun⟩
  rw [link_onConnectionEvent]
  cases hstatus : n.connection.status with
  | disconnected =>
    refine hstays ?_
    unfold Link.hear
    rw [hlink, hstatus]
  | connecting =>
    have hfails : (link (n, s)).Steps s.now _ _ := .fails hstatus
    cases event with
    | accepted => exact ⟨_, .accepts hstatus, Connection.plans_of_suffix hgrown nofun⟩
    | rejected | disconnected =>
      refine ⟨[.moved .connecting .disconnected], ?_, Connection.plans_of_lost ?_⟩
      · unfold Link.hear
        rw [hlink, hstatus]
        exact hfails
      · show (n.connection.onEvent n.topics _ s).2.view _ = _
        unfold Connection.onEvent
        rw [hstatus]
        exact Connection.armings_failAttempt n.connection _
  | connected =>
    have hdrops : (link (n, s)).Steps s.now _ _ := .drops hstatus
    cases event with
    | accepted =>
      refine hstays ?_
      unfold Link.hear
      rw [hlink, hstatus]
    | rejected | disconnected =>
      refine ⟨[.moved .connected .disconnected], ?_, Connection.plans_of_lost ?_⟩
      · unfold Link.hear
        rw [hlink, hstatus]
        exact hdrops
      · show (n.connection.onEvent n.topics _ s).2.view _ = _
        unfold Connection.onEvent
        rw [hstatus]
        exact Connection.armings_retryAfter _ n.connection.shortDelay

/-- A timer that goes off in time takes a step of the link. -/
theorem exists_steps_expiry {x : Node × Site τ} (regular : Regular x) {role : TimerRole}
    (due : x.2.timers.deadline? role = some x.2.now) :
    ∃ news,
      (link x).Steps x.2.now news (link (x.1.onTimer role (x.2.fired role x.2.now))) ∧
        x.1.connection.Plans news x.2 (x.1.onTimer role (x.2.fired role x.2.now)).2 := by
  have hsettled := regular.steady.settled
  have hfired : link (x.1, x.2.fired role x.2.now) = _ :=
    link_fired x.1 x.2 (max x.2.now x.2.now) x.2.now role
  have hgrown : x.2.journal <:+ (x.2.fired role x.2.now).journal := List.suffix_cons _ _
  have hafter : (x.2.fired role x.2.now).journal <:+
      (x.1.onTimer role (x.2.fired role x.2.now)).2.journal :=
    (acted_respond x.1 _ hsettled (.timer role)).suffix_journal
  cases role with
  | decrease | increase | resume =>
    refine ⟨[], ?_, Connection.plans_of_suffix (hgrown.trans hafter) nofun⟩
    rw [show link (x.1.onTimer _ (x.2.fired _ x.2.now)) = link (x.1, x.2.fired _ x.2.now) from
      link_respond_of_tank x.1 _ hsettled (c := .timer _) rfl, hfired]
    exact .stays
  | reconnect =>
    have hdown : x.1.connection.status = .disconnected :=
      regular.alive.waits.mpr (Option.isSome_of_eq_some due)
    have hnow : (x.2.fired .reconnect x.2.now).now = x.2.now := Nat.max_self _
    refine ⟨_, ?_, (Connection.plans_connect x.1.connection _ hdown).of_suffix hgrown⟩
    show Link.Steps _ _ _ (link (x.1.connect (x.2.fired .reconnect x.2.now)))
    rw [link_connect, hfired, hnow]
    exact Link.Steps.asks (l := link x) hdown due _
  | announce =>
    obtain ⟨hup, -⟩ := regular.alive.due (Option.isSome_of_eq_some due)
    refine ⟨[.announced], ?_, Connection.plans_of_suffix (hgrown.trans hafter) nofun⟩
    show Link.Steps _ _ _ (link (x.1.announce (x.2.fired .announce x.2.now)))
    rw [link_announce, hfired]
    exact .announces hup

/-- Whatever happens in time takes a step of the link. -/
theorem exists_steps_apply {x : Node × Site τ} (regular : Regular x) {h : Happening τ}
    (inTime : h.InTime x) :
    ∃ news, (link x).Steps (h.apply respond x).2.now news (link (h.apply respond x)) ∧
      x.1.connection.Plans news x.2 (h.apply respond x).2 := by
  have hsettled := regular.steady.settled
  cases h with
  | clock | transport =>
    exact ⟨[], .stays, Connection.plans_of_suffix (List.suffix_refl _) nofun⟩
  | callback c =>
    have hacted := acted_respond x.1 x.2 hsettled c
    show ∃ news, (link x).Steps (respond c x.1 x.2).2.now news (link (respond c x.1 x.2)) ∧
      x.1.connection.Plans news x.2 (respond c x.1 x.2).2
    rw [hacted.now_eq]
    cases c with
    | start | timer => cases inTime
    | connection event => exact exists_steps_onConnectionEvent x.1 x.2 event
    | topic | payload | command =>
      rw [link_respond_of_tank x.1 x.2 hsettled rfl]
      exact ⟨[], .stays, Connection.plans_of_suffix hacted.suffix_journal nofun⟩
  | expiry role =>
    obtain ⟨hdue, happly, -⟩ := regular.expiry inTime
    rw [happly, regular.now_onTimer]
    exact exists_steps_expiry regular hdue

/-- The first session is asked for while the node starts. -/
theorem exists_attempt_start (c : Config) (session : SessionParams) (now : Nat) (t : τ) :
    ∃ answer,
      link (launched c session now t) = (link (fresh c session now t)).ask now answer ∧
        (Connection.ofConfig c session).Plans (Link.attempt answer) (fresh c session now t).2
          (launched c session now t).2 := by
  let blank : Site τ := { now, transport := t }
  obtain ⟨n, s, hstart, hlink, hacted⟩ :=
    exists_connect_start (ofConfig c session) blank (settled_ofConfig c session)
  have hconnection : n.connection = Connection.ofConfig c session := congrArg Link.connection hlink
  have hlaunched : launched c session now t = n.connect s := hstart
  refine ⟨((n.connection.asking s).connect n.connection.session).1, ?_, ?_⟩
  · rw [hlaunched, link_connect, hlink, hacted.now_eq]
    rfl
  · rw [hlaunched, ← hconnection]
    refine (Connection.plans_connect n.connection s ?_).of_suffix hacted.suffix_journal
    rw [hconnection]
    rfl

/-! ## Runs -/

/-- What is told of the connection while something happens. -/
theorem linkLog_next {x : Node × Site τ} (settled : x.1.Settled) (h : Happening τ)
    {news : List LinkEntry} (told : (link (h.apply respond x)).log = news ++ (link x).log)
    (H : Chronicle) :
    Chronicle.linkLog
      (stamped (h.apply respond x).2.now (sightings x (h.apply respond x)) ++ H) =
      stamped (h.apply respond x).2.now news ++ H.linkLog := by
  have hmoves (ds : List Direction) :
      ds.filterMap (fun d => Sighting.link? (.moved d)) = [] :=
    List.filterMap_eq_nil_iff.mpr (fun _ _ => rfl)
  have hnext := view_next Sighting.link? settled h told H
  rw [hmoves] at hnext
  exact hnext

/-- What was planned lies in the range of the clock, if no timer was armed beyond it. -/
theorem plansIn_of_unsaturated {c : Config} {x : Node × Site τ} (settled : x.1.Settled)
    (backoff : ∀ left, x.1.connection.backoff left = c.backoff left) {h : Happening τ}
    {news : List LinkEntry} (plans : x.1.connection.Plans news x.2 (h.apply respond x).2)
    {H : Chronicle} (unsaturated : Chronicle.Unsaturated
      (stamped (h.apply respond x).2.now (sightings x (h.apply respond x)) ++ H)) :
    Link.PlansIn c (h.apply respond x).2.now news := by
  obtain ⟨arms, harms, hplanned⟩ := plans
  intro left hlost
  rw [← backoff]
  exact armed_in_range settled unsaturated harms (hplanned left hlost)

namespace Chronicled

variable {c : Config} {session : SessionParams} {H : Chronicle} {x : Node × Site τ}

/-- What is told of the connection while a node starts. -/
theorem linkLog_launched (c : Config) (session : SessionParams) (now : Nat) (t : τ)
    {answer : Answer}
    (attempted : link (Node.launched c session now t) =
      (link (fresh c session now t)).ask now answer) :
    Chronicle.linkLog
      (stamped now (sightings (fresh c session now t) (Node.launched c session now t))) =
      stamped now (Link.attempt answer) := by
  have hlog : (link (Node.launched c session now t)).log = Link.attempt answer ++ [] := by
    rw [attempted]
    exact Link.log_ask rfl now answer
  have htold := linkLog_next (x := fresh c session now t) (settled_ofConfig c session)
    (.callback .start) hlog []
  have hnow : ((Happening.callback .start).apply respond (fresh c session now t)).2.now = now :=
    now_launched c session now t
  rw [hnow, List.append_nil] at htold
  exact htold.trans (List.append_nil _)

/-- The chronicle tells of the connection what the journal tells. -/
theorem linkLog_eq (h : Chronicled c session H x) :
    H.linkLog.map Prod.snd = x.2.view Entry.link? := by
  induction h with
  | @launched now _ t =>
    obtain ⟨answer, hlink, -⟩ := exists_attempt_start c session now t
    rw [linkLog_launched c session now t hlink, map_snd_stamped]
    show _ = (link (Node.launched c session now t)).log
    rw [hlink]
    exact ((Link.log_ask rfl now answer).trans (List.append_nil _)).symm
  | @next H x before happening inTime ih =>
    obtain ⟨news, hsteps, -⟩ := exists_steps_apply before.regular inTime
    rw [linkLog_next before.regular.steady.settled happening hsteps.log_eq, List.map_append,
      map_snd_stamped, ih]
    exact hsteps.log_eq.symm

/-- If no timer is armed for an instant beyond the end of the clock, the chronicle tells the story
that the link is in the middle of. -/
theorem storied (h : Chronicled c session H x) (unsaturated : H.Unsaturated) :
    (link x).Storied c H.linkLog := by
  induction h with
  | @launched now reached t =>
    obtain ⟨answer, hlink, hplans⟩ := exists_attempt_start c session now t
    have hnow : ((Happening.callback .start).apply respond (fresh c session now t)).2.now = now :=
      now_launched c session now t
    have hblank : (link (fresh c session now t)).Storied c [] :=
      ⟨rfl, fun _ => rfl, .blank, nofun, rfl⟩
    have hplanned := plansIn_of_unsaturated (x := fresh c session now t) (h := .callback .start)
      (settled_ofConfig c session) (fun _ => rfl) hplans (H := [])
      (by rw [hnow, List.append_nil]; exact unsaturated)
    rw [hnow] at hplanned
    have hstoried := hblank.ask rfl rfl (.inl rfl) answer hplanned
    rw [List.append_nil, ← hlink] at hstoried
    rw [linkLog_launched c session now t hlink]
    exact hstoried
  | @next H x before happening inTime ih =>
    have hregular := before.regular
    have hstoried := ih unsaturated.of_append
    obtain ⟨news, hsteps, hplans⟩ := exists_steps_apply hregular inTime
    have hplanned := plansIn_of_unsaturated hregular.steady.settled hstoried.backoff hplans
      unsaturated
    rw [linkLog_next hregular.steady.settled happening hsteps.log_eq]
    exact hstoried.steps hsteps hregular.alive.waits hplanned

theorem topics (h : Chronicled c session H x) : x.1.topics = c.topics := by
  induction h with
  | @launched now _ t =>
    exact topics_respond _ ({ now, transport := t } : Site τ) (settled_ofConfig c session) .start
  | @next H x before happening _ ih =>
    exact (topics_apply x.1 x.2 before.regular.steady.settled happening).trans ih

theorem subscribes (h : Chronicled c session H x) : Subscribes c.topics x.2.journal := by
  induction h with
  | @launched now _ t =>
    let blank : Site τ := { now, transport := t }
    exact subscribes_respond (ofConfig c session) blank (settled_ofConfig c session) .start .nil
  | @next H x before happening _ ih =>
    rw [← before.topics] at ih ⊢
    exact subscribes_apply x.1 x.2 before.regular.steady.settled happening ih

end Chronicled

/-- Take a node that was started at some time and whose timers fire in time, with no deadline beyond
the end of the clock, and what the chronicle tells of its connection, newest first, which is what
its journal tells.

Each attempt is made right after the connection has gone over from no session to one on its way, and
each such move comes with an attempt. Before that nothing was told, or the last thing told was that
the connection was lost, and then the delay that this calls for is over at this very instant. The
connection counts its attempts. Each of its moves starts where the one before has ended, and only
four moves occur.

In the journal, each session that was accepted had been on its way and is subscribed to at once,
first for fill requests and then for alarms, whatever the answers. There are no other
subscriptions. -/
theorem attempts_when_due {c : Config} {session : SessionParams} {H : Chronicle} {x : Node × Site τ}
    (h : Chronicled c session H x) (unsaturated : H.Unsaturated) :
    H.linkLog.map Prod.snd = x.2.view Entry.link? ∧
      (∀ now answer earlier, (now, .asked answer) :: earlier <:+ H.linkLog →
        ∃ before, earlier = (now, .moved .disconnected .connecting) :: before ∧
          (before = [] ∨ ∃ lostAt left rest,
            before = (lostAt, .moved left .disconnected) :: rest ∧
              now = lostAt + (c.backoff left).toNat)) ∧
      (∀ now earlier, (now, .moved .disconnected .connecting) :: earlier <:+ H.linkLog →
        ∃ answer,
          (now, .asked answer) :: (now, .moved .disconnected .connecting) :: earlier <:+
            H.linkLog) ∧
      x.1.connection.attempts = H.linkLog.countP (·.2.isAttempt) ∧
      (movesIn H.linkLog).IsChain (fun later earlier => later.1 = earlier.2) ∧
      (∀ m ∈ movesIn H.linkLog, m ∈ ConnectionStatus.transitions) ∧
      (∀ e earlier, e :: earlier <:+ x.2.journal → e.isAcceptance →
        e = .event (.connectionChanged .connecting .connected) ∧
          ∃ toFillRequest toAlarm,
            subscriptions c.topics toFillRequest toAlarm ++ e :: earlier <:+ x.2.journal) ∧
      x.2.journal.countP Entry.isSubscribe = 2 * x.2.journal.countP Entry.isAcceptance := by
  have hstoried := h.storied unsaturated
  have hsubscribes := h.subscribes
  obtain ⟨-, hchain, hknown⟩ := hstoried.story.chain
  refine ⟨h.linkLog_eq, fun now answer earlier asked => ?_, fun now earlier moved => ?_,
    hstoried.attempts, hchain, hknown, fun e earlier told accepted => ?_,
    hsubscribes.countP_isSubscribe⟩
  · exact hstoried.story.due_of_asked asked
  · exact hstoried.story.asked_of_moved moved
  · exact hsubscribes.suffix_of_isAcceptance told accepted

/-- A session that was accepted and is lost is asked for again after the short delay. -/
theorem attempts_when_due_after_drop :
    let start : Node × Site Scripted := launched {} (Bench.session {}) 0 {}
    let opening := stamped 0 (sightings (fresh {} (Bench.session {}) 0 ({} : Scripted)) start)
    let hs : List (Happening Scripted) := [.callback (.connection .accepted), .expiry .announce,
      .clock 300, .callback (.connection .disconnected), .clock 1300, .expiry .reconnect]
    let H := chronicle start opening hs
    let before : List (Nat × LinkEntry) := [(300, .moved .connected .disconnected),
      (0, .announced), (0, .subscribed ({} : Config).topics.alarm),
      (0, .subscribed ({} : Config).topics.fillRequest), (0, .moved .connecting .connected),
      (0, .asked .taken), (0, .moved .disconnected .connecting)]
    Chronicled {} (Bench.session {}) H (run respond start hs) ∧ H.Unsaturated ∧
      H.linkLog =
        (1300, .asked .taken) :: (1300, .moved .disconnected .connecting) :: before ∧
      (before = [] ∨ ∃ lostAt left rest,
        before = (lostAt, .moved left .disconnected) :: rest ∧
          1300 = lostAt + (({} : Config).backoff left).toNat) ∧
      (run respond start hs).1.connection.attempts = H.linkLog.countP (·.2.isAttempt) := by
  intro start opening hs H before
  have hchronicled : Chronicled {} (Bench.session {}) H (run respond start hs) :=
    (Chronicled.launched (Nat.zero_le clockLimit) ({} : Scripted)).run (by decide +kernel)
  have hunsaturated : H.Unsaturated := by decide +kernel
  have hlog : H.linkLog =
      (1300, .asked .taken) :: (1300, .moved .disconnected .connecting) :: before := by
    decide +kernel
  obtain ⟨-, hdue, -, hcounted, -⟩ := attempts_when_due hchronicled hunsaturated
  have hasked : (1300, .asked .taken) :: (1300, .moved .disconnected .connecting) :: before <:+
      H.linkLog := by
    rw [hlog]
  obtain ⟨_, heq, hlost⟩ := hdue 1300 .taken _ hasked
  rw [← (List.cons.inj heq).2] at hlost
  exact ⟨hchronicled, hunsaturated, hlog, hlost, hcounted⟩

end Node

end TankGauge
