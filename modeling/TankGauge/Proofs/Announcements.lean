import TankGauge.Proofs.Advance
import TankGauge.Proofs.WorkerDrain

/-!
# A session begins with its announcement

A worker runs at a time that does not change, so that a timer is due at once or not within the run.
Each poll takes in one piece of news and then fires what is due until nothing is
(`Worker.PollsTo`). So between two polls nothing is due, except that a start may have left the next
attempt due (`Worker.Rested`).

An announcement is always due at once, and hence never waits from one poll to the next. When a
session is accepted, no attempt is planned, so that the announcement is the only timer that is due.
It goes off first, whatever delays are zero, and what it hands over first is that the node is online
(`Node.fireDue_of_accepted`).
-/

namespace TankGauge

/-! ## When an announcement is due -/

namespace Link

variable {l l' : Link} {now : Nat}

theorem announceAt_ask (l : Link) (now : Nat) (answer : Answer) :
    (l.ask now answer).announceAt = l.announceAt := by
  unfold ask
  split
  · cases answer <;> rfl
  · rfl

/-- What a clock does by itself plans no announcement. -/
theorem Lapses.announceAt (h : l.Lapses now l') :
    l'.announceAt = l.announceAt ∨ l'.announceAt = none := by
  cases h with
  | stays => exact .inl rfl
  | retries due answer => exact .inl (announceAt_ask { l with retryAt := none } now answer)
  | announces due => exact .inr rfl

/-- News of the session plans an announcement for the present time, if it plans one at all. -/
theorem announceAt_hear (l : Link) (now : Nat) (event : ConnectionEvent) :
    (l.hear now event).announceAt = l.announceAt ∨ (l.hear now event).announceAt = none ∨
      (l.hear now event).announceAt = some (instantAfter now 0) := by
  unfold hear
  cases l.status <;> cases event <;> simp [retryAfter, moveTo, add]

end Link

theorem instantAfter_zero_le (now : Nat) : instantAfter now 0 ≤ now := Nat.min_le_left _ _

namespace Node

open Site

variable {τ : Type} [Transport τ] {c : Config} {now : Nat} {x : Node × Site τ}

/-- What holds of a node between any two callbacks at a time: an announcement is due by then. -/
structure Prompt (c : Config) (now : Nat) (x : Node × Site τ) : Prop where
  settled : x.1.Settled
  topics : x.1.topics = c.topics
  alive : (link x).Alive
  prompt : ∀ deadline, x.2.timers.deadline? .announce = some deadline → deadline ≤ now

namespace Prompt

omit [Transport τ] in
/-- The link tells when the announcement is due. -/
theorem of_link {x' : Node × Site τ} (h : Prompt c now x) (settled : x'.1.Settled)
    (topics : x'.1.topics = x.1.topics) (alive : (link x').Alive)
    (announceAt : (link x').announceAt = (link x).announceAt ∨ (link x').announceAt = none ∨
      ∃ deadline ≤ now, (link x').announceAt = some deadline) : Prompt c now x' := by
  refine ⟨settled, topics.trans h.topics, alive, fun deadline harmed => ?_⟩
  have hlink : (link x').announceAt = some deadline := harmed
  rcases announceAt with hsame | hnone | ⟨planned, hle, hplanned⟩
  · exact h.prompt deadline (hsame.symm.trans hlink)
  · rw [hnone] at hlink
    cases hlink
  · rw [hplanned] at hlink
    exact Option.some.inj hlink ▸ hle

/-- Whatever happens in time, at the time given. -/
theorem apply (h : Prompt c now x) (happening : Happening τ) (timely : happening.isTimely)
    (reading : x.2.now = now) : Prompt c now (happening.apply respond x) := by
  obtain ⟨n, s⟩ := x
  refine h.of_link (settled_apply happening n s h.settled) (topics_apply n s h.settled happening)
    (alive_apply h.settled h.alive timely) ?_
  rcases link_apply n s h.settled timely with hlapses | ⟨event, hheard⟩
  · exact hlapses.announceAt.imp_right .inl
  · rw [hheard]
    rcases Link.announceAt_hear (link (n, s)) s.now event with hsame | hnone | hplanned
    · exact .inl hsame
    · exact .inr (.inl hnone)
    · exact .inr (.inr ⟨_, reading ▸ instantAfter_zero_le s.now, hplanned⟩)

/-- What a clock does by itself, at any time. -/
theorem clockwork (h : Prompt c now x) {happening : Happening τ}
    (clockwork : happening.isClockwork) : Prompt c now (happening.apply respond x) := by
  obtain ⟨n, s⟩ := x
  exact h.of_link (settled_apply happening n s h.settled) (topics_apply n s h.settled happening)
    (alive_apply h.settled h.alive (Happening.isTimely_of_isClockwork clockwork))
    ((lapses_apply n s h.settled clockwork).announceAt.imp_right .inl)

omit [Transport τ] in
theorem note (h : Prompt c now x) (note : Note) (quiet : (Entry.note note).link? = none) :
    Prompt c now (x.1, x.2.note note) := by
  have hlink : link (x.1, x.2.note note) = link x :=
    Link.of_record_of_none x.1.topics x.1.connection x.2 quiet
  exact ⟨h.settled, h.topics, hlink ▸ h.alive, h.prompt⟩

theorem passTime (h : Prompt c now x) (limit target : Nat) :
    Prompt c now (passTime onTimer limit target x.1 x.2) := by
  obtain ⟨hs, hclockwork, hrun⟩ := exists_run_of_passTime respond limit target x
  rw [show TankGauge.passTime onTimer limit target x.1 x.2 = _ from hrun]
  exact run_invariant (P := Prompt c now)
    (fun happening hmem _ hx => hx.clockwork (hclockwork happening hmem)) h

end Prompt

/-- A loop in which fewer timers fire than may fire has come to its end. -/
theorem idle_of_firings_lt {target limit : Nat} (settled : x.1.Settled)
    (few : (fireDue onTimer target limit x.1 x.2).2.firings.length <
      limit + x.2.firings.length) :
    (fireDue onTimer target limit x.1 x.2).2.timers.pop? target = none := by
  refine (idle_or_le_of_fireDue (I := fun x : Node × Site τ => x.1.Settled) (m := fun _ => 0)
    (r := fun x => x.2.firings.length) (fun {x role deadline rest} hx _ => ?_) limit
    settled).resolve_right (by omega)
  refine ⟨settled_respond x.1 _ (.timer role) hx, ?_⟩
  rw [firings_onTimer hx, List.length_cons]
  omega

/-! ## A session is accepted -/

/-- Timers that fire add to the journal. -/
theorem suffix_journal_fireDue (settled : x.1.Settled) (target limit : Nat) :
    x.2.journal <:+ (fireDue onTimer target limit x.1 x.2).2.journal := by
  obtain ⟨hs, -, hrun⟩ := exists_run_of_fireDue respond target limit x
  rw [show fireDue onTimer target limit x.1 x.2 = _ from hrun]
  exact suffix_journal_run settled hs

/-- An announcement hands over first of all that the node is online. -/
theorem suffix_journal_announce (n : Node) (s : Site τ) :
    ∃ answer, .publish n.topics.availability Publication.onlineWord .atLeastOnce true answer ::
      s.journal <:+ (n.announce s).2.journal := by
  let called := s.publish n.topics.availability Publication.onlineWord .atLeastOnce true
  have honline : sendOne n.topics s .online =
      called.2.emit (Publication.online.outcome called.1) := sendOne_eq n.topics s .online
  have hsend (s' : Site τ) : s'.journal <:+ (send n.topics (n.policy.news n.level) s').journal :=
    (Acted.refl.send (P := Action.any) n.topics (fun _ _ => rfl) (fun _ _ _ => rfl)).suffix_journal
  refine ⟨called.1, ?_⟩
  rw [snd_announce, send_cons, honline]
  exact (List.suffix_cons _ _).trans (hsend (called.2.emit (Publication.online.outcome called.1)))

/-- What a session that is accepted at a time leaves in the journal up to its announcement, latest
first: the status, the two subscriptions, the timer that is armed and goes off, and the first thing
that is handed over. -/
def welcome (topics : Topics) (now : Nat) (fillRequest alarm online : Answer) : List Entry :=
  [.publish topics.availability Publication.onlineWord .atLeastOnce true online,
    .fire .announce (instantAfter now 0),
    .schedule .announce 0,
    .event (.subscribed topics.alarm alarm),
    .subscribe topics.alarm .atLeastOnce alarm,
    .event (.subscribed topics.fillRequest fillRequest),
    .subscribe topics.fillRequest .atLeastOnce fillRequest,
    .event (.connectionChanged .connecting .connected)]

section

variable (n : Node) (s : Site τ)

/-- An acceptance subscribes to both inbound topics and plans the announcement. -/
theorem onConnectionEvent_accepted (status : n.connection.status = .connecting) :
    n.onConnectionEvent .accepted s =
      ({ n with connection := { n.connection with status := .connected } },
        (Connection.subscribeTo n.topics.alarm (Connection.subscribeTo n.topics.fillRequest
          (s.emit (.connectionChanged .connecting .connected)))).schedule .announce 0) := by
  simp only [onConnectionEvent, Connection.onEvent, status, Connection.moveTo]

/-- When a session is accepted while nothing is due, the announcement goes off first. -/
theorem pop?_of_accepted (status : n.connection.status = .connecting)
    (idle : ∀ role deadline, s.timers.deadline? role = some deadline → s.now < deadline) :
    (n.onConnectionEvent .accepted s).2.timers.pop? s.now =
      some (.announce, instantAfter s.now 0,
        (n.onConnectionEvent .accepted s).2.timers.cancel .announce) := by
  have hqueue : (n.onConnectionEvent .accepted s).2.timers =
      s.timers.schedule .announce 0 s.now := by
    rw [onConnectionEvent_accepted n s status]
    exact timers_schedule _ _ _
  have harmed : (s.timers.schedule .announce 0 s.now).deadline? .announce =
      some (instantAfter s.now 0) := by
    rw [TimerQueue.deadline?_schedule, if_pos rfl]
  rw [hqueue]
  cases hpop : (s.timers.schedule .announce 0 s.now).pop? s.now with
  | none =>
    have hlater := TimerQueue.lt_of_pop?_eq_none hpop harmed
    exact absurd (instantAfter_zero_le s.now) (Nat.not_le_of_lt hlater)
  | some popped =>
    obtain ⟨role, deadline, rest⟩ := popped
    obtain ⟨t, hslot, rfl, hdue, rfl⟩ := TimerQueue.eq_of_pop? hpop
    have hfirst : (s.timers.schedule .announce 0 s.now).deadline? role = some t.deadline := by
      rw [TimerQueue.deadline?, hslot]
      rfl
    by_cases hrole : role = .announce
    · subst hrole
      rw [harmed] at hfirst
      rw [Option.some.inj hfirst]
    · rw [TimerQueue.deadline?_schedule, if_neg hrole] at hfirst
      exact absurd hdue (Nat.not_le_of_lt (idle role t.deadline hfirst))

/-- An acceptance leaves the status, the subscriptions and the planned announcement in the
journal. -/
theorem journal_of_accepted (status : n.connection.status = .connecting)
    (quiet : s.timers.isArmed .announce = false) :
    ∃ fillRequest alarm, (n.onConnectionEvent .accepted s).2.journal =
      .schedule .announce 0 ::
        .event (.subscribed n.topics.alarm alarm) ::
        .subscribe n.topics.alarm .atLeastOnce alarm ::
        .event (.subscribed n.topics.fillRequest fillRequest) ::
        .subscribe n.topics.fillRequest .atLeastOnce fillRequest ::
        .event (.connectionChanged .connecting .connected) :: s.journal := by
  let moved := s.emit (.connectionChanged .connecting .connected)
  let asked := moved.subscribe n.topics.fillRequest .atLeastOnce
  let answered := asked.2.emit (.subscribed n.topics.fillRequest asked.1)
  let asked' := answered.subscribe n.topics.alarm .atLeastOnce
  let answered' := asked'.2.emit (.subscribed n.topics.alarm asked'.1)
  have harmed : answered'.timers.isArmed .announce = false := quiet
  have hplanned : (answered'.schedule .announce 0).journal =
      .schedule .announce 0 :: answered'.journal := by
    simp only [schedule, harmed, Bool.false_eq_true, if_false]
    rfl
  refine ⟨asked.1, asked'.1, ?_⟩
  rw [onConnectionEvent_accepted n s status]
  exact hplanned

/-- When a session is accepted while nothing is due, the loop that fires what is due announces the
node before anything else. -/
theorem fireDue_of_accepted (settled : n.Settled) (status : n.connection.status = .connecting)
    (quiet : s.timers.isArmed .announce = false)
    (idle : ∀ role deadline, s.timers.deadline? role = some deadline → s.now < deadline)
    (limit : Nat) :
    let heard := n.onConnectionEvent .accepted s
    ∃ later fillRequest alarm online,
      (fireDue onTimer s.now (limit + 1) heard.1 heard.2).2.journal =
        later ++ welcome n.topics s.now fillRequest alarm online ++ s.journal := by
  intro heard
  let fired := heard.2.fired .announce (instantAfter s.now 0)
  have hsettled : (heard.1.announce fired).1.Settled :=
    settled_respond heard.1 fired (.timer .announce)
      (settled_respond n s (.connection .accepted) settled)
  obtain ⟨fillRequest, alarm, hjournal⟩ := journal_of_accepted n s status quiet
  obtain ⟨online, honline⟩ := suffix_journal_announce heard.1 fired
  have htopics : heard.1.topics = n.topics := rfl
  obtain ⟨later, hlater⟩ :=
    honline.trans (suffix_journal_fireDue hsettled s.now limit)
  refine ⟨later, fillRequest, alarm, online, ?_⟩
  rw [fireDue_succ (pop?_of_accepted n s status idle)]
  show (fireDue onTimer s.now limit (heard.1.announce fired).1 (heard.1.announce fired).2).2.journal
    = _
  rw [← hlater, htopics, List.append_assoc]
  show later ++ .publish _ _ _ _ _ :: .fire _ _ :: heard.2.journal = _
  rw [hjournal]
  rfl

end

end Node

/-! ## Polls -/

namespace Worker

open Node

variable {τ : Type} [Transport τ] {c : Config} {session : SessionParams} {w w' : Worker τ}

/-- Takes in the oldest news, if there is any. -/
def takeIn (w : Worker τ) : Worker τ :=
  match w.inbox with
  | e :: rest => { w with inbox := rest }.dispatch e
  | [] => w

/-- A poll in which so many timers fire at most. -/
def pollWithin (limit : Nat) (w : Worker τ) : Worker τ :=
  w.takeIn.run fun n s => passTime onTimer limit s.now n s

/-- A poll comes to its end: it leads to `w'`, however many timers may fire, if only enough of them
may. -/
def PollsTo (w w' : Worker τ) : Prop := ∃ enough, ∀ limit, enough ≤ limit → w.pollWithin limit = w'

/-- A poll of the worker is one with the limit that the worker sets itself. -/
theorem poll_eq_pollWithin (w : Worker τ) :
    w.poll.2 = w.pollWithin (firingLimit w.takeIn.site.transport) := by
  unfold poll pollWithin takeIn
  cases w.inbox <;> rfl

/-- A worker that has not been started. News may wait for it already. -/
def fresh (c : Config) (session : SessionParams) (now : Nat) (t : τ) (inbox : List SessionEvent)
    (closed : Bool) : Worker τ where
  node := .ofConfig c session
  site := { now, transport := t }
  inbox := inbox
  closed := closed

/-- What happens to a worker that is started once. After the start news arrives, the inbox is
closed, the transport changes by itself, and polls come to their ends; the clock stands still. -/
inductive Ran (c : Config) (session : SessionParams) : Worker τ → Prop
  | start (now : Nat) (t : τ) (inbox : List SessionEvent) (closed : Bool) :
      Ran c session (fresh c session now t inbox closed).start
  | receive {w : Worker τ} (h : Ran c session w) (e : SessionEvent) : Ran c session (w.receive e).2
  | close {w : Worker τ} (h : Ran c session w) : Ran c session w.close
  | transport {w : Worker τ} (h : Ran c session w) (t : τ) :
      Ran c session { w with site := { w.site with transport := t } }
  | poll {w w' : Worker τ} (h : Ran c session w) (ends : w.PollsTo w') : Ran c session w'

/-- What holds of a worker between two polls: nothing is due but the next attempt, if the start has
left that behind. -/
structure Rested (c : Config) (w : Worker τ) : Prop where
  prompt : Prompt c w.site.now (w.node, w.site)
  idle : ∀ role deadline, w.site.timers.deadline? role = some deadline →
    deadline ≤ w.site.now → role = .reconnect

namespace Rested

omit [Transport τ] in
/-- An announcement does not wait. -/
theorem quiet (h : Rested c w) : w.site.timers.isArmed .announce = false := by
  rw [TimerQueue.isArmed_eq_isSome]
  cases harmed : w.site.timers.deadline? .announce with
  | none => rfl
  | some deadline => cases h.idle .announce deadline harmed (h.prompt.prompt deadline harmed)

omit [Transport τ] in
/-- While there is a session or one is on its way, nothing is due. -/
theorem lt_deadline (h : Rested c w) (status : w.node.connection.status ≠ .disconnected)
    (role : TimerRole) (deadline : Nat)
    (armed : w.site.timers.deadline? role = some deadline) : w.site.now < deadline := by
  refine Nat.lt_of_not_le (fun hdue => ?_)
  obtain rfl := h.idle role deadline armed hdue
  refine status (h.prompt.alive.waits.mpr ?_)
  show (w.site.timers.deadline? .reconnect).isSome
  rw [armed]
  rfl

/-- A worker that has just been started has at most its next attempt planned. -/
theorem started (c : Config) (session : SessionParams) (now : Nat) (t : τ)
    (inbox : List SessionEvent) (closed : Bool) :
    Rested c (fresh c session now t inbox closed).start := by
  let x : Node × Site τ := launched c session now t
  have hsettled := settled_ofConfig c session
  obtain ⟨answer, hlink⟩ := exists_link_start (ofConfig c session) { now, transport := t } hsettled
  have hquiet : (link x).announceAt = none := by
    rw [show link x = _ from hlink, Link.announceAt_ask]
    rfl
  have hnow : x.2.now = now := (acted_respond _ _ hsettled .start).now_eq
  have hmachine : x.1.machine = (ofConfig c session).machine :=
    (responds (ofConfig c session) { now, transport := t } hsettled .start).machine_eq hsettled
  have hstill : x.2.timers.Still := by
    have hwalk := (Steady.launched c session now t).walk
    have hmode : x.1.mode = .idle := congrArg ModeMachine.mode hmachine
    rw [show (launched c session now t).1.mode = _ from hmode] at hwalk
    exact hwalk
  have hunarmed : x.2.timers.deadline? .announce = none := hquiet
  refine ⟨⟨settled_respond _ _ .start hsettled, ?_, alive_launched c session now t, ?_⟩, ?_⟩
  · exact topics_respond (ofConfig c session) { now, transport := t } hsettled .start
  · intro deadline harmed
    rw [show x.2.timers.deadline? .announce = some deadline from harmed] at hunarmed
    cases hunarmed
  · intro role deadline harmed _
    replace harmed : x.2.timers.deadline? role = some deadline := harmed
    have hwalk (hwalk : role.isWalk) : False := by
      have hidle := hstill role hwalk
      rw [TimerQueue.isArmed_eq_isSome, harmed] at hidle
      cases hidle
    cases role with
    | decrease | increase | resume => exact (hwalk rfl).elim
    | reconnect => rfl
    | announce =>
      rw [hunarmed] at harmed
      cases harmed

end Rested

/-! ## News is taken in -/

theorem takeIn_of_cons {e : SessionEvent} {rest : List SessionEvent}
    (waiting : w.inbox = e :: rest) : w.takeIn = { w with inbox := rest }.dispatch e := by
  rw [takeIn, waiting]

/-- News is taken in at the present time. -/
theorem prompt_takeIn (h : Prompt c w.site.now (w.node, w.site)) :
    Prompt c w.site.now (w.takeIn.node, w.takeIn.site) ∧ w.takeIn.site.now = w.site.now := by
  cases hinbox : w.inbox with
  | nil =>
    rw [takeIn, hinbox]
    exact ⟨h, rfl⟩
  | cons e rest =>
    rw [takeIn_of_cons hinbox]
    exact dispatch_invariant { w with inbox := rest }
      (P := fun x => Prompt c w.site.now x ∧ x.2.now = w.site.now)
      (fun callback x timely hx => ⟨hx.1.apply (.callback callback) timely hx.2,
        (acted_respond x.1 x.2 hx.1.settled callback).now_eq.trans hx.2⟩)
      ⟨h, rfl⟩ ⟨h.note _ rfl, rfl⟩

/-- Only the acceptance of the session that is on its way makes a connected node. -/
theorem eq_accepted_of_takeIn (settled : w.node.Settled) {e : SessionEvent}
    {rest : List SessionEvent} (waiting : w.inbox = e :: rest)
    (before : w.node.connection.status ≠ .connected)
    (after : w.takeIn.node.connection.status = .connected) :
    e = ⟨Transport.session w.site.transport, .connection .accepted⟩ ∧
      w.node.connection.status = .connecting := by
  let popped : Worker τ := { w with inbox := rest }
  rw [takeIn_of_cons waiting] at after
  by_cases hcurrent : e.session = Transport.session popped.site.transport
  · cases hevent : e.event with
    | connection event =>
      rw [popped.dispatch_of_connection hcurrent hevent] at after
      have hheard : w.node.connection.status.heard event = .connected := by
        have hlink := link_onConnectionEvent w.node w.site event
        rw [show w.node.connection.status = (link (w.node, w.site)).status from rfl,
          ← Link.status_hear _ w.site.now, ← hlink]
        exact after
      obtain ⟨hstatus, rfl⟩ : w.node.connection.status = .connecting ∧ event = .accepted := by
        revert before hheard
        cases w.node.connection.status <;> cases event <;> decide
      refine ⟨?_, hstatus⟩
      obtain ⟨number, news⟩ := e
      obtain rfl : number = _ := hcurrent
      obtain rfl : news = _ := hevent
      rfl
    | publish topic payload =>
      rw [popped.dispatch_of_publish hcurrent hevent] at after
      have htopic : (w.node.onTopic topic w.site).1.Settled := settled
      obtain ⟨hconnection, -⟩ := acted_respond_of_tank (w.node.onTopic topic w.site).1
        (w.node.onTopic topic w.site).2 htopic (c := .payload payload true) rfl
      exact absurd ((congrArg Connection.status hconnection).symm.trans after) before
  · rw [popped.dispatch_of_stale hcurrent] at after
    exact absurd after before

/-! ## Polls that come to their ends -/

/-- When a poll has come to its end, nothing is due. -/
theorem PollsTo.idle (settled : w.takeIn.node.Settled) (ends : w.PollsTo w') :
    w'.site.timers.pop? w.takeIn.site.now = none := by
  obtain ⟨enough, henough⟩ := ends
  let x : Node × Site τ := (w.takeIn.node, w.takeIn.site)
  -- What the journal holds in the end does not depend on the limit, so that some limit is beyond
  -- the number of firings in it.
  let limit := enough + w'.site.firings.length + 1
  let drained := fireDue onTimer x.2.now limit x.1 x.2
  have hpoll : w.pollWithin limit = w' := henough limit (by omega)
  have htimers : drained.2.timers = w'.site.timers := by rw [← hpoll]; rfl
  have hfirings : drained.2.firings = w'.site.firings := by rw [← hpoll]; rfl
  rw [← htimers]
  refine idle_of_firings_lt (x := x) settled ?_
  show drained.2.firings.length < limit + x.2.firings.length
  rw [hfirings]
  omega

/-- A poll that leaves nothing due has come to its end. -/
theorem pollsTo_poll (idle : w.poll.2.site.timers.pop? w.takeIn.site.now = none) :
    w.PollsTo w.poll.2 := by
  let x : Node × Site τ := (w.takeIn.node, w.takeIn.site)
  have hpoll := poll_eq_pollWithin w
  rw [hpoll] at idle
  obtain ⟨enough, henough⟩ :=
    (drains_fireDue w.takeIn.site.now (firingLimit w.takeIn.site.transport) x idle).exists_fireDue
  refine ⟨enough, fun limit hle => ?_⟩
  have hsame : passTime onTimer limit x.2.now x.1 x.2 =
      passTime onTimer (firingLimit x.2.transport) x.2.now x.1 x.2 := by
    unfold passTime
    rw [henough limit hle]
  rw [hpoll]
  exact congrArg (fun x' : Node × Site τ => { w.takeIn with node := x'.1, site := x'.2 }) hsame

/-- From one poll to the next. -/
theorem Rested.polled (h : Rested c w) (ends : w.PollsTo w') :
    Rested c w' ∧ w'.site.now = w.site.now ∧ w'.site.timers.pop? w.site.now = none := by
  obtain ⟨hprompt, hnow⟩ := prompt_takeIn h.prompt
  have hidle := ends.idle hprompt.settled
  obtain ⟨enough, henough⟩ := ends
  obtain rfl := henough enough (Nat.le_refl enough)
  have hnow' : (w.pollWithin enough).site.now = w.site.now := hnow
  rw [hnow] at hidle
  refine ⟨⟨?_, fun role deadline harmed hdue => ?_⟩, hnow', hidle⟩
  · rw [hnow']
    exact hprompt.passTime enough w.takeIn.site.now
  · rw [hnow'] at hdue
    exact absurd hdue (Nat.not_le_of_lt (TimerQueue.lt_of_pop?_eq_none hidle harmed))

/-- Whatever happens to a worker, between two polls it rests. -/
theorem Ran.rested (h : Ran c session w) : Rested c w := by
  induction h with
  | start now t inbox closed => exact .started c session now t inbox closed
  | @receive w _ e ih =>
    unfold Worker.receive
    split <;> exact ⟨ih.prompt, ih.idle⟩
  | close _ ih => exact ⟨ih.prompt, ih.idle⟩
  | transport _ t ih =>
    exact ⟨⟨ih.prompt.settled, ih.prompt.topics, ih.prompt.alive, ih.prompt.prompt⟩, ih.idle⟩
  | poll _ ends ih => exact (ih.polled ends).1

/-- On the bench, every poll comes to its end. -/
theorem pollsTo_poll_of_script {w : Worker Scripted} (h : Rested c w) : w.PollsTo w.poll.2 := by
  refine pollsTo_poll ?_
  rw [poll_eq_pollWithin]
  exact (drains_of_script (x := (w.takeIn.node, w.takeIn.site)) (prompt_takeIn h.prompt).1.settled
    w.takeIn.site.now).idle

/-- A worker is started once and polled at a time that does not change, with any news, any answers
of the transport, and any delays. When a poll has come to its end, no timer is due, and no
announcement has ever been left armed between two polls. If the poll takes in news that makes a
connected node, that news is the acceptance of the current session. Then what is handed over first
after that is that the node is online, on the topic for it, in the same poll and before anything
else is taken out of the inbox. A poll of the worker that leaves nothing due is one that has come to
its end. -/
theorem online_leads_session (ran : Ran c session w) (ends : w.PollsTo w') :
    w'.site.timers.pop? w'.site.now = none ∧
    (∀ role deadline, w'.site.timers.deadline? role = some deadline → w'.site.now < deadline) ∧
    w.site.timers.isArmed .announce = false ∧
    w'.site.timers.isArmed .announce = false ∧
    (∀ e rest, w.inbox = e :: rest → w.node.connection.status ≠ .connected →
      ({ w with inbox := rest }.dispatch e).node.connection.status = .connected →
        e = ⟨Transport.session w.site.transport, .connection .accepted⟩ ∧
        w'.inbox = rest ∧
        ∃ later fillRequest alarm online, w'.site.journal =
          later ++ welcome c.topics w.site.now fillRequest alarm online ++ w.site.journal) ∧
    (w.poll.2.site.timers.pop? w.site.now = none → w.poll.2 = w') := by
  have hrested := ran.rested
  obtain ⟨hrested', hnow', hidle⟩ := hrested.polled ends
  have hnow : w.takeIn.site.now = w.site.now := (prompt_takeIn hrested.prompt).2
  rw [hnow']
  refine ⟨hidle, fun _ _ harmed => TimerQueue.lt_of_pop?_eq_none hidle harmed, hrested.quiet,
    hrested'.quiet, fun e rest waiting before after => ?_, fun hpoll => ?_⟩
  · rw [← takeIn_of_cons waiting] at after
    obtain ⟨haccepted, hstatus⟩ :=
      eq_accepted_of_takeIn hrested.prompt.settled waiting before after
    have htaken : w.takeIn = { w with inbox := rest }.run (·.onConnectionEvent .accepted) := by
      rw [takeIn_of_cons waiting, haccepted]
      exact dispatch_of_connection _ rfl rfl
    have hinbox : w.takeIn.inbox = rest := by rw [htaken]; rfl
    obtain ⟨enough, henough⟩ := ends
    obtain rfl := henough (enough + 1) (Nat.le_succ enough)
    refine ⟨haccepted, hinbox, ?_⟩
    have hjournal := fireDue_of_accepted w.node w.site hrested.prompt.settled hstatus hrested.quiet
      (hrested.lt_deadline (by rw [hstatus]; nofun)) enough
    rw [hrested.prompt.topics] at hjournal
    let heard := w.node.onConnectionEvent .accepted w.site
    have hheard : heard.2.now = w.site.now :=
      (acted_respond w.node w.site hrested.prompt.settled (.connection .accepted)).now_eq
    have hpolled : (w.pollWithin (enough + 1)).site.journal =
        (fireDue onTimer heard.2.now (enough + 1) heard.1 heard.2).2.journal := by
      rw [pollWithin, htaken]
      rfl
    rw [hpolled, hheard]
    exact hjournal
  · rw [← hnow] at hpoll
    obtain ⟨enough, henough⟩ := ends
    obtain ⟨enough', henough'⟩ := pollsTo_poll hpoll
    rw [← henough (max enough enough') (Nat.le_max_left _ _),
      henough' (max enough enough') (Nat.le_max_right _ _)]

/-- All delays are zero, and the first attempt is refused. The next attempt is due when the first
poll is made, and the acceptance that comes then is announced by the poll that takes it in, while a
fill request still waits. -/
theorem online_leads_session_without_delays :
    let c : Config :=
      { stepInterval := 0, resumeDelay := 0, reconnectShort := 0, reconnectLong := 0 }
    let accepted : SessionEvent := ⟨1, .connection .accepted⟩
    let requested : SessionEvent := ⟨1, .publish Topic.fillRequest.text (Bytes.utf8 "ON")⟩
    let started : Worker Scripted :=
      (fresh c (Bench.session c) 0 { connects := [.refused .notConnected] } [] false).start
    let w := ((started.poll.2.receive accepted).2.receive requested).2
    started.site.timers.armed = [.reconnect] ∧
      w.poll.2.site.timers.armed = [] ∧
      w.poll.2.inbox = [requested] ∧
      ∃ later fillRequest alarm online, w.poll.2.site.journal =
        later ++ welcome c.topics 0 fillRequest alarm online ++ w.site.journal := by
  intro c accepted requested started w
  have hstarted : Ran c (Bench.session c) started := .start 0 _ [] false
  have hpolled : Ran c (Bench.session c) started.poll.2 :=
    hstarted.poll (pollsTo_poll_of_script hstarted.rested)
  have hw : Ran c (Bench.session c) w := (hpolled.receive accepted).receive requested
  obtain ⟨-, -, -, -, hsession, -⟩ := online_leads_session hw (pollsTo_poll_of_script hw.rested)
  obtain ⟨-, hinbox, hjournal⟩ := hsession accepted [requested] (by decide +kernel)
    (by decide +kernel) (by decide +kernel)
  exact ⟨by decide +kernel, by decide +kernel, hinbox, hjournal⟩

end Worker

end TankGauge
