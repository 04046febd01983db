import TankGauge.Proofs.Sessions

/-!
# The news of one session

A reader passes on acceptances and messages, and with the first notification that the session is
over (`Notification.closes`) it says so and is done. So what is taken of its news was told up to
some notification (`Reader.Told`, `Reader.exists_told`). What it says at the end depends on whether
the session was accepted, and so does the delay that a node takes before its next attempt. The two
keep track of this apart from each other: the reader by a flag, the node by the status of its
connection.

`Worker.Fed` is a worker that takes in news one by one, while its timers go off, its clock moves on
and news of other sessions comes in between. As long as none of the news says that the session is
over, the status is what the flag is (`Node.Attending`, `Worker.Fed.attending`), and so the two
agree on the delay (`Node.Attending.isOver`).
-/

namespace TankGauge

/-! ## What a reader passes on -/

namespace Notification

/-- Whether a session is over with a notification. -/
def closes : Notification → Bool
  | .connAck code => code ≠ 0
  | .failure => true
  | .publish .. | .subAck | .pubAck | .other => false

/-- The topic and the payload of a message. -/
def message? : Notification → Option (String × Bytes)
  | .publish topic payload => some (topic, payload)
  | .connAck _ | .subAck | .pubAck | .other | .failure => none

/-- The news in a notification that a session goes on after. -/
def passedOn? : Notification → Option NetEvent
  | .connAck 0 => some (.connection .accepted)
  | .publish topic payload => some (.publish topic payload)
  | .connAck _ | .subAck | .pubAck | .other | .failure => none

end Notification

namespace NetEvent

/-- The topic and the payload of a message. -/
def message? : NetEvent → Option (String × Bytes)
  | .publish topic payload => some (topic, payload)
  | .connection _ => none

/-- Whether news says that a session is over. -/
def closes : NetEvent → Bool
  | .connection .rejected | .connection .disconnected => true
  | .connection .accepted | .publish .. => false

end NetEvent

namespace Reader

/-- A session that has not been accepted is turned down, and one that has been is lost, unless its
request is answered once more with a refusal. -/
def farewell (accepted : Bool) : Notification → ConnectionEvent
  | .failure => if accepted then .disconnected else .rejected
  | _ => .rejected

theorem hear_of_closes {accepted : Bool} {n : Notification} (h : n.closes) :
    hear accepted n =
      { news := some (.connection (farewell accepted n)), accepted, done := true } := by
  cases n with
  | connAck code =>
    cases code with
    | zero => cases h
    | succ code => rfl
  | failure => rfl
  | publish | subAck | pubAck | other => cases h

theorem hear_of_not_closes {accepted : Bool} {n : Notification} (h : n.closes = false) :
    hear accepted n = {
      news := n.passedOn?
      accepted := accepted || n.passedOn? = some (.connection .accepted) } := by
  cases n with
  | connAck code =>
    cases code with
    | zero => simp [hear, Notification.passedOn?]
    | succ code => cases h
  | failure => cases h
  | publish | subAck | pubAck | other => simp [hear, Notification.passedOn?]

/-- While a session goes on, all its news is passed on. -/
theorem news_append_of_not_closes {before : List Notification}
    (h : ∀ n ∈ before, n.closes = false) (accepted : Bool) (rest : List Notification) :
    news accepted (before ++ rest) = before.filterMap Notification.passedOn? ++
      news (accepted || .connection .accepted ∈ before.filterMap Notification.passedOn?) rest := by
  induction before generalizing accepted with
  | nil => simp
  | cons n before ih =>
    have hn := h n List.mem_cons_self
    have hrest := ih (fun m hmem => h m (List.mem_cons_of_mem n hmem))
    rw [List.cons_append, news, hear_of_not_closes hn, if_neg (by simp), hrest]
    cases hnews : n.passedOn? with
    | none => simp [hnews]
    | some e => simp [hnews, Bool.or_assoc, eq_comm]

/-- The first notification that a session is over is the last one that there is news of. -/
theorem news_cons_of_closes {n : Notification} (h : n.closes) (accepted : Bool)
    (rest : List Notification) :
    news accepted (n :: rest) = [.connection (farewell accepted n)] := by
  rw [news, hear_of_closes h]
  rfl

/-- What a reader says of a session whose notifications before the last one were `before`. -/
def parting (before : List Notification) (n : Notification) : NetEvent :=
  .connection
    (farewell (.connection .accepted ∈ before.filterMap Notification.passedOn?) n)

theorem news_of_not_closes {before : List Notification} (h : ∀ n ∈ before, n.closes = false) :
    news false before = before.filterMap Notification.passedOn? := by
  rw [← List.append_nil before, news_append_of_not_closes h, news, List.append_nil,
    List.append_nil]

theorem news_of_closes {before : List Notification} {n : Notification}
    (h : ∀ n ∈ before, n.closes = false) (closes : n.closes) (after : List Notification) :
    news false (before ++ n :: after) =
      before.filterMap Notification.passedOn? ++ [parting before n] := by
  rw [news_append_of_not_closes h, news_cons_of_closes closes, Bool.false_or]
  rfl

/-- The news of a session up to a point: all of it is passed on, or the last of it says that the
session is over. -/
inductive Told : List Notification → List NetEvent → Prop
  | goesOn {before : List Notification} (h : ∀ n ∈ before, n.closes = false) :
      Told before (before.filterMap Notification.passedOn?)
  | isOver {before : List Notification} {n : Notification} (h : ∀ n ∈ before, n.closes = false)
      (closes : n.closes) :
      Told (before ++ [n]) (before.filterMap Notification.passedOn? ++ [parting before n])

/-- What is taken of the news was told up to a point, which is the end of the notifications unless
the session is over by then or no more is taken. -/
theorem exists_told (taken : Nat) (notifications : List Notification) :
    let sent := (news false notifications).take taken
    ∃ heard rest, notifications = heard ++ rest ∧ Told heard sent ∧
      (rest = [] ∨ sent.length = taken ∨ ∃ n ∈ heard, n.closes) := by
  -- Where no more is taken, the notifications are cut where the news is.
  have hcut (before rest : List Notification) (h : ∀ n ∈ before, n.closes = false)
      (stops : taken ≤ (before.filterMap Notification.passedOn?).length) :
      let sent := (before.filterMap Notification.passedOn?).take taken
      ∃ heard rest', before ++ rest = heard ++ rest' ∧ Told heard sent ∧ sent.length = taken := by
    obtain ⟨heard, ⟨rest', rfl⟩, hheard⟩ := List.prefix_filterMap_iff.mp
      (List.take_prefix taken (before.filterMap Notification.passedOn?))
    refine ⟨heard, rest' ++ rest, List.append_assoc .., ?_, List.length_take_of_le stops⟩
    rw [hheard]
    exact .goesOn (fun n hmem => h n (List.mem_append_left _ hmem))
  intro sent
  cases hfind : notifications.find? Notification.closes with
  | none =>
    have hopen : ∀ n ∈ notifications, n.closes = false := fun n hmem =>
      Bool.eq_false_iff.mpr (List.find?_eq_none.mp hfind n hmem)
    have hnews := news_of_not_closes hopen
    rcases Nat.le_total taken (news false notifications).length with hle | hle
    · obtain ⟨heard, rest, heq, htold, hlength⟩ := hcut notifications [] hopen (hnews ▸ hle)
      rw [List.append_nil] at heq
      exact ⟨heard, rest, heq, by rwa [← hnews] at htold, .inr (.inl (by rwa [← hnews] at hlength))⟩
    · refine ⟨notifications, [], (List.append_nil _).symm, ?_, .inl rfl⟩
      rw [show sent = _ from List.take_of_length_le hle, hnews]
      exact .goesOn hopen
  | some n =>
    obtain ⟨hcloses, before, after, rfl, hbefore⟩ := List.find?_eq_some_iff_append.mp hfind
    have hopen : ∀ n ∈ before, n.closes = false := fun m hmem => by simpa using hbefore m hmem
    have hnews := news_of_closes hopen hcloses after
    let passed := before.filterMap Notification.passedOn?
    rcases Nat.lt_or_ge passed.length taken with hlt | hge
    · refine ⟨before ++ [n], after, by simp, ?_, .inr (.inr ⟨n, by simp, hcloses⟩)⟩
      have hfull : sent = passed ++ [parting before n] := by
        show (news false _).take taken = _
        rw [hnews, List.take_of_length_le (by rw [List.length_append]; exact hlt)]
      rw [hfull]
      exact .isOver hopen hcloses
    · obtain ⟨heard, rest, heq, htold, hlength⟩ := hcut before (n :: after) hopen hge
      have hsent : sent = passed.take taken := by
        show (news false _).take taken = _
        rw [hnews, List.take_append_of_le_length hge]
      exact ⟨heard, rest, heq, hsent ▸ htold, .inr (.inl (hsent ▸ hlength))⟩

theorem accepted_or_publish_of_mem_passed {before : List Notification} {e : NetEvent}
    (h : e ∈ before.filterMap Notification.passedOn?) :
    e = .connection .accepted ∨ ∃ topic payload, e = .publish topic payload := by
  obtain ⟨n, -, hn⟩ := List.mem_filterMap.mp h
  cases n with
  | connAck code =>
    cases code with
    | zero => exact .inl (Option.some.inj hn).symm
    | succ code => cases hn
  | publish topic payload => exact .inr ⟨topic, payload, (Option.some.inj hn).symm⟩
  | subAck | pubAck | other | failure => cases hn

theorem closes_parting (before : List Notification) (n : Notification) :
    (parting before n).closes := by
  have hcloses (accepted : Bool) : (NetEvent.connection (farewell accepted n)).closes := by
    cases n <;> cases accepted <;> rfl
  exact hcloses _

/-- A session is said to be lost only if it was said to be accepted. -/
theorem accepted_mem_of_parting {before : List Notification} {n : Notification}
    (h : parting before n = .connection .disconnected) :
    .connection .accepted ∈ before.filterMap Notification.passedOn? := by
  have haccepted (accepted : Bool) (h : farewell accepted n = .disconnected) : accepted := by
    cases accepted with
    | true => rfl
    | false => cases n <;> cases h
  exact of_decide_eq_true (haccepted _ (NetEvent.connection.inj h))

/-- A session that fails before it is accepted is said to be turned down, if it was not already. -/
theorem news_of_failure {before after : List Notification} (never : .connAck 0 ∉ before) :
    news false (before ++ .failure :: after) =
      (before.takeWhile (!·.closes)).filterMap Notification.passedOn? ++
        [.connection .rejected] := by
  let opened := before.takeWhile (!·.closes)
  have hopen : ∀ n ∈ opened, n.closes = false := fun n hmem => by
    simpa using List.all_eq_true.mp List.all_takeWhile n hmem
  have hnever : .connection .accepted ∉ opened.filterMap Notification.passedOn? := by
    intro hmem
    obtain ⟨n, hn, hnews⟩ := List.mem_filterMap.mp hmem
    cases n with
    | connAck code =>
      cases code with
      | zero => exact never (List.takeWhile_subset _ hn)
      | succ code => cases hnews
    | publish | subAck | pubAck | other | failure => cases hnews
  have hparting (n : Notification) : parting opened n = .connection .rejected := by
    cases n with
    | failure => simp [parting, farewell, hnever]
    | connAck | publish | subAck | pubAck | other => rfl
  have hsplit : before = opened ++ before.dropWhile (!·.closes) :=
    List.takeWhile_append_dropWhile.symm
  cases hrest : before.dropWhile (!·.closes) with
  | nil =>
    have hall : before = opened := by rw [hsplit, hrest, List.append_nil]
    have hnews := news_of_closes (n := .failure) hopen rfl after
    rw [hparting] at hnews
    exact (congrArg (fun l => news false (l ++ .failure :: after)) hall).trans hnews
  | cons n rest =>
    have hcloses : n.closes := by
      have hhead := List.head?_dropWhile_not (fun n : Notification => !n.closes) before
      simpa [hrest] using hhead
    have hnews := news_of_closes hopen hcloses (rest ++ .failure :: after)
    rw [hparting, ← List.cons_append, ← List.append_assoc, ← hrest, ← hsplit] at hnews
    exact hnews

namespace Told

variable {heard : List Notification} {sent : List NetEvent}

/-- Of each message that was heard there is news, in order. -/
theorem messages (h : Told heard sent) :
    sent.filterMap NetEvent.message? = heard.filterMap Notification.message? := by
  have hpassed (before : List Notification) :
      (before.filterMap Notification.passedOn?).filterMap NetEvent.message? =
        before.filterMap Notification.message? := by
    rw [List.filterMap_filterMap]
    refine congrArg (List.filterMap · before) (funext fun n => ?_)
    cases n with
    | connAck code => cases code <;> rfl
    | publish | subAck | pubAck | other | failure => rfl
  cases h with
  | goesOn => exact hpassed _
  | @isOver before n hopen closes =>
    have hlast : n.message? = none := by
      cases n with
      | publish => cases closes
      | connAck | subAck | pubAck | other | failure => rfl
    simp only [List.filterMap_append, hpassed, List.filterMap_cons, hlast]
    rfl

/-- Only the last piece of news can say that the session is over. -/
theorem shape (h : Told heard sent) :
    ∃ (passed : List NetEvent) (ending : Option ConnectionEvent),
      sent = passed ++ (ending.map NetEvent.connection).toList ∧
      (∀ e ∈ passed, e = .connection .accepted ∨ ∃ topic payload, e = .publish topic payload) ∧
      ∀ c ∈ ending, c = .rejected ∨ c = .disconnected ∧ .connection .accepted ∈ passed := by
  cases h with
  | goesOn =>
    exact ⟨_, none, (List.append_nil _).symm, fun _ => accepted_or_publish_of_mem_passed, nofun⟩
  | @isOver before n =>
    refine ⟨_, some _, rfl, fun _ => accepted_or_publish_of_mem_passed, fun c hc => ?_⟩
    obtain rfl := Option.mem_some_iff.mp hc
    have hcloses := closes_parting before n
    have haccepted : parting before n = .connection .disconnected → _ := accepted_mem_of_parting
    unfold parting at hcloses haccepted
    revert hcloses haccepted
    generalize farewell _ n = c
    intro hcloses haccepted
    cases c with
    | accepted => cases hcloses
    | rejected => exact .inl rfl
    | disconnected => exact .inr ⟨rfl, haccepted rfl⟩

/-- In front of the last piece of news none says that the session is over. -/
theorem not_closes_of_mem {passed : List NetEvent} {last : NetEvent}
    (h : Told heard (passed ++ [last])) (closes : last.closes) :
    ∀ e ∈ passed, e.closes = false := by
  obtain ⟨passed', ending, heq, hpassed, -⟩ := h.shape
  have hquiet : ∀ e ∈ passed', e.closes = false := fun e hmem => by
    rcases hpassed e hmem with rfl | ⟨topic, payload, rfl⟩ <;> rfl
  cases ending with
  | none =>
    rw [Option.map_none, Option.toList_none, List.append_nil] at heq
    have hlast := hquiet last (heq ▸ List.mem_append_right _ (List.mem_singleton_self last))
    rw [closes] at hlast
    cases hlast
  | some c => exact (List.append_inj' heq rfl).1 ▸ hquiet

end Told

end Reader

/-! ## What a node makes of it -/

/-- News of the session changes nothing about the two delays. -/
theorem Link.delays_hear (l : Link) (now : Nat) (event : ConnectionEvent) :
    (l.hear now event).connection.shortDelay = l.connection.shortDelay ∧
      (l.hear now event).connection.longDelay = l.connection.longDelay := by
  unfold hear
  split <;> exact ⟨rfl, rfl⟩

namespace Node

open Site

variable {τ : Type} [Transport τ] [NumbersSessions τ]

/-- The status of a node while a session goes on, given whether it was accepted. -/
def statusWhile (accepted : Bool) : ConnectionStatus :=
  if accepted then .connected else .connecting

/-- The current session goes on, with the delays that the connection had when it was asked for. -/
structure Attending (asked : Connection) (session : Nat) (accepted : Bool) (x : Node × Site τ) :
    Prop where
  settled : x.1.Settled
  session : Transport.session x.2.transport = session
  status : x.1.connection.status = statusWhile accepted
  shortDelay : x.1.connection.shortDelay = asked.shortDelay
  longDelay : x.1.connection.longDelay = asked.longDelay

namespace Attending

variable {asked : Connection} {session : Nat} {accepted : Bool} {x x' : Node × Site τ}

/-- Where nothing is done about the connection, the session goes on. -/
theorem congr (h : Attending asked session accepted x) (settled : x'.1.Settled)
    (connection : x'.1.connection = x.1.connection)
    (same : standing x'.2.transport = standing x.2.transport) :
    Attending asked session accepted x' where
  settled := settled
  session := (congrArg Prod.fst same).trans h.session
  status := by rw [connection, h.status]
  shortDelay := by rw [connection, h.shortDelay]
  longDelay := by rw [connection, h.longDelay]

omit [NumbersSessions τ] in
theorem status_ne (h : Attending asked session accepted x) :
    x.1.connection.status ≠ .disconnected := by
  rw [h.status]
  cases accepted <;> nofun

/-- While a session goes on, a timer of the next attempt goes off in vain. -/
theorem clockwork (h : Attending asked session accepted x) {happening : Happening τ}
    (clockwork : happening.isClockwork) :
    Attending asked session accepted (happening.apply respond x) := by
  have hsettled := settled_apply happening x.1 x.2 h.settled
  cases happening with
  | callback | transport => cases clockwork
  | clock reading => exact h.congr hsettled rfl rfl
  | expiry role =>
    cases hslot : x.2.timers.slots.get role with
    | none => simpa only [Happening.apply, hslot] using h
    | some t =>
      simp only [Happening.apply, hslot] at hsettled ⊢
      by_cases hrole : role = .reconnect
      · subst hrole
        let s₁ := { x.2 with timers := x.2.timers.cancel .reconnect }.record
          (.fire .reconnect t.deadline)
        have hvain : x.1.connect s₁ = (x.1, s₁.note (.connectRefused x.1.connection.status)) := by
          unfold Node.connect
          rw [Connection.connect_of_ne_disconnected h.status_ne]
        show Attending asked session accepted (x.1.connect s₁)
        rw [hvain]
        exact h.congr h.settled rfl rfl
      · let s₁ := { x.2 with timers := x.2.timers.cancel role }.record (.fire role t.deadline)
        obtain ⟨hconnection, hstanding⟩ := standing_onTimer x.1 s₁ h.settled hrole
        exact h.congr hsettled hconnection hstanding

theorem passTimeUntil (h : Attending asked session accepted x) (target : Nat) :
    Attending asked session accepted (x.1.passTimeUntil target x.2) := by
  obtain ⟨hs, hclockwork, hrun⟩ :=
    exists_run_of_passTime respond (firingLimit x.2.transport) target x
  rw [show x.1.passTimeUntil target x.2 = _ from hrun]
  exact run_invariant (P := Attending asked session accepted)
    (fun happening hmem _ hx => hx.clockwork (hclockwork happening hmem)) h

/-- A callback that is about the tank. -/
theorem tank (h : Attending asked session accepted x) {c : Callback} (tank : c.isTank) :
    Attending asked session accepted (respond c x.1 x.2) := by
  obtain ⟨hconnection, hacted⟩ := acted_respond_of_tank x.1 x.2 h.settled tank
  exact h.congr (settled_respond x.1 x.2 c h.settled) hconnection
    (standing_of_acted (hacted.mono (fun _ => Action.keepsSession_of_isTank)))

/-- An acceptance. -/
theorem accept (h : Attending asked session accepted x) :
    Attending asked session true (x.1.onConnectionEvent .accepted x.2) := by
  have hlink := link_onConnectionEvent x.1 x.2 .accepted
  obtain ⟨hshort, hlong⟩ := Link.delays_hear (link x) x.2.now .accepted
  refine ⟨settled_respond x.1 x.2 (.connection .accepted) h.settled, ?_, ?_, ?_, ?_⟩
  · exact (congrArg Prod.fst (standing_of_acted (Connection.acted_onEvent _ _ _ .accepted))).trans
      h.session
  · refine (congrArg Link.status hlink).trans ((Link.status_hear _ _ .accepted).trans ?_)
    rw [show (link x).status = _ from h.status]
    cases accepted <;> rfl
  · exact (congrArg (·.connection.shortDelay) hlink).trans (hshort.trans h.shortDelay)
  · exact (congrArg (·.connection.longDelay) hlink).trans (hlong.trans h.longDelay)

end Attending

omit [NumbersSessions τ] in
/-- When the current session is over, the next attempt is due after the short delay if it was
accepted, and after the long one if not. -/
theorem Attending.isOver {asked : Connection} {session : Nat} {accepted : Bool} {n : Node}
    {s : Site τ} (h : Attending asked session accepted (n, s)) {event : ConnectionEvent}
    (closes : event ≠ .accepted) :
    let delay := if accepted then asked.shortDelay else asked.longDelay
    let after := n.onConnectionEvent event s
    after.1.connection.status = .disconnected ∧
      after.2.timers.deadline? .reconnect = some (instantAfter s.now delay) ∧
      after.2.journal.head? = some (.event (.reconnectScheduled delay)) := by
  have hstatus : n.connection.status = statusWhile accepted := h.status
  have hshort : n.connection.shortDelay = asked.shortDelay := h.shortDelay
  have hlong : n.connection.longDelay = asked.longDelay := h.longDelay
  intro delay after
  have hlink : link after = (link (n, s)).hear s.now event := link_onConnectionEvent n s event
  have hheard : ((link (n, s)).hear s.now event).status = .disconnected ∧
      ((link (n, s)).hear s.now event).retryAt = some (instantAfter s.now delay) := by
    unfold Link.hear
    rw [show (link (n, s)).status = _ from hstatus]
    cases accepted <;> cases event
    case false.accepted | true.accepted => exact absurd rfl closes
    case false.rejected | false.disconnected =>
      exact ⟨rfl, congrArg (fun delay => some (instantAfter s.now delay)) hlong⟩
    case true.rejected | true.disconnected =>
      exact ⟨rfl, congrArg (fun delay => some (instantAfter s.now delay)) hshort⟩
  rw [← hlink] at hheard
  refine ⟨hheard.1, hheard.2, ?_⟩
  show (n.connection.onEvent n.topics event s).2.journal.head? = _
  unfold Connection.onEvent
  rw [hstatus]
  cases accepted <;> cases event
  case false.accepted | true.accepted => exact absurd rfl closes
  case false.rejected | false.disconnected =>
    exact congrArg (fun delay => some (Entry.event (.reconnectScheduled delay))) hlong
  case true.rejected | true.disconnected =>
    exact congrArg (fun delay => some (Entry.event (.reconnectScheduled delay))) hshort

end Node

/-! ## Workers -/

/-- What becomes of a worker that takes in news, latest last. Meanwhile its timers may go off, its
clock may move on and news of other sessions may come in. -/
inductive Worker.Fed {τ : Type} [Transport τ] (start : Worker τ) :
    List SessionEvent → Worker τ → Prop
  | start : Fed start [] start
  | news {w : Worker τ} {es : List SessionEvent} (before : Fed start es w) (e : SessionEvent) :
      Fed start (es ++ [e]) (w.dispatch e)
  | stale {w : Worker τ} {es : List SessionEvent} (before : Fed start es w) {e : SessionEvent}
      (other : e.session ≠ Transport.session w.site.transport) : Fed start es (w.dispatch e)
  | timers {w : Worker τ} {es : List SessionEvent} (before : Fed start es w) :
      Fed start es w.fireDueTimers
  | clock {w : Worker τ} {es : List SessionEvent} (before : Fed start es w) (reading : Nat) :
      Fed start es { w with site := { w.site with now := reading } }

/-- While no news of the current session says that it is over, the session goes on, and is accepted
once the news says so. -/
theorem Worker.Fed.attending {τ : Type} [Transport τ] [NumbersSessions τ] {start w : Worker τ}
    {es : List SessionEvent} (h : start.Fed es w) (settled : start.node.Settled)
    (connecting : start.node.connection.status = .connecting)
    (own : ∀ e ∈ es, e.session = Transport.session start.site.transport)
    (goesOn : ∀ e ∈ es, e.event.closes = false) :
    Node.Attending start.node.connection (Transport.session start.site.transport)
      (.connection .accepted ∈ es.map SessionEvent.event) (w.node, w.site) := by
  induction h with
  | start => exact ⟨settled, rfl, connecting, rfl, rfl⟩
  | @news w es _ e ih =>
    have hbefore := ih (fun e' hmem => own e' (List.mem_append_left _ hmem))
      (fun e' hmem => goesOn e' (List.mem_append_left _ hmem))
    have hcurrent : e.session = Transport.session w.site.transport :=
      (own e (by simp)).trans hbefore.session.symm
    have hclosed := goesOn e (by simp)
    cases hevent : e.event with
    | connection event =>
      rw [w.dispatch_of_connection hcurrent hevent]
      rw [hevent] at hclosed
      cases event with
      | rejected | disconnected => cases hclosed
      | accepted =>
        have haccepted : decide (NetEvent.connection .accepted ∈
            (es ++ [e]).map SessionEvent.event) = true := by simp [hevent]
        rw [haccepted]
        exact hbefore.accept
    | publish topic payload =>
      have hsame : decide (NetEvent.connection .accepted ∈ (es ++ [e]).map SessionEvent.event) =
          decide (NetEvent.connection .accepted ∈ es.map SessionEvent.event) := by simp [hevent]
      rw [w.dispatch_of_publish hcurrent hevent, hsame]
      exact (hbefore.tank (c := .topic topic) rfl).tank (c := .payload payload true) rfl
  | stale _ other ih =>
    have hbefore := ih own goesOn
    rw [Worker.dispatch_of_stale _ other]
    exact hbefore.congr hbefore.settled rfl rfl
  | timers _ ih => exact (ih own goesOn).passTimeUntil _
  | clock _ reading ih =>
    have hbefore := ih own goesOn
    exact hbefore.congr hbefore.settled rfl rfl

/-- With the news that the current session is over, the next attempt is planned: after the short
delay if the news before said that it was accepted, and after the long one if not. -/
theorem Worker.Fed.isOver {τ : Type} [Transport τ] [NumbersSessions τ] {start w : Worker τ}
    {es : List SessionEvent} (h : start.Fed es w) (settled : start.node.Settled)
    (connecting : start.node.connection.status = .connecting)
    (own : ∀ e ∈ es, e.session = Transport.session start.site.transport)
    (goesOn : ∀ e ∈ es, e.event.closes = false) {last : SessionEvent}
    (current : last.session = Transport.session start.site.transport)
    (closes : last.event.closes) :
    let delay := if .connection .accepted ∈ es.map SessionEvent.event then
      start.node.connection.shortDelay else start.node.connection.longDelay
    let after := w.dispatch last
    after.node.connection.status = .disconnected ∧
      after.site.timers.deadline? .reconnect = some (instantAfter w.site.now delay) ∧
      after.site.journal.head? = some (.event (.reconnectScheduled delay)) := by
  have hattending := h.attending settled connecting own goesOn
  have hcurrent : last.session = Transport.session w.site.transport :=
    current.trans hattending.session.symm
  cases hevent : last.event with
  | publish topic payload =>
    rw [hevent] at closes
    cases closes
  | connection event =>
    have hover : event ≠ .accepted := by
      rintro rfl
      rw [hevent] at closes
      cases closes
    rw [w.dispatch_of_connection hcurrent hevent]
    have hisOver := hattending.isOver hover
    simp only [decide_eq_true_eq] at hisOver
    exact hisOver

/-- The news of a session is acceptances and messages, and then at most once that it was turned down
or lost, and nothing after that. It is said to be lost only if it was said to be accepted, and
turned down if it fails before that. Up to the end there is news of each message, in order. And a
worker whose session is on its way and that takes in the news plans its next attempt with the last
of it, after the short delay if the session was said to be accepted, and after the long one if
not. -/
theorem Reader.shape_of_reports {τ : Type} [Transport τ] [NumbersSessions τ] (session taken : Nat)
    (notifications : List Notification) :
    let reports := reports session taken notifications
    let sent := reports.map SessionEvent.event
    (∀ e ∈ reports, e.session = session) ∧
      (∃ (passed : List NetEvent) (ending : Option ConnectionEvent),
        sent = passed ++ (ending.map NetEvent.connection).toList ∧
        (∀ e ∈ passed, e = .connection .accepted ∨ ∃ topic payload, e = .publish topic payload) ∧
        ∀ c ∈ ending,
          c = .rejected ∨ c = .disconnected ∧ .connection .accepted ∈ passed) ∧
      (∀ before after, notifications = before ++ .failure :: after → .connAck 0 ∉ before →
        sent = ((before.takeWhile (!·.closes)).filterMap Notification.passedOn? ++
          [.connection .rejected]).take taken) ∧
      (∃ heard rest, notifications = heard ++ rest ∧
        sent.filterMap NetEvent.message? = heard.filterMap Notification.message? ∧
        (rest = [] ∨ sent.length = taken ∨ ∃ n ∈ heard, n.closes)) ∧
      ∀ (start w : Worker τ) (passed : List SessionEvent) (last : SessionEvent),
        reports = passed ++ [last] → last.event.closes →
        start.node.Settled → start.node.connection.status = .connecting →
        Transport.session start.site.transport = session → start.Fed passed w →
        let delay := if .connection .accepted ∈ passed.map SessionEvent.event then
          start.node.connection.shortDelay else start.node.connection.longDelay
        let after := w.dispatch last
        after.node.connection.status = .disconnected ∧
          after.site.timers.deadline? .reconnect = some (instantAfter w.site.now delay) ∧
          after.site.journal.head? = some (.event (.reconnectScheduled delay)) := by
  intro reports sent
  have hsent : sent = (news false notifications).take taken := by
    show List.map SessionEvent.event (List.map _ _) = _
    rw [List.map_map]
    exact List.map_id _
  have htagged : ∀ e ∈ reports, e.session = session := by
    intro e hmem
    obtain ⟨event, -, rfl⟩ := List.mem_map.mp hmem
    rfl
  obtain ⟨heard, rest, hnotifications, htold, hend⟩ := exists_told taken notifications
  rw [← hsent] at htold hend
  refine ⟨htagged, htold.shape, ?_, ⟨heard, rest, hnotifications, htold.messages, hend⟩, ?_⟩
  · rintro before after rfl never
    rw [hsent, news_of_failure never]
  · intro start w passed last hreports hcloses settled connecting hsession hfed
    have hlast : sent = passed.map SessionEvent.event ++ [last.event] := by
      show List.map SessionEvent.event reports = _
      rw [hreports, List.map_append]
      rfl
    rw [hlast] at htold
    have hown (e : SessionEvent) (hmem : e ∈ passed ++ [last]) :
        e.session = Transport.session start.site.transport :=
      (htagged e (hreports ▸ hmem)).trans hsession.symm
    exact hfed.isOver settled connecting (fun e hmem => hown e (List.mem_append_left _ hmem))
      (fun e hmem => htold.not_closes_of_mem hcloses _ (List.mem_map_of_mem hmem))
      (hown last (List.mem_append_right _ (List.mem_singleton_self last))) hcloses

/-- A session that is accepted, brings a message and then has its request refused all the same is
followed by an attempt after the short delay. -/
theorem Reader.short_delay_of_late_refusal :
    let start := (Watched.launched {} (Bench.session {}) 0 ({} : Scripted)).worker
    let heard := [.connAck 0, .subAck, .publish "t" [], .connAck 5, .failure]
    let w := (start.dispatch ⟨1, .connection .accepted⟩).fireDueTimers.dispatch
      ⟨1, .publish "t" []⟩
    reports 1 9 heard = [⟨1, .connection .accepted⟩, ⟨1, .publish "t" []⟩,
        ⟨1, .connection .rejected⟩] ∧
      (w.dispatch ⟨1, .connection .rejected⟩).site.timers.deadline? .reconnect =
        some (instantAfter w.site.now ({} : Config).reconnectShort) := by
  intro start heard w
  have hreports : reports 1 9 heard =
      [⟨1, .connection .accepted⟩, ⟨1, .publish "t" []⟩] ++ [⟨1, .connection .rejected⟩] := rfl
  have hfed : start.Fed [⟨1, .connection .accepted⟩, ⟨1, .publish "t" []⟩] w :=
    .news (.timers (.news .start _)) _
  obtain ⟨-, -, -, -, hdelay⟩ := shape_of_reports (τ := Scripted) 1 9 heard
  have hsettled : start.node.Settled :=
    Node.settled_respond _ { now := 0, transport := ({} : Scripted) } .start
      (Node.settled_ofConfig {} (Bench.session {}))
  have hplanned := hdelay start w _ _ hreports rfl hsettled (by decide +kernel)
    (by decide +kernel) hfed
  exact ⟨hreports, hplanned.2.1⟩

end TankGauge
