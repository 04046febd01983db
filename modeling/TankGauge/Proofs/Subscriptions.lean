import TankGauge.Proofs.Actions

/-!
# Accepted sessions are subscribed to at once

A session is accepted when a connection goes over to connected. Right after that, and at no other
time, both inbound topics are subscribed to, first the one of the fill requests and then the one of
the alarms. How the transport answers the first call is of no consequence for the second.

In a journal this is a matter of what stands on what (`Subscribes`). Nothing but the acceptance of
an attempt adds a subscription or tells of a session that was accepted, because whatever else a node
does is done by actions that do neither (`Action.keepsSubscriptions`).
-/

namespace TankGauge

/-- Whether an entry is a call to subscribe. -/
def Entry.isSubscribe : Entry → Bool
  | subscribe .. => true
  | _ => false

/-- Whether an entry tells of a session that was accepted. -/
def Entry.isAcceptance : Entry → Bool
  | event (.connectionChanged _ .connected) => true
  | _ => false

/-- The two subscriptions to a session that was accepted, newest first, with their answers. -/
def subscriptions (topics : Topics) (toFillRequest toAlarm : Answer) : List Entry :=
  [.event (.subscribed topics.alarm toAlarm), .subscribe topics.alarm .atLeastOnce toAlarm,
    .event (.subscribed topics.fillRequest toFillRequest),
    .subscribe topics.fillRequest .atLeastOnce toFillRequest]

/-- A journal, newest first, in which sessions are subscribed to when they are accepted, and only
then. -/
inductive Subscribes (topics : Topics) : List Entry → Prop
  | nil : Subscribes topics []
  | other {journal : List Entry} (h : Subscribes topics journal) {e : Entry}
      (call : e.isSubscribe = false) (news : e.isAcceptance = false) :
      Subscribes topics (e :: journal)
  | accepted {journal : List Entry} (h : Subscribes topics journal)
      (toFillRequest toAlarm : Answer) :
      Subscribes topics (subscriptions topics toFillRequest toAlarm ++
        .event (.connectionChanged .connecting .connected) :: journal)

namespace Subscribes

variable {topics : Topics} {journal : List Entry}

/-- A session that was accepted was asked for before, and is subscribed to at once. -/
theorem suffix_of_isAcceptance (h : Subscribes topics journal) {e : Entry} {earlier : List Entry}
    (told : e :: earlier <:+ journal) (acceptance : e.isAcceptance) :
    e = .event (.connectionChanged .connecting .connected) ∧
      ∃ toFillRequest toAlarm,
        subscriptions topics toFillRequest toAlarm ++ e :: earlier <:+ journal := by
  have hne {top : Entry} (other : top.isAcceptance = false) : e ≠ top := by
    rintro rfl
    rw [acceptance] at other
    cases other
  induction h with
  | nil => exact absurd (List.suffix_nil.mp told) (List.cons_ne_nil _ _)
  | @other journal _ top _ news ih =>
    obtain ⟨heq, toFillRequest, toAlarm, hfound⟩ := ih (suffix_tail_of_ne told (hne news))
    exact ⟨heq, toFillRequest, toAlarm, hfound.trans (List.suffix_cons top journal)⟩
  | @accepted journal _ toFillRequest toAlarm ih =>
    have hsubscriptions : ∀ top ∈ subscriptions topics toFillRequest toAlarm,
        top.isAcceptance = false := by
      simp [subscriptions, Entry.isAcceptance]
    have hbelow := suffix_of_not_mem told (fun hmem => hne (hsubscriptions e hmem) rfl)
    -- It is the acceptance under the two subscriptions, or one further down.
    rcases List.suffix_cons_iff.mp hbelow with heq | hsuffix
    · obtain ⟨rfl, rfl⟩ := List.cons.inj heq
      exact ⟨rfl, toFillRequest, toAlarm, List.suffix_refl _⟩
    · obtain ⟨heq, fill, alarm, hfound⟩ := ih hsuffix
      refine ⟨heq, fill, alarm, hfound.trans ?_⟩
      exact (List.suffix_cons _ journal).trans
        (List.suffix_append (subscriptions topics toFillRequest toAlarm) _)

/-- There are two subscriptions for each session that was accepted. -/
theorem countP_isSubscribe (h : Subscribes topics journal) :
    journal.countP Entry.isSubscribe = 2 * journal.countP Entry.isAcceptance := by
  induction h with
  | nil => rfl
  | other _ call news ih =>
    rw [List.countP_cons_of_neg (Bool.eq_false_iff.mp call),
      List.countP_cons_of_neg (Bool.eq_false_iff.mp news), ih]
  | @accepted journal _ toFillRequest toAlarm ih =>
    let block := subscriptions topics toFillRequest toAlarm ++
      [.event (.connectionChanged .connecting .connected)]
    have hcalls : (block ++ journal).countP Entry.isSubscribe =
        2 + journal.countP Entry.isSubscribe := List.countP_append
    have hnews : (block ++ journal).countP Entry.isAcceptance =
        1 + journal.countP Entry.isAcceptance := List.countP_append
    show (block ++ journal).countP _ = 2 * (block ++ journal).countP _
    rw [hcalls, hnews, ih, Nat.mul_add]

end Subscribes

namespace Site

variable {τ : Type} [Transport τ] {topics : Topics}

theorem subscribes_perform (s : Site τ) {a : Action} (keeps : a.keepsSubscriptions)
    (h : Subscribes topics s.journal) : Subscribes topics (s.perform a).journal := by
  cases a with
  | tell e =>
    refine h.other rfl ?_
    cases e with
    | connectionChanged before after =>
      cases after with
      | connected => cases keeps
      | disconnected | connecting => rfl
    | _ => rfl
  | subscribe => cases keeps
  | note | disarm | connect | publish => exact h.other rfl rfl
  | arm role delay =>
    show Subscribes topics (s.schedule role delay).journal
    unfold schedule
    split
    · exact (h.other rfl rfl).other rfl rfl
    · exact h.other rfl rfl

theorem Acted.subscribes {s s' : Site τ} (acted : s.Acted Action.keepsSubscriptions s')
    (h : Subscribes topics s.journal) : Subscribes topics s'.journal :=
  acted.invariant (I := fun s => Subscribes topics s.journal)
    (fun s _ keeps => subscribes_perform s keeps) h

end Site

namespace Node

open Site

variable {τ : Type} [Transport τ]

theorem subscribes_onConnectionEvent (n : Node) (s : Site τ) (event : ConnectionEvent)
    (h : Subscribes n.topics s.journal) :
    Subscribes n.topics (n.onConnectionEvent event s).2.journal := by
  by_cases haccepted : n.connection.status = .connecting ∧ event = .accepted
  · obtain ⟨hstatus, rfl⟩ := haccepted
    show Subscribes n.topics (n.connection.onEvent n.topics .accepted s).2.journal
    unfold Connection.onEvent
    rw [hstatus]
    have hmoved : (n.connection.moveTo .connected s).2.journal =
        .event (.connectionChanged .connecting .connected) :: s.journal := by
      rw [← hstatus]
      rfl
    refine subscribes_perform (a := .arm .announce 0) _ rfl ?_
    show Subscribes n.topics (subscriptions n.topics _ _ ++ _)
    rw [hmoved]
    exact h.accepted _ _
  · exact (Connection.acted_onEvent_of_not_accepted _ s (fun _ _ hkeeps _ => hkeeps) n.topics event
      haccepted).subscribes h

/-- Whatever callback is made, sessions are subscribed to when they are accepted, and only then. -/
theorem subscribes_respond (n : Node) (s : Site τ) (settled : n.Settled) (c : Callback)
    (h : Subscribes n.topics s.journal) : Subscribes n.topics (respond c n s).2.journal := by
  by_cases htank : c.isTank
  · have hacted := (acted_respond_of_tank n s settled htank).2
    exact (hacted.mono (fun _ => Action.keepsSubscriptions_of_isTank)).subscribes h
  · cases c with
    | topic | payload | command => exact absurd rfl htank
    | start =>
      obtain ⟨n', s', hstart, -, -, hacted⟩ := acted_started n s settled
      have hconnected := Connection.acted_connect n'.connection s'
      show Subscribes n.topics (n.start s).2.journal
      rw [hstart]
      exact ((hacted.mono (fun _ => Action.keepsSubscriptions_of_isTank)).trans
        hconnected).subscribes h
    | connection event => exact subscribes_onConnectionEvent n s event h
    | timer role =>
      cases role with
      | decrease | increase | resume => exact absurd rfl htank
      | reconnect => exact (Connection.acted_connect n.connection s).subscribes h
      | announce => exact (acted_announce n s (fun _ _ hkeeps _ => hkeeps)).subscribes h

theorem subscribes_apply (n : Node) (s : Site τ) (settled : n.Settled) (happening : Happening τ)
    (h : Subscribes n.topics s.journal) :
    Subscribes n.topics (happening.apply respond (n, s)).2.journal :=
  happening.journal_apply (fun c s' => subscribes_respond n s' settled c)
    (fun _ _ h => h.other rfl rfl) h

end Node

end TankGauge
