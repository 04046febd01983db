import TankGauge.Proofs.Independence
import Mathlib.Data.List.Forall2

/-!
# What a refusal changes

A node that publishes or subscribes tells the outside how that was answered and goes on in the same
way, whatever the answer. Only the answer to a call for a session decides what it does next. So two
nodes that start out alike on any two transports stay alike: as long as their calls for sessions are
answered alike, they make the same calls in the same order and arm the same timers
(`Node.same_calls_of_runs`).

Their journals then differ in two places only, a publication with the event behind it and a
subscription with the event behind it (`Entry.Matched`). That journals match, and that clock and
timers are the same, is what each action on two sites preserves (`Site.Lockstep`).
-/

namespace TankGauge

/-! ## Journals that differ in answers only -/

/-- A call that a node makes, without the answer that it gets. -/
inductive Call
  | connect (session : SessionParams)
  | subscribe (topic : Topic) (qos : QoS)
  | publish (topic : Topic) (payload : String) (qos : QoS) (retain : Bool)
  | schedule (role : TimerRole) (delay : UInt32)
  | cancel (role : TimerRole)
deriving DecidableEq

/-- Two events that differ at most in how a publication or a subscription was answered. -/
inductive Event.Counterpart : Event → Event → Prop
  | same (e : Event) : Counterpart e e
  | told (p : Publication) (a a' : Answer) : Counterpart (p.outcome a) (p.outcome a')
  | subscribed (topic : Topic) (a a' : Answer) :
    Counterpart (.subscribed topic a) (.subscribed topic a')

namespace Entry

/-- The call that an entry tells of. -/
def call? : Entry → Option Call
  | .connect session _ => some (.connect session)
  | .subscribe topic qos _ => some (.subscribe topic qos)
  | .publish topic payload qos retain _ => some (.publish topic payload qos retain)
  | .schedule role delay => some (.schedule role delay)
  | .cancel role _ => some (.cancel role)
  | .fire .. | .event _ | .note _ => none

/-- The answer to a call for a session that an entry tells of. -/
def connectAnswer? : Entry → Option Answer
  | .connect _ answer => some answer
  | _ => none

theorem connectAnswer?_of_isWork (e : Entry) (h : e.isWork) : e.connectAnswer? = none := by
  cases e with
  | connect => cases h
  | subscribe | publish | schedule | cancel | fire | event | note => rfl

/-- The event that an entry tells of. -/
def event? : Entry → Option Event
  | .event e => some e
  | _ => none

/-- Two journals that differ at most in how publications and subscriptions were answered, and in
what the events right behind these tell of their answers. -/
inductive Matched : List Entry → List Entry → Prop
  | nil : Matched [] []
  | same {j j' : List Entry} (e : Entry) (h : Matched j j') : Matched (e :: j) (e :: j')
  | published {j j' : List Entry} (topics : Topics) (p : Publication) (a a' : Answer)
    (h : Matched j j') :
    Matched
      (.event (p.outcome a) ::
        .publish (p.channel.topic topics) p.payload.text .atLeastOnce true a :: j)
      (.event (p.outcome a') ::
        .publish (p.channel.topic topics) p.payload.text .atLeastOnce true a' :: j')
  | subscribed {j j' : List Entry} (topic : Topic) (a a' : Answer) (h : Matched j j') :
    Matched (.event (.subscribed topic a) :: .subscribe topic .atLeastOnce a :: j)
      (.event (.subscribed topic a') :: .subscribe topic .atLeastOnce a' :: j')

namespace Matched

variable {j j' : List Entry}

theorem refl (j : List Entry) : Matched j j := by
  induction j with
  | nil => exact .nil
  | cons e rest ih => exact .same e ih

/-- A view that shows neither these answers nor what is told of them is the same. -/
theorem filterMap_eq {β : Type} {f : Entry → Option β} (h : Matched j j')
    (published : ∀ topic payload qos retain a a',
      f (.publish topic payload qos retain a) = f (.publish topic payload qos retain a'))
    (subscribed : ∀ topic qos a a', f (.subscribe topic qos a) = f (.subscribe topic qos a'))
    (told : ∀ (p : Publication) a a', f (.event (p.outcome a)) = f (.event (p.outcome a')))
    (answered : ∀ topic a a',
      f (.event (.subscribed topic a)) = f (.event (.subscribed topic a'))) :
    j'.filterMap f = j.filterMap f := by
  induction h with
  | nil => rfl
  | same e _ ih => simp only [List.filterMap_cons, ih]
  | published topics p a a' _ ih =>
    simp only [List.filterMap_cons, ih, told p a' a, published _ _ _ _ a' a]
  | subscribed topic a a' _ ih =>
    simp only [List.filterMap_cons, ih, answered topic a' a, subscribed _ _ a' a]

theorem calls_eq (h : Matched j j') : j'.filterMap call? = j.filterMap call? :=
  h.filterMap_eq (fun _ _ _ _ _ _ => rfl) (fun _ _ _ _ => rfl)
    (fun _ a a' => by cases a <;> cases a' <;> rfl) (fun _ _ _ => rfl)

theorem forall₂_events (h : Matched j j') :
    List.Forall₂ Event.Counterpart (j.filterMap event?) (j'.filterMap event?) := by
  induction h with
  | nil => exact .nil
  | same e _ ih =>
    cases e with
    | event e => exact .cons (.same e) ih
    | connect | subscribe | publish | schedule | cancel | fire | note => exact ih
  | published topics p a a' _ ih => exact .cons (.told p a a') ih
  | subscribed topic a a' _ ih => exact .cons (.subscribed topic a a') ih

end Matched

end Entry

/-! ## Actions on both sites -/

namespace Site

open Entry

variable {τ τ' : Type}

/-- Two sites, with whatever transports, that show the same time and have the same timers, and whose
journals match. -/
structure Lockstep (s : Site τ) (s' : Site τ') : Prop where
  now : s'.now = s.now
  timers : s'.timers = s.timers
  journal : Matched s.journal s'.journal

/-- The same site with another transport. -/
def withTransport (s : Site τ) (t' : τ') : Site τ' :=
  { now := s.now, timers := s.timers, transport := t', journal := s.journal }

theorem lockstep_withTransport (s : Site τ) (t' : τ') : s.Lockstep (s.withTransport t') :=
  ⟨rfl, rfl, .refl s.journal⟩

namespace Lockstep

variable {s : Site τ} {s' : Site τ'}

/-- The calls for sessions were answered alike. -/
theorem connectAnswers (h : s.Lockstep s') : s'.connectAnswers = s.connectAnswers :=
  h.journal.filterMap_eq (fun _ _ _ _ _ _ => rfl) (fun _ _ _ _ => rfl)
    (fun _ a a' => by cases a <;> cases a' <;> rfl) (fun _ _ _ => rfl)

theorem record (h : s.Lockstep s') (e : Entry) : (s.record e).Lockstep (s'.record e) :=
  ⟨h.now, h.timers, .same e h.journal⟩

theorem noteAll (h : s.Lockstep s') (notes : List Note) :
    (s.noteAll notes).Lockstep (s'.noteAll notes) := by
  induction notes generalizing s s' with
  | nil => exact h
  | cons n rest ih => exact ih (h.record _)

theorem schedule (h : s.Lockstep s') (r : TimerRole) (delay : UInt32) :
    (s.schedule r delay).Lockstep (s'.schedule r delay) := by
  have htimers : s'.timers.schedule r delay s'.now = s.timers.schedule r delay s.now := by
    rw [h.timers, h.now]
  unfold Site.schedule
  rw [h.timers] at htimers ⊢
  split
  · exact ⟨h.now, htimers, .same _ (.same _ h.journal)⟩
  · exact ⟨h.now, htimers, .same _ h.journal⟩

theorem cancel (h : s.Lockstep s') (r : TimerRole) : (s.cancel r).Lockstep (s'.cancel r) := by
  unfold Site.cancel
  rw [h.timers]
  exact ⟨h.now, rfl, .same _ h.journal⟩

variable [Transport τ] [Transport τ']

/-- Asking for a session keeps step if it is answered alike. -/
theorem connect (h : s.Lockstep s') {session : SessionParams}
    (answered : (s'.connect session).1 = (s.connect session).1) :
    (s.connect session).2.Lockstep (s'.connect session).2 := by
  refine ⟨h.now, h.timers, ?_⟩
  rw [journal_connect, journal_connect, answered]
  exact .same _ h.journal

/-- Publications keep step whatever the answers. -/
theorem send (h : s.Lockstep s') (topics : Topics) (ps : List Publication) :
    (Node.send topics ps s).Lockstep (Node.send topics ps s') := by
  induction ps generalizing s s' with
  | nil => exact h
  | cons p rest ih =>
    refine ih ?_
    rw [Node.sendOne_eq, Node.sendOne_eq]
    exact ⟨h.now, h.timers, .published topics p _ _ h.journal⟩

/-- Subscriptions keep step whatever the answers. -/
theorem subscribeTo (h : s.Lockstep s') (topic : Topic) :
    (Connection.subscribeTo topic s).Lockstep (Connection.subscribeTo topic s') :=
  ⟨h.now, h.timers, .subscribed topic _ _ h.journal⟩

end Lockstep

/-- The same thing on two sites that keep step. -/
def InStep {α : Type} (x : α × Site τ) (x' : α × Site τ') : Prop :=
  x'.1 = x.1 ∧ x.2.Lockstep x'.2

end Site

/-! ## The connection on both sites -/

namespace Connection

open Site

variable {τ τ' : Type} {s : Site τ} {s' : Site τ'} (h : s.Lockstep s') (c : Connection)

include h

theorem inStep_failAttempt : InStep (c.failAttempt s) (c.failAttempt s') :=
  ⟨rfl, ((h.record _).schedule _ _).record _⟩

variable [Transport τ] [Transport τ']

/-- Asking for a session is in step if it is answered alike. -/
theorem inStep_connect (answered : c.status = .disconnected →
      ((c.asking s').connect c.session).1 = ((c.asking s).connect c.session).1) :
    InStep (c.connect s) (c.connect s') := by
  by_cases hstatus : c.status = .disconnected
  · replace answered := answered hstatus
    have hasking : (c.asking s).Lockstep (c.asking s') := (h.record _).record _
    have hasked := hasking.connect answered
    rw [connect_of_disconnected hstatus, connect_of_disconnected hstatus]
    rcases hcall : (c.asking s).connect c.session with ⟨_ | reason, s₁⟩ <;>
      rcases hcall' : (c.asking s').connect c.session with ⟨_ | reason', s₁'⟩ <;>
      rw [hcall, hcall'] at answered hasked
    · exact ⟨rfl, hasked⟩
    · cases answered
    · cases answered
    · obtain rfl : reason' = reason := Answer.refused.inj answered
      exact inStep_failAttempt (hasked.record _) _
  · rw [connect_of_ne_disconnected hstatus, connect_of_ne_disconnected hstatus]
    exact ⟨rfl, h.record _⟩

/-- News of a session is taken in in step, whatever the answers to the subscriptions. -/
theorem inStep_onEvent (topics : Topics) (event : ConnectionEvent) :
    InStep (c.onEvent topics event s) (c.onEvent topics event s') := by
  unfold onEvent
  split
  · exact ⟨rfl, (((h.record _).subscribeTo _).subscribeTo _).schedule _ _⟩
  · exact inStep_failAttempt (h.record _) c
  · exact inStep_failAttempt (h.record _) c
  · exact ⟨rfl, ((((h.record _).cancel _).record _).schedule _ _).record _⟩
  · exact ⟨rfl, ((((h.record _).cancel _).record _).schedule _ _).record _⟩
  · exact ⟨rfl, h.record _⟩

end Connection

/-! ## Callbacks on both sites -/

namespace Node

open Site

variable {τ τ' : Type} [Transport τ] [Transport τ']

section

variable {s : Site τ} {s' : Site τ'} (h : s.Lockstep s') (n : Node)

include h

theorem inStep_step (d : Direction) : InStep (n.step d s) (n.step d s') := by
  refine ⟨by rw [fst_step, fst_step], ?_⟩
  by_cases hlevel : n.level = d.boundary
  · rw [snd_step_of_boundary n s d hlevel, snd_step_of_boundary n s' d hlevel]
    exact (h.send _ _).record _
  · rw [snd_step_of_ne_boundary n s d hlevel, snd_step_of_ne_boundary n s' d hlevel]
    exact (h.send _ _).schedule _ _

theorem inStep_announce : InStep (n.announce s) (n.announce s') :=
  ⟨rfl, h.send _ _⟩

theorem inStep_applyEffect (e : Effect) : InStep (n.applyEffect s e) (n.applyEffect s' e) := by
  cases e with
  | cancel role => exact ⟨rfl, h.cancel role⟩
  | schedule role delay => exact ⟨rfl, h.schedule role delay⟩
  | startDecrease => exact inStep_step h n .decrease
  | publishStable => exact ⟨rfl, h.send _ _⟩

theorem inStep_applyEffects (effects : List Effect) :
    InStep (n.applyEffects s effects) (n.applyEffects s' effects) := by
  induction effects generalizing n s s' with
  | nil => exact ⟨rfl, h⟩
  | cons e rest ih =>
    rw [applyEffects_cons, applyEffects_cons]
    have hone := inStep_applyEffect h n e
    rw [hone.1]
    exact ih hone.2 _

omit [Transport τ] [Transport τ'] in
theorem lockstep_heard (c : Command) : (n.heard s c).Lockstep (n.heard s' c) := by
  have hnoted := (h.record (.event (.commandReceived c))).noteAll (n.machine.handle c).2.2
  unfold heard
  cases (n.machine.handle c).1 with
  | none => exact hnoted
  | some after => exact hnoted.record _

theorem inStep_handleCommand (c : Command) :
    InStep (n.handleCommand c s) (n.handleCommand c s') := by
  rw [handleCommand_eq_applyEffects, handleCommand_eq_applyEffects]
  exact inStep_applyEffects (lockstep_heard h n c) _ _

theorem inStep_onPayload (data : Bytes) (last : Bool) :
    InStep (n.onPayload data last s) (n.onPayload data last s') := by
  cases last with
  | false => exact ⟨rfl, h.record _⟩
  | true =>
    cases hdecode : Command.decode n.pending (BoundedList.truncate data : Payload).items with
    | some command =>
      rw [onPayload_of_command n s hdecode, onPayload_of_command n s' hdecode]
      exact inStep_handleCommand (h.record _) _ command
    | none =>
      rw [onPayload_of_no_command n s hdecode, onPayload_of_no_command n s' hdecode]
      exact ⟨rfl, (h.record _).record _⟩

omit h

/-! ### The answers so far

No callback takes back what was answered, so that the answers up to a moment stand at the end of
those of the whole run.
-/

omit [Transport τ'] in
theorem connectAnswers_applyEffects (effects : List Effect) :
    (n.applyEffects s effects).2.connectAnswers = s.connectAnswers :=
  view_applyEffects n s _ Entry.connectAnswer?_of_isWork effects

omit [Transport τ'] in
theorem connectAnswers_connect :
    (n.connect s).2.connectAnswers =
      if n.connection.status = .disconnected then
        ((n.connection.asking s).connect n.connection.session).1 :: s.connectAnswers
      else s.connectAnswers := by
  rw [← answers_link, link_connect, Link.answers_ask, answers_link]
  rfl

omit [Transport τ'] in
theorem suffix_connectAnswers_connect : s.connectAnswers <:+ (n.connect s).2.connectAnswers := by
  rw [connectAnswers_connect]
  split
  · exact List.suffix_cons _ _
  · exact List.suffix_refl _

omit [Transport τ'] in
theorem connectAnswers_handleCommand (c : Command) :
    (n.handleCommand c s).2.connectAnswers = s.connectAnswers := by
  have hnoted := view_noteAll (s.emit (.commandReceived c)) Entry.connectAnswer? (fun _ => rfl)
    (n.machine.handle c).2.2
  rw [handleCommand_eq_applyEffects, connectAnswers_applyEffects]
  unfold heard
  cases (n.machine.handle c).1 with
  | none => exact hnoted
  | some after => exact hnoted

/-- A node that starts, just before it asks for its first session. -/
def entered (n : Node) (s : Site τ) : Node × Site τ :=
  let x := { n with machine := n.machine.start.1.takeEffects.2 }.applyEffects
    (s.noteAll n.machine.start.2) n.machine.start.1.takeEffects.1
  (x.1, (x.2.emit (.started x.1.machine.mode)).note
    (.nodeStarted x.1.machine.mode x.1.gauge.level))

omit [Transport τ'] in
theorem start_eq_connect : n.start s = (n.entered s).1.connect (n.entered s).2 := rfl

omit [Transport τ'] in
theorem connectAnswers_entered : (n.entered s).2.connectAnswers = s.connectAnswers :=
  (connectAnswers_applyEffects _ _).trans (view_noteAll s _ (fun _ => rfl) n.machine.start.2)

omit [Transport τ'] in
theorem suffix_connectAnswers_respond (c : Callback) :
    s.connectAnswers <:+ (respond c n s).2.connectAnswers := by
  have hsame {answers : List Answer} (h : answers = s.connectAnswers) :
      s.connectAnswers <:+ answers := h ▸ List.suffix_refl _
  cases c with
  | start =>
    show _ <:+ (n.start s).2.connectAnswers
    rw [start_eq_connect, ← connectAnswers_entered n]
    exact suffix_connectAnswers_connect _
  | connection event =>
    refine hsame ?_
    show (n.onConnectionEvent event s).2.connectAnswers = _
    rw [← answers_link, link_onConnectionEvent, Link.answers_hear, answers_link]
  | topic name => exact List.suffix_refl _
  | command c => exact hsame (connectAnswers_handleCommand n c)
  | payload data last =>
    cases last with
    | false => exact List.suffix_refl _
    | true =>
      show _ <:+ (n.onPayload data true s).2.connectAnswers
      cases hdecode : Command.decode n.pending (BoundedList.truncate data : Payload).items with
      | some command =>
        rw [onPayload_of_command n s hdecode]
        exact hsame (connectAnswers_handleCommand _ command)
      | none =>
        rw [onPayload_of_no_command n s hdecode]
        exact List.suffix_refl _
  | timer role =>
    show _ <:+ (n.onTimer role s).2.connectAnswers
    cases hdirection : role.direction? n.mode with
    | some d =>
      rw [onTimer_of_direction n s d hdirection]
      exact hsame (view_step n s _ Entry.connectAnswer?_of_isWork d)
    | none =>
      by_cases hwalk : role.isWalk
      · rw [onTimer_of_stale n s hwalk hdirection]
        exact List.suffix_refl _
      · cases role with
        | decrease | increase | resume => exact absurd rfl hwalk
        | reconnect => exact suffix_connectAnswers_connect n
        | announce =>
          refine hsame ?_
          show (n.announce s).2.connectAnswers = _
          rw [← answers_link, link_announce]
          exact answers_link (n, s)

/-! ### Every callback in step

The calls for sessions are answered alike if the answers on both sites stand in one script.
-/

section

variable {script : List Answer}

theorem inStep_connect (h : s.Lockstep s') (made : (n.connect s).2.connectAnswers <:+ script)
    (made' : (n.connect s').2.connectAnswers <:+ script) : InStep (n.connect s) (n.connect s') := by
  have hconnection := Connection.inStep_connect h n.connection (fun hstatus => by
    rw [connectAnswers_connect, if_pos hstatus] at made made'
    rw [h.connectAnswers] at made'
    have hsuffix := List.suffix_of_suffix_length_le made' made (Nat.le_refl _)
    exact (List.cons.inj (hsuffix.eq_of_length rfl)).1)
  exact ⟨congrArg (fun connection => { n with connection }) hconnection.1, hconnection.2⟩

theorem inStep_entered (h : s.Lockstep s') : InStep (n.entered s) (n.entered s') := by
  have hobeyed := inStep_applyEffects (h.noteAll n.machine.start.2)
    { n with machine := n.machine.start.1.takeEffects.2 } n.machine.start.1.takeEffects.1
  unfold entered
  simp only
  rw [hobeyed.1]
  exact ⟨rfl, (hobeyed.2.record _).record _⟩

/-- Every callback is in step, if calls for sessions are answered alike. -/
theorem inStep_respond (h : s.Lockstep s') (c : Callback)
    (made : (respond c n s).2.connectAnswers <:+ script)
    (made' : (respond c n s').2.connectAnswers <:+ script) :
    InStep (respond c n s) (respond c n s') := by
  cases c with
  | start =>
    have hentered := inStep_entered n h
    have hstart' : n.start s' = (n.entered s).1.connect (n.entered s').2 := by
      rw [start_eq_connect, hentered.1]
    replace made' : (n.start s').2.connectAnswers <:+ script := made'
    show InStep (n.start s) (n.start s')
    rw [hstart'] at made' ⊢
    exact inStep_connect (n.entered s).1 hentered.2 made made'
  | connection event =>
    have hconnection := Connection.inStep_onEvent h n.connection n.topics event
    exact ⟨congrArg (fun connection => { n with connection }) hconnection.1, hconnection.2⟩
  | topic name => exact ⟨rfl, h.record _⟩
  | payload data last => exact inStep_onPayload h n data last
  | command c => exact inStep_handleCommand h n c
  | timer role =>
    show InStep (n.onTimer role s) (n.onTimer role s')
    cases hdirection : role.direction? n.mode with
    | some d =>
      rw [onTimer_of_direction n s d hdirection, onTimer_of_direction n s' d hdirection]
      exact inStep_step h n d
    | none =>
      by_cases hwalk : role.isWalk
      · rw [onTimer_of_stale n s hwalk hdirection, onTimer_of_stale n s' hwalk hdirection]
        exact ⟨rfl, h.record _⟩
      · cases role with
        | decrease | increase | resume => exact absurd rfl hwalk
        | reconnect => exact inStep_connect n h made made'
        | announce => exact inStep_announce h n

end

end

end Node

/-! ## Two runs of the same happenings -/

/-- The same happening on two sites. Each transport may change by itself as it likes. -/
inductive Happening.Same {τ τ' : Type} : Happening τ → Happening τ' → Prop
  | callback (c : Callback) : Same (.callback c) (.callback c)
  | expiry (role : TimerRole) : Same (.expiry role) (.expiry role)
  | clock (reading : Nat) : Same (.clock reading) (.clock reading)
  | transport (t : τ) (t' : τ') : Same (.transport t) (.transport t')

namespace Node

open Site

variable {τ τ' : Type} [Transport τ] [Transport τ']

theorem suffix_connectAnswers_apply (x : Node × Site τ) (h : Happening τ) :
    x.2.connectAnswers <:+ (h.apply respond x).2.connectAnswers :=
  h.journal_apply (P := fun journal => _ <:+ journal.filterMap Entry.connectAnswer?)
    (fun c _ before => before.trans (suffix_connectAnswers_respond x.1 c))
    (fun _ _ before => before) (List.suffix_refl _)

theorem suffix_connectAnswers_run (x : Node × Site τ) (hs : List (Happening τ)) :
    x.2.connectAnswers <:+ (run respond x hs).2.connectAnswers :=
  run_invariant (P := fun y : Node × Site τ => x.2.connectAnswers <:+ y.2.connectAnswers)
    (fun h _ y before => before.trans (suffix_connectAnswers_apply y h)) (List.suffix_refl _)

theorem inStep_apply {x : Node × Site τ} {x' : Node × Site τ'} (inStep : InStep x x')
    {h : Happening τ} {h' : Happening τ'} (same : h.Same h') {script : List Answer}
    (made : (h.apply respond x).2.connectAnswers <:+ script)
    (made' : (h'.apply respond x').2.connectAnswers <:+ script) :
    InStep (h.apply respond x) (h'.apply respond x') := by
  obtain ⟨n, s⟩ := x
  obtain ⟨n', s'⟩ := x'
  obtain ⟨hnode, hsite⟩ := inStep
  obtain rfl : n' = n := hnode
  cases same with
  | callback c => exact inStep_respond n' hsite c made made'
  | clock reading => exact ⟨rfl, rfl, hsite.timers, hsite.journal⟩
  | transport t t' => exact ⟨rfl, hsite.now, hsite.timers, hsite.journal⟩
  | expiry role =>
    have hslots : s'.timers.slots.get role = s.timers.slots.get role := by rw [hsite.timers]
    cases hslot : s.timers.slots.get role with
    | none =>
      simp only [Happening.apply, hslots, hslot]
      exact ⟨rfl, hsite⟩
    | some t =>
      simp only [Happening.apply, hslots, hslot] at made made' ⊢
      have hfired : (Site.record { s with timers := s.timers.cancel role }
          (.fire role t.deadline)).Lockstep
          (Site.record { s' with timers := s'.timers.cancel role } (.fire role t.deadline)) :=
        ⟨hsite.now, congrArg (·.cancel role) hsite.timers, .same _ hsite.journal⟩
      exact inStep_respond n' hfired _ made made'

/-- What happens alike to nodes in step leaves them in step, as long as their calls for sessions are
answered out of one script. -/
theorem inStep_run {x : Node × Site τ} {x' : Node × Site τ'} (inStep : InStep x x')
    {hs : List (Happening τ)} {hs' : List (Happening τ')}
    (same : List.Forall₂ Happening.Same hs hs') {script : List Answer}
    (made : (run respond x hs).2.connectAnswers <:+ script)
    (made' : (run respond x' hs').2.connectAnswers <:+ script) :
    InStep (run respond x hs) (run respond x' hs') := by
  induction same generalizing x x' with
  | nil => exact inStep
  | cons same _ ih =>
    rw [run_cons] at made made'
    have hone := (suffix_connectAnswers_run _ _).trans made
    have hone' := (suffix_connectAnswers_run _ _).trans made'
    exact ih (inStep_apply inStep same hone hone') made made'

/-- Take two runs from the same node, at the same time and with the same timers and the same past,
on any two transports. Let the same happen in both, and let the calls for sessions be answered alike
as far as both runs go. Publications and subscriptions may be answered in whatever way.

Then after as many happenings as one likes, the nodes are the same and have the same timers, and
they have made the same calls, with all their arguments, in the same order. One by one their events
are the same, or tell how the same publication or the same subscription was answered. And that is
all in which the two journals differ, where each answer stands with the call that it answers. -/
theorem same_calls_of_runs (x : Node × Site τ) (t' : τ') {hs : List (Happening τ)}
    {hs' : List (Happening τ')} (same : List.Forall₂ Happening.Same hs hs')
    (answered : let answers := (run respond x hs).2.connectAnswers
      let answers' := (run respond (x.1, x.2.withTransport t') hs').2.connectAnswers
      answers <:+ answers' ∨ answers' <:+ answers) (k : Nat) :
    let y := run respond x (hs.take k)
    let y' := run respond (x.1, x.2.withTransport t') (hs'.take k)
    y'.1 = y.1 ∧ y'.2.now = y.2.now ∧ y'.2.timers = y.2.timers ∧
      y'.2.view Entry.call? = y.2.view Entry.call? ∧
      List.Forall₂ Event.Counterpart (y.2.view Entry.event?) (y'.2.view Entry.event?) ∧
      Entry.Matched y.2.journal y'.2.journal := by
  intro y y'
  -- Of the two lists of answers the longer one is the script of both runs.
  obtain ⟨script, hscript, hscript'⟩ : ∃ script,
      (run respond x hs).2.connectAnswers <:+ script ∧
        (run respond (x.1, x.2.withTransport t') hs').2.connectAnswers <:+ script := by
    rcases answered with h | h
    · exact ⟨_, h, List.suffix_refl _⟩
    · exact ⟨_, List.suffix_refl _, h⟩
  have hmade : y.2.connectAnswers <:+ script := by
    have hrest := suffix_connectAnswers_run y (hs.drop k)
    rw [← run_append, List.take_append_drop] at hrest
    exact hrest.trans hscript
  have hmade' : y'.2.connectAnswers <:+ script := by
    have hrest := suffix_connectAnswers_run y' (hs'.drop k)
    rw [← run_append, List.take_append_drop] at hrest
    exact hrest.trans hscript'
  have hinitial : InStep x (x.1, x.2.withTransport t') := ⟨rfl, lockstep_withTransport x.2 t'⟩
  obtain ⟨hnode, hsite⟩ := inStep_run hinitial
    (List.forall₂_take k same) hmade hmade'
  exact ⟨hnode, hsite.now, hsite.timers, hsite.journal.calls_eq, hsite.journal.forall₂_events,
    hsite.journal⟩

/-- Whether the link is down or up, a gauge that is asked to fill takes its steps and goes on, and
nothing is said more often than once. -/
theorem same_calls_with_link_down :
    let hs : List (Happening Scripted) :=
      [.callback (.connection .accepted), .callback (.command (.fillRequest true)),
        .expiry .announce, .expiry .decrease]
    let x := launched {} (Bench.session {}) 0 ({} : Scripted)
    let y := run respond x hs
    let y' := run respond (x.1, x.2.withTransport { linkUp := true : Scripted }) hs
    List.Forall₂ Happening.Same hs hs ∧ y.2.connectAnswers <:+ y'.2.connectAnswers ∧
      y.1.level = 98 ∧ y.2.attempts.length = 6 ∧ y.2.journal ≠ y'.2.journal ∧
      y'.1 = y.1 ∧ y'.2.view Entry.call? = y.2.view Entry.call? := by
  have hsame : List.Forall₂ (Happening.Same : Happening Scripted → Happening Scripted → Prop) _ _ :=
    .cons (.callback (.connection .accepted)) (.cons (.callback (.command (.fillRequest true)))
      (.cons (.expiry .announce) (.cons (.expiry .decrease) .nil)))
  have h := same_calls_of_runs (launched {} (Bench.session {}) 0 ({} : Scripted))
    { linkUp := true : Scripted } hsame (.inl (by decide +kernel)) 4
  exact ⟨hsame, by decide +kernel, by decide +kernel, by decide +kernel, by decide +kernel, h.1,
    h.2.2.2.1⟩

end Node

end TankGauge
