import Mathlib.Data.List.Induction
import TankGauge.Proofs.Happenings

/-!
# Messages in two parts

A message comes as a topic and then a payload, and the payload may come in parts of which only the
last one counts. What a last part means is settled by the history alone: by the latest topic since
the last part before it (`Latest`), whatever else has happened in between. If that is the name of
one of the two inbound topics, the last part is the command that the message says
(`Command.Says`), and otherwise it is ignored.

The node remembers of all this which of the two topics it was (`Node.pending_run`). Since a last
part uses the topic up, no topic leads to more than one command (`Node.length_broughtBy_le`).
-/

namespace TankGauge

/-- The command that a message says. A name that is both topics is the fill request. -/
inductive Command.Says (topics : Topics) (name : String) (data : Bytes) : Command → Prop
  | fillRequest (on : Bool) (named : name = topics.fillRequest.text)
      (switch : on ↔ [Ascii.upperO, Ascii.upperN] <+: data) :
      Says topics name data (.fillRequest on)
  | alarm (on : Bool) (other : name ≠ topics.fillRequest.text) (named : name = topics.alarm.text)
      (switch : on ↔ [Ascii.upperO, Ascii.upperN] <+: data) :
      Says topics name data (.alarm on)

namespace Happening

variable {τ : Type}

/-- Whether a happening is a topic that comes in. -/
def isTopic : Happening τ → Bool
  | callback (.topic _) => true
  | _ => false

/-- Whether a happening settles what the next payload belongs to: a topic says so, and after a last
part it belongs to nothing. -/
def settles : Happening τ → Bool
  | callback (.topic _) => true
  | callback (.payload _ last) => last
  | _ => false

/-- Whether a happening is a command that comes as such, and not as a message. -/
def isCommand : Happening τ → Bool
  | callback (.command _) => true
  | _ => false

end Happening

/-- The latest topic of a history since the last part before it, or since the beginning. -/
def Latest {τ : Type} (name : String) (history : List (Happening τ)) : Prop :=
  ∃ before after, history = before ++ .callback (.topic name) :: after ∧
    ∀ h ∈ after, h.settles = false

/-! ## A part of a payload -/

/-- Fifteen bytes are enough to tell whether a payload switches on. -/
theorem Command.switchesOn_truncate (data : Bytes) :
    switchesOn (BoundedList.truncate data : Payload).items ↔
      [Ascii.upperO, Ascii.upperN] <+: data := by
  rw [switchesOn, List.isPrefixOf_iff_prefix]
  show [Ascii.upperO, Ascii.upperN] <+: data.take 15 ↔ _
  rw [List.prefix_take_iff]
  exact and_iff_left (by decide)

/-- A payload decodes on the topic that it comes on to what the message says. -/
theorem Command.decode_classify (topics : Topics) (name : String) (data : Bytes) (c : Command) :
    decode (PendingTopic.classify topics name) (BoundedList.truncate data : Payload).items =
        some c ↔ c.Says topics name data := by
  have hswitch := switchesOn_truncate data
  unfold PendingTopic.classify
  constructor
  · intro h
    split at h
    · next named =>
      cases h
      exact .fillRequest _ named hswitch
    · next other =>
      split at h
      · next named =>
        cases h
        exact .alarm _ other named hswitch
      · cases h
  · intro h
    cases h with
    | fillRequest on named switch =>
      rw [if_pos named]
      exact congrArg (some ∘ Command.fillRequest) (Bool.eq_iff_iff.mpr (hswitch.trans switch.symm))
    | alarm on other named switch =>
      rw [if_neg other, if_pos named]
      exact congrArg (some ∘ Command.alarm) (Bool.eq_iff_iff.mpr (hswitch.trans switch.symm))

/-! ## What a history leaves pending -/

theorem not_latest_nil {τ : Type} (name : String) : ¬ Latest (τ := τ) name [] := by
  rintro ⟨before, after, h, -⟩
  exact List.cons_ne_nil _ _ (List.append_eq_nil_iff.mp h.symm).2

/-- What happens last is the latest topic, or settles nothing and leaves the latest topic to what
was before. -/
theorem latest_append_singleton {τ : Type} {name : String} {history : List (Happening τ)}
    {h : Happening τ} :
    Latest name (history ++ [h]) ↔
      h = .callback (.topic name) ∨ h.settles = false ∧ Latest name history := by
  constructor
  · rintro ⟨before, after, heq, hafter⟩
    rcases List.eq_nil_or_concat after with rfl | ⟨rest, last, rfl⟩
    · exact .inl (List.cons.inj (List.append_inj' heq rfl).2).1
    · rw [List.concat_eq_append] at heq hafter
      have hsplit : history ++ [h] = (before ++ .callback (.topic name) :: rest) ++ [last] := by
        rw [heq, List.append_assoc, List.cons_append]
      obtain ⟨hhistory, hlast⟩ := List.append_inj' hsplit rfl
      obtain rfl : h = last := (List.cons.inj hlast).1
      refine .inr ⟨hafter h (by simp), before, rest, hhistory, fun h' hmem => hafter h' ?_⟩
      exact List.mem_append_left _ hmem
  · rintro (rfl | ⟨hquiet, before, after, rfl, hafter⟩)
    · exact ⟨history, [], rfl, nofun⟩
    · refine ⟨before, after ++ [h], by rw [List.append_assoc, List.cons_append], ?_⟩
      intro h' hmem
      rcases List.mem_append.mp hmem with hmem | hmem
      · exact hafter h' hmem
      · rw [List.mem_singleton.mp hmem]
        exact hquiet

namespace Node

open Site

variable {τ : Type} [Transport τ]

/-- A topic that comes in is remembered, and a last part uses up what is. -/
theorem pending_respond (n : Node) (s : Site τ) (settled : n.Settled) (c : Callback) :
    (respond c n s).1.pending =
      match c with
      | .topic name => PendingTopic.classify n.topics name
      | .payload _ true => .none
      | _ => n.pending := by
  have hcommand (n : Node) (settled : n.Settled) (s : Site τ) (c : Command) :
      (n.handleCommand c s).1.pending = n.pending := by
    rw [handleCommand_eq n s settled, pending_applyEffects]
  cases c with
  | connection | topic => rfl
  | command c => exact hcommand n settled s c
  | start =>
    show (n.start s).1.pending = n.pending
    rw [start_eq n s settled]
    exact pending_applyEffects n _ _
  | payload data last =>
    cases last with
    | false => rfl
    | true =>
      show (n.onPayload data true s).1.pending = .none
      cases hdecode : Command.decode n.pending (BoundedList.truncate data : Payload).items with
      | none => rw [onPayload_of_no_command n s hdecode]
      | some command =>
        rw [onPayload_of_command n s hdecode]
        exact hcommand { n with pending := .none } settled _ command
  | timer role =>
    show (n.onTimer role s).1.pending = n.pending
    cases hdirection : role.direction? n.mode with
    | some d => rw [onTimer_of_direction n s d hdirection, fst_step]
    | none =>
      cases role with
      | reconnect | announce => rfl
      | decrease | increase | resume => rw [onTimer_of_stale n s rfl hdirection]

/-- What settles nothing leaves pending what is. -/
theorem pending_apply_of_not_settles (n : Node) (s : Site τ) (settled : n.Settled)
    {h : Happening τ} (quiet : h.settles = false) :
    (h.apply respond (n, s)).1.pending = n.pending := by
  cases h with
  | clock | transport => rfl
  | callback c =>
    refine (pending_respond n s settled c).trans ?_
    cases c with
    | topic => cases quiet
    | payload data last => cases last <;> first | rfl | cases quiet
    | start | connection | command | timer => rfl
  | expiry role =>
    cases hslot : s.timers.slots.get role with
    | none => simp only [Happening.apply, hslot]
    | some t =>
      simp only [Happening.apply, hslot]
      exact pending_respond n _ settled (.timer role)

theorem topics_run (x : Node × Site τ) (settled : x.1.Settled) (hs : List (Happening τ)) :
    (run respond x hs).1.topics = x.1.topics := by
  induction hs generalizing x with
  | nil => rfl
  | cons h rest ih =>
    rw [run_cons, ih _ (settled_apply h x.1 x.2 settled), topics_apply x.1 x.2 settled]

/-- Between two happenings of a run, what is pending is what the latest topic is, if there has been
one since the last part before it. -/
theorem pending_run (x : Node × Site τ) (settled : x.1.Settled) (blank : x.1.pending = .none)
    (hs : List (Happening τ)) :
    (∀ name, Latest name hs →
      (run respond x hs).1.pending = PendingTopic.classify x.1.topics name) ∧
      ((∀ name, ¬ Latest name hs) → (run respond x hs).1.pending = .none) := by
  induction hs using List.reverseRecOn with
  | nil => exact ⟨fun name h => absurd h (not_latest_nil name), fun _ => blank⟩
  | append_singleton hs h ih =>
    obtain ⟨hlatest, hnone⟩ := ih
    have hsettled := settled_run settled hs
    have htopics := topics_run x settled hs
    simp only [latest_append_singleton]
    rw [run_append, run_cons, run_nil, ← htopics]
    rw [← htopics] at hlatest
    generalize run respond x hs = y at hlatest hnone hsettled ⊢
    cases hsettles : h.settles with
    | false =>
      rw [pending_apply_of_not_settles y.1 y.2 hsettled hsettles]
      refine ⟨?_, fun h' => hnone fun name hname => h' name (.inr ⟨rfl, hname⟩)⟩
      rintro name (rfl | ⟨-, hname⟩)
      · cases hsettles
      · exact hlatest name hname
    | true =>
      cases h with
      | expiry | clock | transport => cases hsettles
      | callback c =>
        have hpending := pending_respond y.1 y.2 hsettled c
        cases c with
        | start | connection | command | timer => cases hsettles
        | topic name =>
          refine ⟨?_, fun h' => absurd (.inl rfl) (h' name)⟩
          rintro name' (heq | ⟨hfalse, -⟩)
          · cases heq
            exact hpending
          · cases hfalse
        | payload data last =>
          cases last with
          | false => cases hsettles
          | true =>
            refine ⟨?_, fun _ => hpending⟩
            rintro name (heq | ⟨hfalse, -⟩)
            · cases heq
            · cases hfalse

/-! ## What a last part leads to -/

/-- A last part on a topic that says a command with it has the command carried out. -/
theorem onPayload_of_says (n : Node) (s : Site τ) (settled : n.Settled) {topics : Topics}
    {name : String} (pending : n.pending = PendingTopic.classify topics name) {data : Bytes}
    {command : Command} (said : command.Says topics name data) :
    n.onPayload data true s =
        { n with pending := .none }.handleCommand command
          (s.note (.payloadSeen (data.take 15) n.pending)) ∧
      (n.onPayload data true s).2.commands = command :: s.commands ∧
      (n.onPayload data true s).1.pending = .none := by
  have hdecode : Command.decode n.pending (BoundedList.truncate data : Payload).items =
      some command := by
    rw [pending]
    exact (Command.decode_classify _ name data command).mpr said
  have hbrought : (Callback.payload data true).command? n.pending = some command := hdecode
  have hcommands := (responds n s settled (.payload data true)).commands_eq settled
  rw [hbrought] at hcommands
  exact ⟨onPayload_of_command n s hdecode, hcommands,
    pending_respond n s settled (.payload data true)⟩

/-- A last part on no topic is told to be ignored. -/
theorem onPayload_of_no_topic (n : Node) (s : Site τ) (pending : n.pending = .none)
    (data : Bytes) :
    n.onPayload data true s =
        ({ n with pending := .none },
          (s.note (.payloadSeen (data.take 15) n.pending)).emit (.payloadIgnored data.length)) ∧
      (n.onPayload data true s).2.commands = s.commands := by
  have hdecode : Command.decode n.pending (BoundedList.truncate data : Payload).items = none := by
    rw [pending]
    rfl
  have hignored := onPayload_of_no_command n s hdecode
  refine ⟨hignored, ?_⟩
  rw [hignored]
  rfl

/-! ## How many commands topics lead to -/

/-- How many commands what is pending may still lead to. -/
def owed (n : Node) : Nat := if n.pending = .none then 0 else 1

omit [Transport τ] in
theorem owed_le_one (n : Node) : n.owed ≤ 1 := by
  unfold owed
  split
  · exact Nat.zero_le 1
  · exact Nat.le_refl 1

omit [Transport τ] in
/-- A payload is a command only if something is pending. -/
theorem length_decode_le_owed (n : Node) (payload : Bytes) :
    (Command.decode n.pending payload).toList.length ≤ n.owed := by
  unfold owed
  cases n.pending with
  | none => exact Nat.le_refl 0
  | request | alarm => exact Nat.le_refl 1

/-- A command that a happening brings comes as such, or uses up what is pending; and only a topic
makes anything pending. -/
theorem owed_apply (n : Node) (s : Site τ) (settled : n.Settled) (h : Happening τ) :
    (h.command? n).toList.length + (h.apply respond (n, s)).1.owed ≤
      n.owed + (if h.isTopic then 1 else 0) + (if h.isCommand then 1 else 0) := by
  cases hsettles : h.settles with
  | false =>
    have hsame : (h.apply respond (n, s)).1.owed = n.owed := by
      rw [owed, pending_apply_of_not_settles n s settled hsettles, owed]
    rw [hsame]
    cases h with
    | expiry | clock | transport => exact Nat.le_of_eq (Nat.zero_add _)
    | callback c =>
      cases c with
      | start | connection | timer => exact Nat.le_of_eq (Nat.zero_add _)
      | command c => exact Nat.le_of_eq (Nat.add_comm 1 _)
      | topic => cases hsettles
      | payload data last =>
        cases last with
        | false => exact Nat.le_of_eq (Nat.zero_add _)
        | true => cases hsettles
  | true =>
    cases h with
    | expiry | clock | transport => cases hsettles
    | callback c =>
      cases c with
      | start | connection | command | timer => cases hsettles
      | topic name =>
        show 0 + (respond (.topic name) n s).1.owed ≤ n.owed + 1 + 0
        have hone := owed_le_one (respond (.topic name) n s).1
        omega
      | payload data last =>
        cases last with
        | false => cases hsettles
        | true =>
          have hused : (respond (.payload data true) n s).1.owed = 0 := by
            rw [owed, pending_respond n s settled]
            rfl
          show (Command.decode n.pending _).toList.length +
            (respond (.payload data true) n s).1.owed ≤ n.owed + 0 + 0
          rw [hused]
          exact length_decode_le_owed n _

/-- Every command of a run has come as such, or uses up a topic that came in, be it one that was
pending before. -/
theorem length_broughtBy_le (n : Node) (s : Site τ) (settled : n.Settled)
    (hs : List (Happening τ)) :
    (broughtBy (n, s) hs).length ≤
      n.owed + hs.countP Happening.isTopic + hs.countP Happening.isCommand := by
  induction hs generalizing n s with
  | nil => exact Nat.zero_le _
  | cons h rest ih =>
    let x := h.apply respond (n, s)
    have hrest : (broughtBy x rest).length ≤
        x.1.owed + rest.countP Happening.isTopic + rest.countP Happening.isCommand :=
      ih x.1 x.2 (settled_apply h n s settled)
    have hfirst : (h.command? n).toList.length + x.1.owed ≤ _ := owed_apply n s settled h
    rw [List.countP_cons, List.countP_cons]
    show ((h.command? n).toList ++ broughtBy x rest).length ≤ _
    rw [List.length_append]
    omega

/-- What a part of a payload leads to, after any history of topics, payloads, news of the session,
firings and whatever else may happen, from the making of the node on. If the latest topic since the
last part before is one of the two inbound ones, a last part has the command carried out that the
message says, and no other. Otherwise it is told to be ignored, at its full length, and nothing
changes but that no topic is pending. Any other part changes nothing. So no more commands are taken
in than topics have come in, but for those that did not come as messages. -/
theorem command_of_latest_topic (c : Config) (session : SessionParams) (now : Nat) (t : τ)
    (hs : List (Happening τ)) :
    let (n, s) := run respond (fresh c session now t) hs
    (∀ name data command, Latest name hs → command.Says c.topics name data →
      n.onPayload data true s =
        { n with pending := .none }.handleCommand command
          (s.note (.payloadSeen (data.take 15) n.pending)) ∧
      (n.onPayload data true s).2.commands = command :: s.commands ∧
      (n.onPayload data true s).1.pending = .none) ∧
    (∀ data, (∀ name, Latest name hs →
        name ≠ c.topics.fillRequest.text ∧ name ≠ c.topics.alarm.text) →
      n.onPayload data true s =
        ({ n with pending := .none },
          (s.note (.payloadSeen (data.take 15) n.pending)).emit (.payloadIgnored data.length)) ∧
      (n.onPayload data true s).2.commands = s.commands) ∧
    (∀ data, n.onPayload data false s = (n, s.note (.partSkipped data.length))) ∧
    s.commands.length ≤ hs.countP Happening.isTopic + hs.countP Happening.isCommand := by
  have hsettled : (fresh c session now t).1.Settled := settled_ofConfig c session
  obtain ⟨hlatest, hnone⟩ := pending_run (fresh c session now t) hsettled rfl hs
  have hcommands := commands_run hs (fresh c session now t) hsettled
  have hlength := length_broughtBy_le _ (fresh c session now t).2 hsettled hs
  have hrun := settled_run hsettled hs
  generalize run respond (fresh c session now t) hs = x at hlatest hnone hcommands hrun ⊢
  obtain ⟨n, s⟩ := x
  refine ⟨?_, ?_, fun _ => rfl, ?_⟩
  · intro name data command hname hsays
    exact onPayload_of_says n s hrun (hlatest name hname) hsays
  · intro data hother
    have hpending : n.pending = .none := by
      by_cases hname : ∃ name, Latest name hs
      · obtain ⟨name, hname⟩ := hname
        obtain ⟨hfill, halarm⟩ := hother name hname
        rw [show n.pending = _ from hlatest name hname]
        exact (if_neg hfill).trans (if_neg halarm)
      · exact hnone (not_exists.mp hname)
    exact onPayload_of_no_topic n s hpending data
  · rw [show s.commands = _ from hcommands, List.length_append, List.length_reverse]
    have howed : (fresh c session now t).1.owed = 0 := rfl
    rw [howed, Nat.zero_add] at hlength
    exact hlength

/-- A fill request comes in two parts, and the session is lost between them. The last part is the
command, and the same part once more is none. -/
theorem command_of_two_parts :
    let fill := Topic.fillRequest.text
    let first : List (Happening Scripted) :=
      [.callback .start, .callback (.topic fill), .callback (.payload (Bytes.utf8 "OF") false),
        .callback (.connection .disconnected)]
    let again := first ++ [.callback (.payload (Bytes.utf8 "ON") true)]
    let x := run respond (fresh {} (Bench.session {}) 0 ({} : Scripted)) first
    let y := run respond (fresh {} (Bench.session {}) 0 ({} : Scripted)) again
    Latest fill first ∧ Command.Says {} fill (Bytes.utf8 "ON") (.fillRequest true) ∧
      (x.1.onPayload (Bytes.utf8 "ON") true x.2).2.commands = [.fillRequest true] ∧
      (∀ name, ¬ Latest name again) ∧
      (y.1.onPayload (Bytes.utf8 "ON") true y.2).2.commands = [.fillRequest true] := by
  intro fill first again x y
  have hlatest : Latest fill first :=
    ⟨[.callback .start], [.callback (.payload (Bytes.utf8 "OF") false),
      .callback (.connection .disconnected)], rfl, by decide⟩
  have hsays : Command.Says {} fill (Bytes.utf8 "ON") (.fillRequest true) :=
    .fillRequest true rfl (by decide)
  have hover : ∀ name, ¬ Latest name again := by
    intro name h
    rcases latest_append_singleton.mp h with htopic | ⟨hsettles, -⟩
    · cases htopic
    · cases hsettles
  obtain ⟨hcommand, -⟩ := command_of_latest_topic {} (Bench.session {}) 0 ({} : Scripted) first
  obtain ⟨-, hignored, -⟩ := command_of_latest_topic {} (Bench.session {}) 0 ({} : Scripted) again
  obtain ⟨-, hcarried, -⟩ := hcommand fill (Bytes.utf8 "ON") (.fillRequest true) hlatest hsays
  obtain ⟨-, hsame⟩ := hignored (Bytes.utf8 "ON") (fun name h => absurd h (hover name))
  refine ⟨hlatest, hsays, hcarried.trans ?_, hover, hsame.trans ?_⟩
  · decide +kernel
  · decide +kernel

end Node

end TankGauge
