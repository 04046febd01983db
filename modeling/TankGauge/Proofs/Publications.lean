import TankGauge.Proofs.Happenings

/-!
# Every publication is a call and the word about it

To publish, a node makes one call: on the topic that the channel has, at least once and retained.
Right after it the node tells how the call was answered, and of no other call does it tell this. In
a journal this is a matter of what stands on what (`Publishes`).

An attempt takes its channel from the word and everything else from the call under it. So it says
exactly what was called: written out as calls again, the attempts in a journal are the calls to
publish that stand in it (`Publishes.map_call_attemptsIn`).
-/

namespace TankGauge

/-- The call to publish something on a channel. -/
def Channel.call (topics : Topics) (channel : Channel) (payload : String) (answer : Answer) :
    Entry :=
  .publish (channel.topic topics) payload .atLeastOnce true answer

/-- The call that an attempt is. -/
def Attempt.call (topics : Topics) (a : Attempt) : Entry :=
  a.channel.call topics a.payload a.answer

/-- A journal, newest first, in which each call to publish stands under the word about its answer,
and there is no such word without its call. -/
inductive Publishes (topics : Topics) : List Entry → Prop
  | nil : Publishes topics []
  | other {journal : List Entry} (h : Publishes topics journal) {e : Entry}
      (silent : e.isPublishing = false) : Publishes topics (e :: journal)
  | published {journal : List Entry} (h : Publishes topics journal) (p : Publication)
      (answer : Answer) :
      Publishes topics
        (.event (p.outcome answer) :: p.channel.call topics p.payload.text answer :: journal)

namespace Publishes

variable {topics : Topics} {journal earlier : List Entry} {e : Entry}

/-- A call to publish is made for a publication, and the word about it stands on it. -/
theorem suffix_of_isPublish (h : Publishes topics journal) (made : e :: earlier <:+ journal)
    (publish : e.isPublish) :
    ∃ (p : Publication) (answer : Answer), e = p.channel.call topics p.payload.text answer ∧
      .event (p.outcome answer) :: e :: earlier <:+ journal := by
  induction h with
  | nil => exact absurd (List.suffix_nil.mp made) (List.cons_ne_nil _ _)
  | @other journal _ top silent ih =>
    have hne : e ≠ top := by
      rintro rfl
      rw [Entry.isPublish_of_not_isPublishing silent] at publish
      cases publish
    obtain ⟨p, answer, hcall, hfound⟩ := ih (suffix_tail_of_ne made hne)
    exact ⟨p, answer, hcall, hfound.trans (List.suffix_cons top journal)⟩
  | @published journal _ p answer ih =>
    have hne : e ≠ .event (p.outcome answer) := by
      rintro rfl
      cases publish
    -- It is the call under the word on top, or one further down.
    rcases List.suffix_cons_iff.mp (suffix_tail_of_ne made hne) with heq | hsuffix
    · obtain ⟨rfl, rfl⟩ := List.cons.inj heq
      exact ⟨p, answer, rfl, List.suffix_refl _⟩
    · obtain ⟨q, answer', hcall, hfound⟩ := ih hsuffix
      exact ⟨q, answer', hcall, (hfound.trans (List.suffix_cons _ _)).trans (List.suffix_cons _ _)⟩

/-- The word about an answer stands on the call that was answered. -/
theorem call_of_answered? (h : Publishes topics journal) (told : e :: earlier <:+ journal)
    {channel : Channel} (answered : e.answered? = some channel) :
    ∃ payload answer rest, earlier = channel.call topics payload answer :: rest := by
  induction h with
  | nil => exact absurd (List.suffix_nil.mp told) (List.cons_ne_nil _ _)
  | @other journal _ top silent ih =>
    refine ih (suffix_tail_of_ne told ?_)
    rintro rfl
    rw [Entry.answered?_of_not_isPublishing silent] at answered
    cases answered
  | @published journal _ p answer ih =>
    rcases List.suffix_cons_iff.mp told with heq | hsuffix
    · obtain ⟨rfl, rfl⟩ := List.cons.inj heq
      obtain rfl : p.channel = channel :=
        Option.some.inj ((p.answered?_outcome answer).symm.trans answered)
      exact ⟨p.payload.text, answer, journal, rfl⟩
    · refine ih (suffix_tail_of_ne hsuffix ?_)
      rintro rfl
      cases answered

/-- Written out as calls, the attempts are the calls to publish. -/
theorem map_call_attemptsIn (h : Publishes topics journal) :
    (attemptsIn journal).map (Attempt.call topics) = journal.filter Entry.isPublish := by
  induction h with
  | nil => rfl
  | @other journal _ top silent ih =>
    have hpublish := Entry.isPublish_of_not_isPublishing silent
    rw [attemptsIn, Entry.answered?_of_not_isPublishing silent,
      List.filter_cons_of_neg (Bool.eq_false_iff.mp hpublish)]
    exact ih
  | @published journal _ p answer ih =>
    rw [attemptsIn, p.answered?_outcome]
    exact congrArg (p.channel.call topics p.payload.text answer :: ·) ih

/-! ## What keeps a journal so -/

variable {τ : Type} {s s' : Site τ}

theorem append (h : Publishes topics journal) {news : List Entry}
    (silent : ∀ e ∈ news, e.isPublishing = false) : Publishes topics (news ++ journal) := by
  induction news with
  | nil => exact h
  | cons e rest ih =>
    exact (ih (fun e' hmem => silent e' (List.mem_cons_of_mem e hmem))).other
      (silent e List.mem_cons_self)

theorem untouched (h : Publishes topics s.journal) (u : s.Untouched s') :
    Publishes topics s'.journal := by
  obtain ⟨news, hjournal, hquiet⟩ := u.added
  rw [hjournal]
  exact h.append (fun e hmem => Entry.isPublishing_of_isQuiet (hquiet e hmem))

theorem schedule (h : Publishes topics s.journal) (role : TimerRole) (delay : UInt32) :
    Publishes topics (s.schedule role delay).journal := by
  unfold Site.schedule
  split
  · exact (h.other rfl).other rfl
  · exact h.other rfl

theorem send [Transport τ] (h : Publishes topics s.journal) (ps : List Publication) :
    Publishes topics (Node.send topics ps s).journal := by
  induction ps generalizing s with
  | nil => exact h
  | cons p rest ih =>
    rw [Node.send_cons, Node.sendOne_eq]
    exact ih (h.published p _)

end Publishes

namespace Node

open Site

variable {τ : Type} [Transport τ] (n : Node) (s : Site τ)

theorem publishes_step (d : Direction) (h : Publishes n.topics s.journal) :
    Publishes n.topics (n.step d s).2.journal := by
  by_cases hboundary : n.level = d.boundary
  · rw [snd_step_of_boundary n s d hboundary]
    exact (h.send _).other rfl
  · rw [snd_step_of_ne_boundary n s d hboundary]
    exact (h.send _).schedule _ _

theorem publishes_applyEffects (effects : List Effect) (h : Publishes n.topics s.journal) :
    Publishes n.topics (n.applyEffects s effects).2.journal := by
  let P (n' : Node) (s' : Site τ) : Prop := n'.topics = n.topics ∧ Publishes n.topics s'.journal
  have heffects : P (n.applyEffects s effects).1 (n.applyEffects s effects).2 := by
    refine applyEffects_invariant n s (P := P) ?_ ⟨rfl, h⟩
    rintro e - n' s' ⟨htopics, h'⟩
    cases e with
    | cancel role => exact ⟨htopics, h'.other rfl⟩
    | schedule role delay => exact ⟨htopics, h'.schedule role delay⟩
    | startDecrease =>
      refine ⟨?_, htopics ▸ publishes_step n' s' .decrease (htopics ▸ h')⟩
      show (n'.step .decrease s').1.topics = n.topics
      rw [fst_step, htopics]
    | publishStable =>
      refine ⟨htopics, ?_⟩
      show Publishes n.topics (send n'.topics [n'.policy.forceStable.1] s').journal
      rw [htopics]
      exact h'.send _
  exact heffects.2

theorem publishes_handleCommand (settled : n.Settled) (c : Command)
    (h : Publishes n.topics s.journal) : Publishes n.topics (n.handleCommand c s).2.journal := by
  rw [handleCommand_eq n s settled]
  have hreceived : Publishes n.topics (s.emit (.commandReceived c)).journal := h.other rfl
  exact publishes_applyEffects { n with machine := n.machine.after c } _ _
    (hreceived.untouched (untouched_heard n s c))

theorem publishes_respond (settled : n.Settled) (c : Callback) (h : Publishes n.topics s.journal) :
    Publishes n.topics (respond c n s).2.journal := by
  have hresponds := responds n s settled c
  generalize respond c n s = result at hresponds ⊢
  cases hresponds with
  | aside _ _ _ _ untouched => exact h.untouched untouched
  | walks => exact publishes_step n s _ h
  | announces =>
    rw [snd_announce]
    exact h.send _
  | @obeys _ s' command pending _ untouched =>
    exact publishes_handleCommand { n with pending } s' settled command (h.untouched untouched)
  | starts _ before _ after =>
    exact (publishes_applyEffects n _ _ (h.untouched before)).untouched after

theorem publishes_run (c : Config) (session : SessionParams) (now : Nat) (t : τ)
    (hs : List (Happening τ)) :
    Publishes c.topics (run respond (fresh c session now t) hs).2.journal := by
  let P (x : Node × Site τ) : Prop :=
    x.1.Settled ∧ x.1.topics = c.topics ∧ Publishes c.topics x.2.journal
  have hstep : ∀ h ∈ hs, ∀ x, P x → P (h.apply respond x) := by
    rintro h - x ⟨hsettled, htopics, hpublishes⟩
    refine ⟨settled_apply h x.1 x.2 hsettled, (topics_apply x.1 x.2 hsettled h).trans htopics, ?_⟩
    refine h.journal_apply (fun callback s hs => ?_) (fun _ _ hs => hs.other rfl) hpublishes
    exact htopics ▸ publishes_respond x.1 s hsettled callback (htopics ▸ hs)
  exact (run_invariant hstep ⟨settled_ofConfig c session, rfl, .nil⟩).2.2

/-- In every run, what is told of publications is what was called. The attempts, written out as
calls, are the calls to publish, latest first: each one on the topic that its channel has, at least
once and retained. The word about the answer stands right on each call, and on nothing else. -/
theorem calls_of_run (c : Config) (session : SessionParams) (now : Nat) (t : τ)
    (hs : List (Happening τ)) :
    let s := (run respond (fresh c session now t) hs).2
    s.attempts.map (Attempt.call c.topics) = s.publishes ∧
      (∀ e earlier, e :: earlier <:+ s.journal → e.isPublish →
        ∃ (p : Publication) (answer : Answer),
          e = p.channel.call c.topics p.payload.text answer ∧
            .event (p.outcome answer) :: e :: earlier <:+ s.journal) ∧
      ∀ e earlier channel, e :: earlier <:+ s.journal → e.answered? = some channel →
        ∃ payload answer rest, earlier = channel.call c.topics payload answer :: rest := by
  have h := publishes_run c session now t hs
  exact ⟨h.map_call_attemptsIn, fun _ _ made publish => h.suffix_of_isPublish made publish,
    fun _ _ _ told answered => h.call_of_answered? told answered⟩

end Node

end TankGauge
