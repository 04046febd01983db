import TankGauge.Proofs.Happenings
import TankGauge.Proofs.Link

/-!
# A connection is never given up

A node has no session exactly as long as it will ask for one, and it will announce itself only while
it has one (`Link.Alive`). So it never asks for a session in vain, and it announces itself at most
once for each session that is accepted.

What a link has in its log is kept apart from where it stands (`Link.Kept`): the log tells where the
link stands, and each announcement is the next thing in it after an acceptance and the two
subscriptions that come with it (`acceptance`). An acceptance leaves the announcement to a timer
without delay, and whatever else could happen to the link meanwhile disarms this timer or is
ignored.
-/

namespace TankGauge

/-- Where a link stands according to its log. -/
def statusIn : List LinkEntry → ConnectionStatus
  | [] => .disconnected
  | .moved _ after :: _ => after
  | _ :: earlier => statusIn earlier

/-- What an acceptance leaves in the log of a link, newest first. -/
def acceptance (topics : Topics) : List LinkEntry :=
  [.subscribed topics.alarm, .subscribed topics.fillRequest, .moved .connecting .connected]

namespace Link

/-- The log of a link tells where the link stands, no session was asked for in vain, and each
announcement comes right after an acceptance. -/
structure Kept (l : Link) : Prop where
  told : l.status = statusIn l.log
  unspurned : ∀ status, .spurned status ∉ l.log
  welcomed : ∀ earlier, .announced :: earlier <:+ l.log → acceptance l.topics <+: earlier

/-- A session is asked for again exactly if there is none, and an announcement is due at most right
after an acceptance. -/
structure Alive (l : Link) : Prop extends l.Kept where
  waits : l.status = .disconnected ↔ l.retryAt.isSome
  due : l.announceAt.isSome → l.status = .connected ∧ acceptance l.topics <+: l.log

namespace Kept

variable {l : Link}

/-- Anything but an announcement goes on top of the log, if it tells where the link stands. -/
theorem add (h : l.Kept) {l' : Link} {e : LinkEntry} (topics : l'.topics = l.topics)
    (log : l'.log = e :: l.log) (told : l'.status = statusIn (e :: l.log))
    (quiet : e ≠ .announced) (taken : ∀ status, e ≠ .spurned status) : l'.Kept where
  told := by rw [log]; exact told
  unspurned status hmem := by
    rw [log] at hmem
    rcases List.mem_cons.mp hmem with heq | hmem
    · exact taken status heq.symm
    · exact h.unspurned status hmem
  welcomed earlier hsuffix := by
    rw [log] at hsuffix
    rw [topics]
    rcases List.suffix_cons_iff.mp hsuffix with heq | hsuffix
    · exact absurd (List.cons.inj heq).1.symm quiet
    · exact h.welcomed earlier hsuffix

theorem moveTo (h : l.Kept) (status : ConnectionStatus) : (l.moveTo status).Kept :=
  h.add rfl rfl rfl nofun nofun

/-- An announcement goes on top of an acceptance. -/
theorem tell (h : l.Kept) (accepted : acceptance l.topics <+: l.log) : l.tell.Kept where
  told := h.told
  unspurned status hmem := by
    rcases List.mem_cons.mp hmem with heq | hmem
    · cases heq
    · exact h.unspurned status hmem
  welcomed earlier hsuffix := by
    rcases List.suffix_cons_iff.mp hsuffix with heq | hsuffix
    · rw [(List.cons.inj heq).2]
      exact accepted
    · exact h.welcomed earlier hsuffix

end Kept

/-- There are no more announcements than acceptances. -/
theorem Kept.count_announced_le {topics : Topics} {log : List LinkEntry}
    (welcomed : ∀ earlier, .announced :: earlier <:+ log → acceptance topics <+: earlier) :
    log.count .announced ≤ log.count (.moved .connecting .connected) := by
  induction hlength : log.length using Nat.strongRecOn generalizing log with
  | ind length ih =>
    cases log with
    | nil => exact Nat.le_refl 0
    | cons e earlier =>
      have hearlier : ∀ log, log <:+ earlier → log.count .announced ≤
          log.count (.moved .connecting .connected) := by
        intro log hsuffix
        refine ih log.length ?_ (fun earlier' h => ?_) rfl
        · have hle := hsuffix.length_le
          rw [List.length_cons] at hlength
          omega
        · exact welcomed earlier' (h.trans (hsuffix.trans (List.suffix_cons e earlier)))
      by_cases hannounced : e = .announced
      · -- Below an announcement lies an acceptance, which makes up for it.
        obtain ⟨rest, hrest⟩ := welcomed earlier (hannounced ▸ List.suffix_refl _)
        have hle := hearlier rest ⟨acceptance topics, hrest⟩
        rw [hannounced, ← hrest]
        simp only [acceptance, List.cons_append, List.nil_append, List.count_cons]
        simpa using hle
      · have hle := hearlier earlier (List.suffix_refl _)
        rw [List.count_cons_of_ne hannounced]
        exact Nat.le_trans hle List.count_le_count_cons

/-! ## What keeps a link alive -/

/-- An attempt without a session leaves one on its way, or plans the next attempt. -/
theorem Kept.alive_ask {l : Link} (h : l.Kept) (status : l.status = .disconnected)
    (quiet : l.announceAt = none) (idle : l.retryAt = none) (now : Nat) (answer : Answer) :
    (l.ask now answer).Alive := by
  have hasked : ((l.moveTo .connecting).countAttempt.add (.asked answer)).Kept :=
    (h.moveTo .connecting).add rfl rfl rfl nofun nofun
  unfold ask
  rw [if_pos status]
  cases answer with
  | taken =>
    refine ⟨hasked, ⟨nofun, fun h => ?_⟩, fun h => ?_⟩
    · exact absurd (show l.retryAt.isSome from h) (by simp [idle])
    · exact absurd (show l.announceAt.isSome from h) (by simp [quiet])
  | refused reason =>
    have hmoved := hasked.moveTo .disconnected
    refine ⟨⟨hmoved.told, hmoved.unspurned, hmoved.welcomed⟩, ⟨fun _ => rfl, fun _ => rfl⟩, ?_⟩
    exact fun h => absurd (show l.announceAt.isSome from h) (by simp [quiet])

namespace Alive

variable {l : Link}

/-- Where there is no session, nothing is left to announce. -/
theorem announceAt_eq_none (h : l.Alive) (status : l.status ≠ .connected) :
    l.announceAt = none := by
  rw [← Option.not_isSome_iff_eq_none]
  exact fun hdue => status (h.due hdue).1

/-- A link that has been given up plans the next attempt. -/
theorem retryAfter (h : l.Kept) (quiet : l.announceAt = none) (now : Nat) (delay : UInt32) :
    ((l.moveTo .disconnected).retryAfter now delay).Alive := by
  have hmoved := h.moveTo .disconnected
  refine ⟨⟨hmoved.told, hmoved.unspurned, hmoved.welcomed⟩, ⟨fun _ => rfl, fun _ => rfl⟩, ?_⟩
  exact fun h => absurd (show l.announceAt.isSome from h) (by simp [quiet])

/-- News of the session keeps a link alive. -/
theorem hear (h : l.Alive) (now : Nat) (event : ConnectionEvent) : (l.hear now event).Alive := by
  have hkept := h.toKept
  unfold Link.hear
  cases hstatus : l.status <;> cases event
  case connecting.accepted =>
    have hsubscribed : ((l.moveTo .connected).add (.subscribed l.topics.fillRequest)).Kept :=
      (hkept.moveTo .connected).add rfl rfl rfl nofun nofun
    have haccepted : (((l.moveTo .connected).add (.subscribed l.topics.fillRequest)).add
        (.subscribed l.topics.alarm)).Kept := hsubscribed.add rfl rfl rfl nofun nofun
    refine ⟨⟨haccepted.told, haccepted.unspurned, haccepted.welcomed⟩, ?_, fun _ => ⟨rfl, ?_⟩⟩
    · have hidle : ¬ l.retryAt.isSome := fun hdue => by
        have hdown := h.waits.mpr hdue
        rw [hstatus] at hdown
        cases hdown
      exact ⟨nofun, fun hdue => absurd hdue hidle⟩
    · show acceptance l.topics <+: .subscribed l.topics.alarm :: .subscribed l.topics.fillRequest ::
        .moved l.status .connected :: l.log
      rw [hstatus]
      exact List.prefix_append _ l.log
  case connecting.rejected | connecting.disconnected =>
    exact retryAfter hkept (h.announceAt_eq_none (by rw [hstatus]; nofun)) now _
  case connected.rejected | connected.disconnected =>
    have hquiet : ({ l with announceAt := none } : Link).Kept :=
      ⟨hkept.told, hkept.unspurned, hkept.welcomed⟩
    exact retryAfter hquiet rfl now _
  all_goals exact h

/-- What a clock does by itself keeps a link alive. -/
theorem lapses (h : l.Alive) {now : Nat} {l' : Link} (hl : l.Lapses now l') : l'.Alive := by
  cases hl with
  | stays => exact h
  | retries due answer =>
    have hstatus : l.status = .disconnected := h.waits.mpr due
    have hkept : ({ l with retryAt := none } : Link).Kept := ⟨h.told, h.unspurned, h.welcomed⟩
    exact hkept.alive_ask hstatus (h.announceAt_eq_none (by rw [hstatus]; nofun)) rfl now answer
  | announces due =>
    obtain ⟨hstatus, haccepted⟩ := h.due due
    have hkept : ({ l with announceAt := none } : Link).Kept := ⟨h.told, h.unspurned, h.welcomed⟩
    exact ⟨hkept.tell haccepted, h.waits, nofun⟩

end Alive

end Link

/-! ## Runs -/

namespace Node

open Site

variable {τ : Type} [Transport τ]

/-- What is asked of a node that has just been started keeps its link alive. -/
theorem alive_launched (c : Config) (session : SessionParams) (now : Nat) (t : τ) :
    (link (launched c session now t)).Alive := by
  have hsettled := settled_ofConfig c session
  obtain ⟨answer, hlink⟩ := exists_link_start (ofConfig c session) { now, transport := t } hsettled
  have hkept : (link (fresh c session now t)).Kept := by
    refine ⟨rfl, fun _ => List.not_mem_nil, fun earlier hsuffix => ?_⟩
    exact absurd (List.suffix_nil.mp hsuffix) (List.cons_ne_nil _ _)
  rw [show link (launched c session now t) = _ from hlink]
  exact hkept.alive_ask rfl rfl rfl now answer

/-- What happens in time keeps the link of a node alive. -/
theorem alive_apply {state : Node × Site τ} (settled : state.1.Settled)
    (h : (link state).Alive) {happening : Happening τ} (timely : happening.isTimely) :
    (link (happening.apply respond state)).Alive := by
  rcases link_apply state.1 state.2 settled timely with hlapses | ⟨event, hheard⟩
  · exact h.lapses hlapses
  · rw [show link (happening.apply respond state) = _ from hheard]
    exact h.hear _ event

theorem alive_link_run (c : Config) (session : SessionParams) (now : Nat) (t : τ)
    {hs : List (Happening τ)} (timely : ∀ h ∈ hs, h.isTimely) :
    (link (TankGauge.run respond (launched c session now t) hs)).Alive := by
  let P (state : Node × Site τ) : Prop := state.1.Settled ∧ (link state).Alive
  have hstep : ∀ h ∈ hs, ∀ state, P state → P (h.apply respond state) := fun h hmem state hstate =>
    ⟨settled_apply h state.1 state.2 hstate.1, alive_apply hstate.1 hstate.2 (timely h hmem)⟩
  have hlaunched : P (launched c session now t) :=
    ⟨settled_respond _ _ .start (settled_ofConfig c session), alive_launched c session now t⟩
  have hrun : P (TankGauge.run respond (launched c session now t) hs) :=
    run_invariant hstep hlaunched
  exact hrun.2

/-- After every callback of a node that was started once and whose timers come out of the queue, it
has no session exactly if another attempt is planned, and an announcement is planned only if it has
one. It has never asked for a session in vain, it has announced itself only while its log said that
it was connected, and each announcement has come right after an acceptance of its own. -/
theorem alive_of_run (c : Config) (session : SessionParams) (now : Nat) (t : τ)
    (hs : List (Happening τ)) (timely : ∀ h ∈ hs, h.isTimely) :
    let (n, s) := TankGauge.run respond (Node.launched c session now t) hs
    let log := s.view Entry.link?
    (n.connection.status = .disconnected ↔ s.timers.isArmed .reconnect) ∧
      (s.timers.isArmed .announce → n.connection.status = .connected) ∧
      (∀ status, .note (.connectRefused status) ∉ s.journal) ∧
      n.connection.status = statusIn log ∧
      (∀ earlier, .announced :: earlier <:+ log →
        statusIn earlier = .connected ∧ acceptance n.topics <+: earlier) ∧
      log.count .announced ≤ log.count (.moved .connecting .connected) := by
  have halive := alive_link_run c session now t timely
  generalize TankGauge.run respond (Node.launched c session now t) hs = state at halive ⊢
  obtain ⟨n, s⟩ := state
  refine ⟨?_, ?_, fun status hmem => ?_, halive.told, fun earlier hsuffix => ?_, ?_⟩
  · rw [TimerQueue.isArmed_eq_isSome]
    exact halive.waits
  · rw [TimerQueue.isArmed_eq_isSome]
    exact fun hdue => (halive.due hdue).1
  · exact halive.unspurned status (List.mem_filterMap.mpr ⟨_, hmem, rfl⟩)
  · obtain ⟨rest, rfl⟩ := halive.welcomed earlier hsuffix
    exact ⟨rfl, List.prefix_append _ rest⟩
  · exact Link.Kept.count_announced_le halive.welcomed

/-- A session that was accepted and announced, and is lost after that, will be asked for again. -/
theorem alive_after_loss :
    let hs : List (Happening Scripted) := [.callback (.connection .accepted), .expiry .announce,
      .callback (.connection .disconnected)]
    (∀ h ∈ hs, h.isTimely) ∧
      (TankGauge.run respond (Node.launched {} (Bench.session {}) 0 {}) hs).2.timers.isArmed
        .reconnect := by
  have htimely : ∀ h ∈ [Happening.callback (τ := Scripted) (.connection .accepted),
      .expiry .announce, .callback (.connection .disconnected)], h.isTimely := by decide
  refine ⟨htimely, ?_⟩
  obtain ⟨hwaits, -⟩ := alive_of_run {} (Bench.session {}) 0 ({} : Scripted)
    [.callback (.connection .accepted), .expiry .announce, .callback (.connection .disconnected)]
    htimely
  exact hwaits.mp (by decide +kernel)

end Node

end TankGauge
