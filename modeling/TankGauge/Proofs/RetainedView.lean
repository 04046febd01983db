import TankGauge.Proofs.Happenings

/-!
# What a late subscriber sees

A broker that retains what it has taken shows to a late subscriber of a channel what was last
handed over on it and taken. The policy remembers what was last handed over, taken or not
(`Told`). So the two differ on a channel exactly if the last publication there was refused, unless
it said what the one before had said.

An acceptance does not mend this. The policy finds the level told, since it was observed when it
was reached, and so the announcement tells no level. What is seen is right again as soon as the
channel is used again: `current_iff_of_run`.
-/

namespace TankGauge

/-- What was last handed over on a channel. -/
def lastTold? (channel : Channel) (attempts : List Attempt) : Option String :=
  (attempts.map Attempt.told).lookup channel

/-- What a broker that retains what it has taken shows on a channel. -/
def retained? (channel : Channel) (attempts : List Attempt) : Option String :=
  lastTold? channel (attempts.filter fun a => a.answer = .taken)

/-- Whether a text that was told, or none, stands for a level. The level that is full needs not be
told. -/
def Shows (level : UInt8) : Option String → Prop
  | some text => text = toString level.toNat
  | none => level = 100

/-- A late subscriber sees the level that the gauge has. -/
def LevelCurrent {τ : Type} (state : Node × Site τ) : Prop :=
  Shows state.1.level (retained? .level state.2.attempts)

/-- A late subscriber sees the trend that the policy has last told. -/
def TrendCurrent {τ : Type} (state : Node × Site τ) : Prop :=
  retained? .fillState state.2.attempts = state.1.policy.lastTrend.map Trend.word

/-! ## Reading publications from the latest on -/

theorem lastTold?_append (channel : Channel) (news earlier : List Attempt) :
    lastTold? channel (news ++ earlier) =
      (lastTold? channel news).or (lastTold? channel earlier) := by
  rw [lastTold?, List.map_append, List.lookup_append]
  rfl

theorem lastTold?_eq_none {channel : Channel} {attempts : List Attempt} :
    lastTold? channel attempts = none ↔ ∀ a ∈ attempts, a.channel ≠ channel := by
  rw [lastTold?, List.lookup_eq_none_iff]
  constructor
  · intro h a hmem heq
    have hne := h a.told (List.mem_map_of_mem hmem)
    rw [heq.symm] at hne
    simp [Attempt.told] at hne
  · intro h p hmem
    obtain ⟨a, ha, rfl⟩ := List.mem_map.mp hmem
    have hne : channel ≠ a.told.1 := (h a ha).symm
    simpa using hne

private theorem decimal_injective {m n : Nat} (h : toString m = toString n) : m = n := by
  have hdigits : Nat.toDigits 10 m = Nat.toDigits 10 n := by
    rw [← Nat.toList_repr, ← Nat.toList_repr]
    exact congrArg String.toList h
  calc m = Nat.ofDigitChars 10 (Nat.toDigits 10 m) 0 := Nat.ofDigitChars_ten_toDigits.symm
    _ = Nat.ofDigitChars 10 (Nat.toDigits 10 n) 0 := by rw [hdigits]
    _ = n := Nat.ofDigitChars_ten_toDigits

theorem exists_of_lastTold? {channel : Channel} {attempts : List Attempt} {text : String}
    (h : lastTold? channel attempts = some text) : ∃ a ∈ attempts, a.channel = channel := by
  refine Classical.byContradiction (fun hnone => ?_)
  have hlookup := lastTold?_eq_none.mpr (fun a hmem heq => hnone ⟨a, hmem, heq⟩)
  rw [hlookup] at h
  cases h

/-- A level is told by its text alone. -/
theorem Shows.level_eq {level level' : UInt8} {shown : Option String} (h : Shows level shown)
    (h' : Shows level' shown) : level = level' := by
  cases shown with
  | none => exact h.trans h'.symm
  | some text => exact UInt8.toNat_inj.mp (decimal_injective (h.symm.trans h'))

namespace Policy

variable (p : Policy) (current : UInt8)

/-- An observation tells a level that was not told last. -/
theorem texts_level_news :
    Publication.texts .level (p.news current) =
      if current = p.lastLevel then [] else [toString current.toNat] := by
  unfold news
  split <;> split <;>
    simp [Publication.texts, Publication.told_ofLevel, Publication.told_ofTrend, textOn?]

/-- An observation tells a trend that was not told last. -/
theorem texts_fillState_news :
    Publication.texts .fillState (p.news current) =
      if p.lastTrend = some (Trend.between p.lastLevel current) then []
      else [(Trend.between p.lastLevel current).word] := by
  unfold news
  split <;> split <;>
    simp [Publication.texts, Publication.told_ofLevel, Publication.told_ofTrend, textOn?]

theorem lookup_news (channel : Channel) :
    ((p.news current).map Publication.told).reverse.lookup channel =
      (Publication.texts channel (p.news current)).getLast? := by
  rw [lookup_eq_head?, List.filterMap_reverse, List.head?_reverse]
  rfl

theorem lookup_level_news :
    ((p.news current).map Publication.told).reverse.lookup .level =
      if current = p.lastLevel then none else some (toString current.toNat) := by
  rw [lookup_news, texts_level_news]
  split <;> rfl

theorem lookup_fillState_news :
    ((p.news current).map Publication.told).reverse.lookup .fillState =
      if p.lastTrend = some (Trend.between p.lastLevel current) then none
      else some (Trend.between p.lastLevel current).word := by
  rw [lookup_news, texts_fillState_news]
  split <;> rfl

end Policy

/-! ## What the policy remembers was handed over last -/

/-- The policy remembers what was handed over last on each of the two channels, and the
publications up to some time are among the publications so far. -/
structure Told (earlier : List Attempt) (level : UInt8) (policy : Policy)
    (attempts : List Attempt) : Prop where
  abreast : policy.lastLevel = level
  level : Shows policy.lastLevel (lastTold? .level attempts)
  trend : lastTold? .fillState attempts = policy.lastTrend.map Trend.word
  grown : earlier <:+ attempts

namespace Told

open Node

variable {τ : Type} [Transport τ] {earlier : List Attempt} {level : UInt8} {policy : Policy}

theorem shows {attempts : List Attempt} (h : Told earlier level policy attempts) :
    Shows level (lastTold? .level attempts) := by
  rw [← h.abreast]
  exact h.level

/-- From now on is a time too. -/
theorem fromHere {attempts : List Attempt} (h : Told earlier level policy attempts) :
    Told attempts level policy attempts :=
  ⟨h.abreast, h.level, h.trend, List.suffix_refl _⟩

/-- What is handed over counts before what was handed over earlier. -/
theorem lastTold?_send (topics : Topics) (channel : Channel) (ps : List Publication) (s : Site τ) :
    lastTold? channel (send topics ps s).attempts =
      (((ps.map Publication.told).reverse).lookup channel).or (lastTold? channel s.attempts) := by
  obtain ⟨news, hnews, htold⟩ := attempts_send topics ps s
  rw [hnews, lastTold?_append, lastTold?, htold]

theorem grown_send {s : Site τ} (h : earlier <:+ s.attempts) (topics : Topics)
    (ps : List Publication) : earlier <:+ (send topics ps s).attempts := by
  obtain ⟨news, hnews, -⟩ := attempts_send topics ps s
  rw [hnews]
  exact h.trans (List.suffix_append news _)

/-- What an observation tells, and what is told on the third channel before it, is what the policy
remembers. -/
theorem observe {s : Site τ} (h : Told earlier level policy s.attempts) (topics : Topics)
    (current : UInt8) (before : List Publication)
    (other : ∀ p ∈ before, p.channel = .availability) :
    Told earlier current (policy.observe current).2
      (send topics (before ++ policy.news current) s).attempts := by
  have hlookup (channel : Channel) (hne : channel ≠ .availability) :
      lastTold? channel (send topics (before ++ policy.news current) s).attempts =
        (((policy.news current).map Publication.told).reverse.lookup channel).or
          (lastTold? channel s.attempts) := by
    -- What is told before on the third channel hides nothing of the other two.
    have hbefore : (before.map Publication.told).reverse.lookup channel = none := by
      rw [List.lookup_eq_none_iff]
      intro p hmem
      obtain ⟨q, hq, rfl⟩ := List.mem_map.mp (List.mem_reverse.mp hmem)
      have hother : channel ≠ q.told.1 := fun heq => hne (heq.trans (other q hq))
      simpa using hother
    rw [lastTold?_send, List.map_append, List.reverse_append, List.lookup_append, hbefore,
      Option.or_none]
  refine ⟨rfl, ?_, ?_, grown_send h.grown topics _⟩
  · rw [hlookup .level (by decide), Policy.lookup_level_news]
    by_cases hsame : current = policy.lastLevel
    · rw [if_pos hsame, Option.none_or, hsame]
      exact h.level
    · rw [if_neg hsame, Option.some_or]
      rfl
  · rw [hlookup .fillState (by decide), Policy.lookup_fillState_news]
    by_cases hsame : policy.lastTrend = some (Trend.between policy.lastLevel current)
    · rw [if_pos hsame, Option.none_or, h.trend, hsame]
      rfl
    · rw [if_neg hsame, Option.some_or]
      rfl

theorem forceStable {s : Site τ} (h : Told earlier level policy s.attempts) (topics : Topics) :
    Told earlier level policy.forceStable.2
      (send topics [policy.forceStable.1] s).attempts := by
  refine ⟨h.abreast, ?_, ?_, grown_send h.grown topics _⟩
  · rw [lastTold?_send]
    exact h.level
  · rw [lastTold?_send]
    rfl

/-- What the policy remembers was handed over last, at any time. -/
theorem law (earlier : List Attempt) : TankLaw τ (Told earlier) where
  step n s d h := by
    rw [attempts_step, policy_step]
    exact h.observe n.topics _ [] (fun _ hmem => nomatch hmem)
  announce n s h := by
    rw [snd_announce]
    refine h.observe n.topics n.level [.online] (fun p hmem => ?_)
    rw [List.mem_singleton.mp hmem]
    rfl
  stable n s h := h.forceStable n.topics

end Told

/-! ## What is seen after publications that were all taken -/

/-- What has been retained since, if everything was taken. -/
theorem retained?_append {news earlier : List Attempt} (taken : ∀ a ∈ news, a.answer = .taken)
    (channel : Channel) :
    retained? channel (news ++ earlier) =
      (lastTold? channel news).or (retained? channel earlier) := by
  have hall : news.filter (fun a => a.answer = .taken) = news := by
    rw [List.filter_eq_self]
    exact fun a hmem => decide_eq_true (taken a hmem)
  rw [retained?, List.filter_append, hall, lastTold?_append]
  rfl

/-- On a channel that was used since, what is seen is what was told last; on one that was not used
since, what is seen and what was told last are what they were before. -/
theorem retained?_cases {news earlier : List Attempt} (taken : ∀ a ∈ news, a.answer = .taken)
    (channel : Channel) :
    ((∃ a ∈ news, a.channel = channel) ∧
      retained? channel (news ++ earlier) = lastTold? channel (news ++ earlier)) ∨
    ((∀ a ∈ news, a.channel ≠ channel) ∧
      retained? channel (news ++ earlier) = retained? channel earlier ∧
      lastTold? channel (news ++ earlier) = lastTold? channel earlier) := by
  rw [retained?_append taken, lastTold?_append]
  cases htold : lastTold? channel news with
  | some text => exact .inl ⟨exists_of_lastTold? htold, by rw [Option.some_or, Option.some_or]⟩
  | none => exact .inr ⟨lastTold?_eq_none.mp htold, Option.none_or, Option.none_or⟩

section

variable {τ : Type} {start last : Node × Site τ} {news since₀ since₁ : List Attempt}

/-- The level is seen if it was told since, and as rightly as before otherwise. -/
theorem levelCurrent_iff (hnews : last.2.attempts = news ++ start.2.attempts)
    (taken : ∀ a ∈ news, a.answer = .taken)
    (hstart : Told since₀ start.1.level start.1.policy start.2.attempts)
    (hlast : Told since₁ last.1.level last.1.policy last.2.attempts) :
    LevelCurrent last ↔ (∃ a ∈ news, a.channel = .level) ∨ LevelCurrent start := by
  have hshows := hlast.shows
  rw [LevelCurrent, hnews]
  rw [hnews] at hshows
  rcases retained?_cases taken .level with ⟨htold, hseen⟩ | ⟨hnone, hseen, hlastTold⟩
  · rw [hseen]
    exact ⟨fun _ => .inl htold, fun _ => hshows⟩
  · -- The text told last stands for the level before and for the level now, so that they are one.
    rw [hlastTold] at hshows
    have hsame : last.1.level = start.1.level := hshows.level_eq hstart.shows
    rw [hseen, hsame]
    exact ⟨.inr, fun h => h.resolve_left (fun ⟨a, hmem, heq⟩ => hnone a hmem heq)⟩

/-- The trend is seen if it was told since, and as rightly as before otherwise. -/
theorem trendCurrent_iff (hnews : last.2.attempts = news ++ start.2.attempts)
    (taken : ∀ a ∈ news, a.answer = .taken)
    (hstart : Told since₀ start.1.level start.1.policy start.2.attempts)
    (hlast : Told since₁ last.1.level last.1.policy last.2.attempts) :
    TrendCurrent last ↔ (∃ a ∈ news, a.channel = .fillState) ∨ TrendCurrent start := by
  have htrend := hlast.trend
  rw [hnews] at htrend
  rw [TrendCurrent, hnews, ← htrend]
  rcases retained?_cases taken .fillState with ⟨htold, hseen⟩ | ⟨hnone, hseen, hlastTold⟩
  · exact ⟨fun _ => .inl htold, fun _ => hseen⟩
  · rw [hseen, hlastTold, hstart.trend]
    exact ⟨.inr, fun h => h.resolve_left (fun ⟨a, hmem, heq⟩ => hnone a hmem heq)⟩

end

namespace Node

variable {τ : Type} [Transport τ]

/-- The announcement of an accepted session tells no level, since the policy keeps abreast of the
gauge whether or not the transport takes what there is to tell. -/
theorem level_not_announced (n : Node) (s : Site τ) (abreast : n.Abreast) :
    ∃ news, (n.announce s).2.attempts = news ++ s.attempts ∧ ∀ a ∈ news, a.channel ≠ .level := by
  obtain ⟨news, hnews, htold⟩ :=
    attempts_send n.topics (.online :: n.policy.news n.level) s
  refine ⟨news, ?_, ?_⟩
  · rw [snd_announce]
    exact hnews
  · have hnone : lastTold? .level news = none := by
      rw [lastTold?, htold, List.map_cons, List.reverse_cons, List.lookup_append,
        Policy.lookup_level_news, if_pos abreast.symm]
      rfl
    exact lastTold?_eq_none.mp hnone

/-- What a late subscriber sees after a run in which every publication was taken: the level is the
one that the gauge has exactly if a level was told in the run or the level seen before the run was
the right one, and the trend is the one last told exactly if a trend was told in the run or the
trend seen before was the right one. An acceptance and the announcement after it change nothing of
this. -/
theorem current_iff_of_run (c : Config) (session : SessionParams) (now : Nat) (t : τ)
    (before after : List (Happening τ)) :
    let start := run respond (fresh c session now t) before
    let last := run respond start after
    let news := since last.2.attempts start.2.attempts
    (∀ a ∈ news, a.answer = .taken) →
      (LevelCurrent last ↔ (∃ a ∈ news, a.channel = .level) ∨ LevelCurrent start) ∧
      (TrendCurrent last ↔ (∃ a ∈ news, a.channel = .fillState) ∨ TrendCurrent start) := by
  intro start last news taken
  have hfresh : Told [] 100 (Policy.ofLevel 100) [] := ⟨rfl, rfl, rfl, List.suffix_refl _⟩
  have hsettled : (fresh c session now t).1.Settled := settled_ofConfig c session
  have hstart : Told [] start.1.level start.1.policy start.2.attempts :=
    (Told.law []).run hsettled hfresh before
  have hlast : Told start.2.attempts last.1.level last.1.policy last.2.attempts :=
    (Told.law start.2.attempts).run (settled_run hsettled before) hstart.fromHere after
  have hnews : last.2.attempts = news ++ start.2.attempts := by
    obtain ⟨told, htold⟩ := hlast.grown
    show last.2.attempts = since last.2.attempts start.2.attempts ++ start.2.attempts
    rw [← htold, since_append]
  exact ⟨levelCurrent_iff hnews taken hstart hlast, trendCurrent_iff hnews taken hstart hlast⟩

/-- A fill request after the first acceptance is seen: the level at the acceptance was right, and
the first step is told. -/
theorem current_after_first_step :
    let start : Node × Site Scripted :=
      run respond (fresh {} (Bench.session {}) 0 { linkUp := true })
        [.callback .start, .callback (.connection .accepted)]
    let last := run respond start [.expiry .announce, .callback (.command (.fillRequest true))]
    last.1.level = 99 ∧ LevelCurrent last := by
  intro start last
  have hstep : last.1.level = 99 := by decide +kernel
  have htaken : ∀ a ∈ since last.2.attempts start.2.attempts, a.answer = .taken := by
    decide +kernel
  have htold : ∃ a ∈ since last.2.attempts start.2.attempts, a.channel = .level := by
    decide +kernel
  obtain ⟨hlevel, -⟩ := current_iff_of_run {} (Bench.session {}) 0
    ({ linkUp := true } : Scripted) [.callback .start, .callback (.connection .accepted)]
    [.expiry .announce, .callback (.command (.fillRequest true))] htaken
  exact ⟨hstep, hlevel.mpr (.inl htold)⟩

/-- A level that is reached while the link is down is not seen after the next session has been
accepted and announced, although nothing has been refused since: the broker still shows 99 when the
gauge is at 98. -/
theorem stale_level_after_reconnection :
    let config : Config := { stepInterval := 600 }
    let before : List (Happening Scripted) :=
      [.transport { linkUp := true }, .callback (.connection .accepted), .expiry .announce,
        .callback (.command (.fillRequest true)), .transport { linkUp := false },
        .callback (.connection .disconnected), .clock 600, .expiry .decrease, .clock 1000,
        .expiry .reconnect, .transport { linkUp := true }, .callback (.connection .accepted)]
    let accepted := run respond (launched config (Bench.session config) 0 {}) before
    let last := run respond accepted [.expiry .announce]
    (∀ h ∈ before, h.isTimely) ∧ last.1.connection.status = .connected ∧
      .announce ∈ since last.2.firings accepted.2.firings ∧
      (∀ a ∈ since last.2.attempts accepted.2.attempts, a.answer = .taken) ∧
      ¬ LevelCurrent last := by
  intro config before accepted last
  have hlevel : last.1.level = 98 := by decide +kernel
  have hretained : retained? .level last.2.attempts = some "99" := by decide +kernel
  refine ⟨by decide, by decide +kernel, by decide +kernel, by decide +kernel, ?_⟩
  rw [LevelCurrent, hlevel, hretained]
  exact (by decide : ¬ "99" = toString (98 : UInt8).toNat)

end Node

end TankGauge
