import TankGauge.Proofs.Journal

/-!
# What a subscriber knows by listening

The policy is asked again and again: to look at a level, to announce the tank, or to tell `STABLE`
by force. A subscriber starts out with the level that counts as told, and takes over every level
and every trend it reads on the two channels (`Heard.hear`).

What the policy remembers and what the subscriber knows are the same after every call
(`hear_call`, `hear_calls`). Of itself a call tells the least there is: a level if it is another
than the one evaluated before, a trend if it is another than the last one told, and both in full,
since neither the room for publications nor the room in one of them runs out
(`map_told_call`).
-/

namespace TankGauge

/-! ## Reading what is told -/

namespace Trend

/-- The trend that a word stands for. -/
def ofWord? (text : String) : Option Trend :=
  [increase, decrease, stable].find? fun trend => trend.word = text

theorem ofWord?_word (trend : Trend) : ofWord? trend.word = some trend := by
  cases trend <;> decide

end Trend

/-- The level that a text stands for: a number of one byte, in decimal digits. -/
def levelOf? (text : String) : Option UInt8 :=
  let digits := text.toList
  let n := Nat.ofDigitChars 10 digits 0
  if digits ≠ [] ∧ digits.all Char.isDigit ∧ n < UInt8.size then some (UInt8.ofNat n) else none

theorem levelOf?_decimal (level : UInt8) : levelOf? (toString level.toNat) = some level := by
  have hdigits : (toString level.toNat).toList = Nat.toDigits 10 level.toNat := Nat.toList_repr
  have hall : (Nat.toDigits 10 level.toNat).all Char.isDigit := by
    rw [List.all_eq_true]
    exact fun c hmem => Nat.isDigit_of_mem_toDigits (by decide) (by decide) hmem
  have hread : Nat.ofDigitChars 10 (Nat.toDigits 10 level.toNat) 0 = level.toNat :=
    Nat.ofDigitChars_ten_toDigits
  unfold levelOf?
  simp only [hdigits, hread]
  rw [if_pos ⟨Nat.toDigits_ne_nil, hall, level.toNat_lt⟩, UInt8.ofNat_toNat]

/-- What a subscriber knows. No trend is known before the first one is read. -/
structure Heard where
  level : UInt8
  trend : Option Trend
deriving DecidableEq, Repr

namespace Heard

/-- A text on a channel is heard. What stands for no level or for no trend changes nothing. -/
def hear (h : Heard) (told : Channel × String) : Heard :=
  match told.1 with
  | .availability => h
  | .level => { h with level := (levelOf? told.2).getD h.level }
  | .fillState => { h with trend := (Trend.ofWord? told.2).or h.trend }

/-- Texts on channels are heard one after the other. -/
def replay (h : Heard) (told : List (Channel × String)) : Heard := told.foldl hear h

theorem replay_append (h : Heard) (earlier later : List (Channel × String)) :
    h.replay (earlier ++ later) = (h.replay earlier).replay later := List.foldl_append

theorem hear_level (h : Heard) (level : UInt8) :
    h.hear (.level, toString level.toNat) = { h with level } := by
  show { h with level := (levelOf? (toString level.toNat)).getD h.level } = _
  rw [levelOf?_decimal, Option.getD_some]

theorem hear_trend (h : Heard) (trend : Trend) :
    h.hear (.fillState, trend.word) = { h with trend := some trend } := by
  show { h with trend := (Trend.ofWord? trend.word).or h.trend } = _
  rw [Trend.ofWord?_word, Option.some_or]

end Heard

/-! ## Calls -/

namespace Policy

/-- What the policy may be asked for. -/
inductive Call
  | observe (level : UInt8)
  | announce (level : UInt8)
  | forceStable
deriving DecidableEq, Repr

namespace Call

/-- The level that a call evaluates. -/
def level? : Call → Option UInt8
  | observe level => some level
  | announce level => some level
  | forceStable => none

/-- What there is to tell of a move, if a level was evaluated before and a trend, or none, was told
last. -/
def ofMove (level : UInt8) (trend : Option Trend) (current : UInt8) : List (Channel × String) :=
  (if current = level then [] else [(.level, toString current.toNat)]) ++
    if trend = some (Trend.between level current) then []
    else [(.fillState, (Trend.between level current).word)]

/-- What there is to tell when a call is made, however much it is and however long. -/
def texts (level : UInt8) (trend : Option Trend) : Call → List (Channel × String)
  | observe current => ofMove level trend current
  | announce current => (.availability, Publication.onlineWord) :: ofMove level trend current
  | forceStable => [(.fillState, Trend.stable.word)]

variable (level : UInt8) (trend : Option Trend)

/-- What is told of a move leaves a subscriber with the level and the trend of the move. -/
theorem replay_ofMove (current : UInt8) :
    (Heard.mk level trend).replay (ofMove level trend current) =
      ⟨current, some (Trend.between level current)⟩ := by
  have hlevel : (Heard.mk level trend).replay
      (if current = level then [] else [(.level, toString current.toNat)]) =
      ⟨current, trend⟩ := by
    split
    · rename_i hsame
      rw [hsame]
      rfl
    · exact Heard.hear_level ⟨level, trend⟩ current
  have htrend (moved : Trend) : (Heard.mk current trend).replay
      (if trend = some moved then [] else [(.fillState, moved.word)]) =
      ⟨current, some moved⟩ := by
    split
    · rename_i hsame
      rw [hsame]
      rfl
    · exact Heard.hear_trend ⟨current, trend⟩ moved
  rw [ofMove, Heard.replay_append, hlevel, htrend]

/-- The trend told last is the trend of the move, told now or before. -/
theorem trend_ofMove (current : UInt8) :
    some (Trend.between level current) =
      (((ofMove level trend current).filterMap (textOn? .fillState)).filterMap
        Trend.ofWord?).getLast?.or trend := by
  unfold ofMove
  split <;> split <;> simp_all [textOn?, Trend.ofWord?_word]

/-- A level is told if it is another than the one evaluated before. -/
theorem texts_level_iff {c : Call} {current : UInt8} (evaluates : c.level? = some current) :
    (∃ told ∈ c.texts level trend, told.1 = .level) ↔ current ≠ level := by
  have hmove : (∃ told ∈ ofMove level trend current, told.1 = .level) ↔ current ≠ level := by
    unfold ofMove
    split <;> split <;> simp [*]
  cases c <;> cases evaluates
  · exact hmove
  · simpa [texts] using hmove

/-- A trend is told if it is another than the one told last. -/
theorem texts_fillState_iff {c : Call} {current : UInt8} (evaluates : c.level? = some current) :
    (∃ told ∈ c.texts level trend, told.1 = .fillState) ↔
      trend ≠ some (Trend.between level current) := by
  have hmove : (∃ told ∈ ofMove level trend current, told.1 = .fillState) ↔
      trend ≠ some (Trend.between level current) := by
    unfold ofMove
    generalize Trend.between level current = moved
    split <;> split <;> simp [*]
  cases c <;> cases evaluates
  · exact hmove
  · simpa [texts] using hmove

end Call

/-- A call yields publications, and the policy remembers them. -/
def call (p : Policy) : Call → List Publication × Policy
  | .observe level => ((p.observe level).1.items, (p.observe level).2)
  | .announce level => ((p.announce level).1.items, (p.announce level).2)
  | .forceStable => ([p.forceStable.1], p.forceStable.2)

/-- Calls are made one after the other. -/
def calls (p : Policy) : List Call → List Publication × Policy
  | [] => ([], p)
  | c :: rest => ((p.call c).1 ++ ((p.call c).2.calls rest).1, ((p.call c).2.calls rest).2)

/-- The level that calls have evaluated last, or the one before them. -/
def lastEvaluated (initial : UInt8) (cs : List Call) : UInt8 :=
  (cs.filterMap Call.level?).getLast?.getD initial

/-- The trend that publications have told last, by force or not. -/
def lastTrendTold? (ps : List Publication) : Option Trend :=
  ((Publication.texts .fillState ps).filterMap Trend.ofWord?).getLast?

/-- A policy as a subscriber sees it. -/
def asHeard (p : Policy) : Heard := ⟨p.lastLevel, p.lastTrend⟩

variable (p : Policy)

/-! ## One call -/

theorem map_told_news (current : UInt8) :
    (p.news current).map Publication.told = Call.ofMove p.lastLevel p.lastTrend current := by
  unfold news Call.ofMove
  split <;> split <;>
    simp only [List.map_append, List.map_cons, List.map_nil, Publication.told_ofLevel,
      Publication.told_ofTrend]

/-- A call tells everything that there is to tell, and tells it in full. -/
theorem map_told_call (c : Call) :
    (p.call c).1.map Publication.told = c.texts p.lastLevel p.lastTrend := by
  cases c with
  | observe current =>
    show (p.observe current).1.items.map Publication.told = Call.ofMove _ _ current
    rw [items_observe, map_told_news]
  | announce current =>
    show (p.announce current).1.items.map Publication.told = _ :: Call.ofMove _ _ current
    rw [items_announce, List.map_cons, map_told_news]
    rfl
  | forceStable => rfl

theorem lastLevel_call (c : Call) : (p.call c).2.lastLevel = c.level?.getD p.lastLevel := by
  cases c <;> rfl

theorem lastTrend_call (c : Call) :
    (p.call c).2.lastTrend = (lastTrendTold? (p.call c).1).or p.lastTrend := by
  unfold lastTrendTold? Publication.texts
  rw [map_told_call]
  cases c with
  | observe current => exact Call.trend_ofMove p.lastLevel p.lastTrend current
  | announce current => exact Call.trend_ofMove p.lastLevel p.lastTrend current
  | forceStable => rfl

/-- A subscriber that knew what the policy remembered knows it again after a call. -/
theorem hear_call (c : Call) :
    p.asHeard.replay ((p.call c).1.map Publication.told) = (p.call c).2.asHeard := by
  rw [map_told_call]
  cases c with
  | observe current => exact Call.replay_ofMove p.lastLevel p.lastTrend current
  | announce current => exact Call.replay_ofMove p.lastLevel p.lastTrend current
  | forceStable => exact Heard.hear_trend p.asHeard .stable

/-- A channel is used by a call if there is anything to tell on it. -/
theorem uses_channel_iff (c : Call) (channel : Channel) :
    (∃ q ∈ (p.call c).1, q.channel = channel) ↔
      ∃ told ∈ c.texts p.lastLevel p.lastTrend, told.1 = channel := by
  rw [← map_told_call]
  constructor
  · rintro ⟨q, hmem, hchannel⟩
    exact ⟨q.told, List.mem_map_of_mem hmem, hchannel⟩
  · rintro ⟨told, hmem, hchannel⟩
    obtain ⟨q, hq, rfl⟩ := List.mem_map.mp hmem
    exact ⟨q, hq, hchannel⟩

/-! ## Any number of calls -/

theorem lastEvaluated_cons (initial : UInt8) (c : Call) (rest : List Call) :
    lastEvaluated initial (c :: rest) = lastEvaluated (c.level?.getD initial) rest := by
  unfold lastEvaluated
  rw [List.filterMap_cons]
  cases c.level? with
  | none => rfl
  | some level => rw [List.getLast?_cons]; rfl

theorem lastTrendTold?_append (earlier later : List Publication) :
    lastTrendTold? (earlier ++ later) = (lastTrendTold? later).or (lastTrendTold? earlier) := by
  unfold lastTrendTold? Publication.texts
  rw [List.map_append, List.filterMap_append, List.filterMap_append, List.getLast?_append]

/-- The level that the policy remembers is the one evaluated last. -/
theorem lastLevel_calls (cs : List Call) :
    (p.calls cs).2.lastLevel = lastEvaluated p.lastLevel cs := by
  induction cs generalizing p with
  | nil => rfl
  | cons c rest ih =>
    show ((p.call c).2.calls rest).2.lastLevel = _
    rw [ih, lastLevel_call, lastEvaluated_cons]

/-- The trend that the policy remembers is the one told last. -/
theorem lastTrend_calls (cs : List Call) :
    (p.calls cs).2.lastTrend = (lastTrendTold? (p.calls cs).1).or p.lastTrend := by
  induction cs generalizing p with
  | nil => rfl
  | cons c rest ih =>
    show ((p.call c).2.calls rest).2.lastTrend =
      (lastTrendTold? ((p.call c).1 ++ ((p.call c).2.calls rest).1)).or p.lastTrend
    rw [ih, lastTrend_call, lastTrendTold?_append, Option.or_assoc]

/-- A subscriber that knew what the policy remembered knows it after any calls. -/
theorem hear_calls (cs : List Call) :
    p.asHeard.replay ((p.calls cs).1.map Publication.told) = (p.calls cs).2.asHeard := by
  induction cs generalizing p with
  | nil => rfl
  | cons c rest ih =>
    show p.asHeard.replay (((p.call c).1 ++ ((p.call c).2.calls rest).1).map Publication.told) = _
    rw [List.map_append, Heard.replay_append, hear_call, ih]
    rfl

/-- The policy tells all that a subscriber needs, and no more. Whatever calls there were before, a
call that evaluates a level tells it exactly if it is not the level evaluated before, and tells the
trend of the move exactly if it is not the trend told last, by force or not. What a call tells is
all there is to tell, with nothing left out and nothing shortened. A subscriber that started with
the first level and has heard everything since knows the level and the trend that the policy
remembers. -/
theorem replay_of_calls (initial : UInt8) (earlier : List Call) (c : Call) :
    let told := ((ofLevel initial).calls earlier).1
    let p := ((ofLevel initial).calls earlier).2
    let level := lastEvaluated initial earlier
    let trend := lastTrendTold? told
    (∀ current, c.level? = some current →
      ((∃ q ∈ (p.call c).1, q.channel = .level) ↔ current ≠ level) ∧
      ((∃ q ∈ (p.call c).1, q.channel = .fillState) ↔
        trend ≠ some (Trend.between level current))) ∧
    (p.call c).1.map Publication.told = c.texts level trend ∧
    (Heard.mk initial none).replay (told.map Publication.told) =
      ⟨p.lastLevel, p.lastTrend⟩ := by
  intro told p level trend
  have hlevel : p.lastLevel = level := lastLevel_calls (ofLevel initial) earlier
  have htrend : p.lastTrend = trend :=
    (lastTrend_calls (ofLevel initial) earlier).trans Option.or_none
  rw [← hlevel, ← htrend]
  refine ⟨fun current evaluates => ?_, map_told_call p c, hear_calls (ofLevel initial) earlier⟩
  rw [uses_channel_iff, uses_channel_iff]
  exact ⟨Call.texts_level_iff _ _ evaluates, Call.texts_fillState_iff _ _ evaluates⟩

/-- A rise to 60 after a forced `STABLE`: the level is told, and so is the trend, though the last
observation was a rise too. -/
theorem replay_of_calls_after_forceStable :
    let p := ((ofLevel 50).calls [.observe 55, .forceStable]).2
    (p.call (.announce 60)).1.map Publication.told =
        [(.availability, "ONLINE"), (.level, "60"), (.fillState, "INCREASE")] ∧
      (∃ q ∈ (p.call (.announce 60)).1, q.channel = .level) := by
  have h := replay_of_calls 50 [.observe 55, .forceStable] (.announce 60)
  refine ⟨h.2.1.trans ?_, (h.1 60 rfl).1.mpr ?_⟩
  · decide
  · decide

end Policy

end TankGauge
