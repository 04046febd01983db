import TankGauge.Topics

/-!
# What a tank publishes

A publication is a short text on one of three channels: whether the tank is online, what the level
is, and which way the level moves.
-/

namespace TankGauge

/-- Which way the level has moved between two observations. -/
inductive Trend
  | increase
  | decrease
  | stable
deriving DecidableEq, Repr

namespace Trend

/-- The trend of a move. -/
def between (previous current : UInt8) : Trend :=
  if current < previous then .decrease
  else if previous < current then .increase
  else .stable

theorem between_self (level : UInt8) : between level level = stable := by
  rw [between, if_neg (UInt8.lt_irrefl level), if_neg (UInt8.lt_irrefl level)]

theorem between_eq_decrease {previous current : UInt8} :
    between previous current = decrease ↔ current < previous := by
  unfold between
  split
  · exact iff_of_true rfl ‹_›
  · split <;> exact iff_of_false nofun ‹_›

theorem between_eq_increase {previous current : UInt8} :
    between previous current = increase ↔ previous < current := by
  unfold between
  split
  · exact iff_of_false nofun (UInt8.lt_asymm ‹_›)
  · split
    · exact iff_of_true rfl ‹_›
    · exact iff_of_false nofun ‹_›

/-- The word that is published for a trend. -/
def word : Trend → String
  | increase => "INCREASE"
  | decrease => "DECREASE"
  | stable => "STABLE"

end Trend

/-- What a publication is about. -/
inductive Channel
  | availability
  | level
  | fillState
deriving DecidableEq, Repr

namespace Channel

/-- The three channels. -/
def all : List Channel := [availability, level, fillState]

/-- The topic that carries a channel. -/
def topic (topics : Topics) : Channel → Topic
  | availability => topics.availability
  | level => topics.level
  | fillState => topics.fillState

/-- The name a log line gives the channel. -/
def name : Channel → String
  | availability => "Availability"
  | level => "Level"
  | fillState => "FillState"

end Channel

/-- A message for a channel. -/
structure Publication where
  channel : Channel
  payload : BoundedText 12
deriving DecidableEq, Repr

namespace Publication

/-- The announcement that the tank is online. -/
def onlineWord : String := "ONLINE"

/-- The last will, which says that the tank is not. -/
def offlineWord : String := "OFFLINE"

/-- A text on a channel. -/
def ofText (channel : Channel) (s : String) : Publication := ⟨channel, BoundedText.empty.write s⟩

/-- The announcement that the tank is online. -/
def online : Publication := ofText .availability onlineWord

/-- A level in decimal. -/
def ofLevel (level : UInt8) : Publication := ofText .level (toString level.toNat)

/-- A trend as its word. -/
def ofTrend (trend : Trend) : Publication := ofText .fillState trend.word

private theorem utf8ByteSize_decimal_le : ∀ n < 256, (toString n).utf8ByteSize ≤ 12 := by
  decide +kernel

/-- A level is never too long for a message. -/
theorem text_ofLevel (level : UInt8) : (ofLevel level).payload.text = toString level.toNat := by
  have hfits := utf8ByteSize_decimal_le level.toNat level.toNat_lt
  have hwrite : (BoundedText.empty.write (toString level.toNat) : BoundedText 12).text =
      "" ++ toString level.toNat :=
    BoundedText.text_write_of_fits (by simpa [BoundedText.empty] using hfits)
  rw [String.empty_append] at hwrite
  exact hwrite

private theorem decimal_ne_onlineWord_of_lt : ∀ n < 256, toString n ≠ onlineWord := by
  decide +kernel

/-- No level is told in the word that announces a node. -/
theorem decimal_ne_onlineWord (level : UInt8) : toString level.toNat ≠ onlineWord :=
  decimal_ne_onlineWord_of_lt level.toNat level.toNat_lt

/-- The word of a trend is never too long for a message. -/
theorem text_ofTrend (trend : Trend) : (ofTrend trend).payload.text = trend.word := by
  cases trend <;> rfl

end Publication

end TankGauge
