import TankGauge.Publication

/-!
# The publish policy

The policy remembers the level and the trend it has last spoken of. An observation yields the
level if it is a new one, and the trend of the move if it is not the trend last told; then both
are remembered. An announcement says first that the tank is online. A forced `STABLE` is told
whatever was told before, and counts as told.
-/

namespace TankGauge

/-- At most three publications come out of one evaluation. -/
abbrev Publications := BoundedList Publication 3

/-- What was last told. A policy that has told no trend yet finds every trend new. -/
structure Policy where
  lastLevel : UInt8
  lastTrend : Option Trend := none
deriving DecidableEq, Repr

namespace Policy

/-- A policy for which the level at the start counts as told. -/
def ofLevel (level : UInt8) : Policy := { lastLevel := level }

/-- What an observation makes worth telling, behind what there is to tell already. -/
def observeOnto (p : Policy) (out : Publications) (level : UInt8) : Publications × Policy :=
  let out := if level = p.lastLevel then out else out.push (.ofLevel level)
  let trend := Trend.between p.lastLevel level
  let out := if p.lastTrend = some trend then out else out.push (.ofTrend trend)
  (out, { lastLevel := level, lastTrend := some trend })

/-- What an observation makes worth telling. -/
def observe (p : Policy) (level : UInt8) : Publications × Policy := p.observeOnto .empty level

/-- The announcement that the tank is online, with an observation behind it. -/
def announce (p : Policy) (level : UInt8) : Publications × Policy :=
  p.observeOnto (BoundedList.empty.push .online) level

/-- The forced `STABLE`. -/
def forceStable (p : Policy) : Publication × Policy :=
  (.ofTrend .stable, { p with lastTrend := some .stable })

/-! ## What comes out of an evaluation

The capacity of three is never reached: an evaluation yields at most a level and a trend, and an
announcement at most one publication more.
-/

/-- What an observation yields, as a plain list: a new level, then a new trend. -/
def news (p : Policy) (level : UInt8) : List Publication :=
  (if level = p.lastLevel then [] else [.ofLevel level]) ++
    if p.lastTrend = some (Trend.between p.lastLevel level) then []
    else [.ofTrend (Trend.between p.lastLevel level)]

theorem items_observeOnto (p : Policy) (out : Publications) (level : UInt8)
    (room : out.items.length ≤ 1) :
    (p.observeOnto out level).1.items = out.items ++ p.news level := by
  have h₁ : (out.push (.ofLevel level)).items = out.items ++ [.ofLevel level] :=
    BoundedList.items_push_of_room (by omega)
  have h₂ : (out.push (.ofTrend (Trend.between p.lastLevel level))).items =
      out.items ++ [.ofTrend (Trend.between p.lastLevel level)] :=
    BoundedList.items_push_of_room (by omega)
  have h₃ : ((out.push (.ofLevel level)).push (.ofTrend (Trend.between p.lastLevel level))).items =
      out.items ++ [.ofLevel level] ++ [.ofTrend (Trend.between p.lastLevel level)] := by
    rw [BoundedList.items_push_of_room, h₁]
    rw [h₁, List.length_append, List.length_singleton]
    omega
  simp only [observeOnto, news]
  split <;> split <;> simp only [h₁, h₂, h₃, List.append_nil, List.nil_append, List.append_assoc]

theorem items_observe (p : Policy) (level : UInt8) : (p.observe level).1.items = p.news level :=
  items_observeOnto p .empty level (Nat.zero_le _)

theorem items_announce (p : Policy) (level : UInt8) :
    (p.announce level).1.items = .online :: p.news level := by
  have h : (BoundedList.empty.push Publication.online : Publications).items = [.online] :=
    BoundedList.items_push_of_room (by decide)
  rw [announce, items_observeOnto p _ level (by rw [h]; decide), h, List.singleton_append]

@[simp] theorem observe_snd (p : Policy) (level : UInt8) :
    (p.observe level).2 = ⟨level, some (Trend.between p.lastLevel level)⟩ := rfl

@[simp] theorem announce_snd (p : Policy) (level : UInt8) :
    (p.announce level).2 = ⟨level, some (Trend.between p.lastLevel level)⟩ := rfl

/-- What was told last is not told again. -/
theorem news_of_told (level : UInt8) : (Policy.mk level (some .stable)).news level = [] := by
  unfold news
  rw [if_pos rfl, Trend.between_self, if_pos rfl]
  rfl

/-- After a rest, a lower level is told together with its trend. -/
theorem news_of_lower {previous level : UInt8} (lower : level < previous) :
    (Policy.mk previous (some .stable)).news level = [.ofLevel level, .ofTrend .decrease] := by
  have hne : level ≠ previous := by
    rintro rfl
    exact UInt8.lt_irrefl level lower
  have htrend : Trend.between previous level = .decrease := if_pos lower
  have hnew : some Trend.stable ≠ some Trend.decrease := by decide
  unfold news
  rw [if_neg hne, htrend, if_neg hnew]
  rfl

end Policy

end TankGauge
