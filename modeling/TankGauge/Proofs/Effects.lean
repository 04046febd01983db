import TankGauge.Mode.Machine

/-!
# The effects that a command leads to

The list of effects holds eight, and no command asks for more than four. So nothing is dropped
when a command meets a machine whose list is empty: what it asks for stands in the list afterwards,
in the order in which it was asked for (`ModeMachine.handle_of_empty`), and no note tells of an
effect that was dropped (`ModeMachine.effectDropped_not_mem_handle`).

What a command asks for depends on the mode alone: entering a mode asks for what that mode asks
for on entry, and a command that enters none asks at most for `STABLE` to be told
(`Mode.effects_cases`).
-/

namespace TankGauge

/-- The effect that an order asks for, if any. -/
def Order.effect? : Order → Option Effect
  | .note _ => none
  | .effect e => some e

/-- The effects that orders ask for, in order. -/
def Order.effects (orders : List Order) : List Effect := orders.filterMap Order.effect?

namespace ModeMachine

theorem push_of_room {m : ModeMachine} {e : Effect} (room : m.effects.items.length < 8) :
    m.push e = ({ m with effects := m.effects.push e }, []) := by
  simp [push, BoundedList.push, BoundedList.push?, room]

theorem fst_push (m : ModeMachine) (e : Effect) :
    (m.push e).1 = { m with effects := m.effects.push e } := by
  unfold push BoundedList.push
  cases m.effects.push? e <;> rfl

/-- Orders put their effects at the end of the list, as many as find room, and change nothing
else. -/
theorem fst_obey (m : ModeMachine) (orders : List Order) :
    (m.obey orders).1 =
      { m with effects := .truncate (m.effects.items ++ Order.effects orders) } := by
  induction orders generalizing m with
  | nil =>
    have h : m.effects.items ++ Order.effects [] = m.effects.items := List.append_nil _
    rw [h, BoundedList.truncate_items]
    rfl
  | cons o rest ih =>
    cases o with
    | note n => exact ih m
    | effect e =>
      have hitems : Order.effects (.effect e :: rest) = [e] ++ Order.effects rest := rfl
      show ((m.push e).1.obey rest).1 = _
      rw [ih, fst_push, BoundedList.push_eq_truncate, BoundedList.truncate_append, hitems,
        List.append_assoc]

end ModeMachine

/-! ## What a command asks for -/

namespace Mode

/-- The effects that entering a mode asks for. -/
def entryEffects (pause : UInt32) (mode : Mode) : List Effect :=
  Order.effects (mode.entryOrders pause)

/-- The effects that a command leads to in a mode. -/
def effects (mode : Mode) (pause : UInt32) (fillPending : Bool) (command : Command) :
    List Effect :=
  Order.effects (mode.react fillPending command).orders ++
    match (mode.react fillPending command).next with
    | none => []
    | some next => next.entryEffects pause

@[simp] theorem entryEffects_idle (pause : UInt32) : entryEffects pause idle = [] := rfl

@[simp] theorem entryEffects_emptying (pause : UInt32) :
    entryEffects pause emptying =
      [.cancel .increase, .cancel .resume, .cancel .decrease, .startDecrease] := rfl

@[simp] theorem entryEffects_refilling (pause : UInt32) :
    entryEffects pause refilling =
      [.publishStable, .cancel .decrease, .cancel .increase, .schedule .resume pause] := rfl

@[simp] theorem entryEffects_alarmed (pause : UInt32) :
    entryEffects pause alarmed =
      [.cancel .decrease, .cancel .increase, .cancel .resume, .publishStable] := rfl

/-- A command either enters no mode and asks at most for `STABLE`, or asks for what the mode that
it enters asks for. The idle mode, which asks for nothing, is entered from the alarm only. -/
theorem effects_cases (mode : Mode) (pause : UInt32) (fillPending : Bool) (command : Command) :
    ((mode.react fillPending command).next = none ∧
      (mode.effects pause fillPending command = [] ∨
        mode.effects pause fillPending command = [.publishStable])) ∨
    ∃ next, (mode.react fillPending command).next = some next ∧
      mode.effects pause fillPending command = next.entryEffects pause ∧
      (next = idle → mode = alarmed) := by
  cases command with
  | fillRequest on =>
    cases mode with
    | idle | emptying | refilling =>
      cases on
      · exact .inr ⟨refilling, rfl, rfl, fun h => nomatch h⟩
      · exact .inr ⟨emptying, rfl, rfl, fun h => nomatch h⟩
    | alarmed =>
      cases on
      · exact .inl ⟨rfl, .inr rfl⟩
      · exact .inl ⟨rfl, .inl rfl⟩
  | alarm on =>
    cases on with
    | false =>
      cases mode with
      | idle | refilling => exact .inl ⟨rfl, .inl rfl⟩
      | emptying => exact .inr ⟨emptying, rfl, rfl, fun h => nomatch h⟩
      | alarmed =>
        cases fillPending
        · exact .inr ⟨idle, rfl, rfl, fun _ => rfl⟩
        · exact .inr ⟨emptying, rfl, rfl, fun h => nomatch h⟩
    | true =>
      cases mode <;> exact .inr ⟨alarmed, rfl, rfl, fun h => nomatch h⟩

/-- No mode asks for more than four effects on entry. -/
theorem length_entryEffects_le (pause : UInt32) (mode : Mode) :
    (mode.entryEffects pause).length ≤ 4 := by
  cases mode with
  | idle => exact Nat.zero_le 4
  | emptying | refilling | alarmed => exact Nat.le_refl 4

/-- No command leads to more than four effects. -/
theorem length_effects_le (mode : Mode) (pause : UInt32) (fillPending : Bool) (command : Command) :
    (mode.effects pause fillPending command).length ≤ 4 := by
  rcases effects_cases mode pause fillPending command with ⟨-, h | h⟩ | ⟨next, -, h, -⟩
  · rw [h]; decide
  · rw [h]; decide
  · rw [h]; exact length_entryEffects_le pause next

end Mode

namespace ModeMachine

/-- The machine after a command, with no effects waiting. -/
def after (m : ModeMachine) (command : Command) : ModeMachine :=
  let reaction := m.mode.react m.fillPending command
  { m with
    mode := reaction.next.getD m.mode
    fillPending := reaction.fillPending
    effects := .empty
    transitions := m.transitions + if reaction.next.isSome then 1 else 0 }

/-! ### A command, in parts

A machine that meets a command remembers what the command says of a fill request, puts the orders of
its mode into effect, and puts those of the next mode into effect if it enters one.
-/

/-- The machine that has remembered what a command says of a fill request. -/
def ready (m : ModeMachine) (c : Command) : ModeMachine :=
  { m with fillPending := (m.mode.react m.fillPending c).fillPending }

/-- The machine that has put the orders of its mode about a command into effect. -/
def reacted (m : ModeMachine) (c : Command) : ModeMachine :=
  ((m.ready c).obey (m.mode.react m.fillPending c).orders).1

/-- The machine that is in its next mode and has not put the orders of that into effect. -/
def entering (m : ModeMachine) (next : Mode) : ModeMachine :=
  { m with mode := next, transitions := m.transitions + 1 }

theorem handle_of_stays {m : ModeMachine} {c : Command}
    (h : (m.mode.react m.fillPending c).next = none) :
    m.handle c =
      (none, m.reacted c, ((m.ready c).obey (m.mode.react m.fillPending c).orders).2) := by
  simp only [handle, h]
  rfl

theorem handle_of_enters {m : ModeMachine} {c : Command} {next : Mode}
    (h : (m.mode.react m.fillPending c).next = some next) :
    m.handle c =
      (some next, (((m.reacted c).entering next).obey (next.entryOrders (m.reacted c).pause)).1,
        ((m.ready c).obey (m.mode.react m.fillPending c).orders).2 ++
          .modeTransition (m.reacted c).mode next ::
            (((m.reacted c).entering next).obey (next.entryOrders (m.reacted c).pause)).2) := by
  simp only [handle, h]
  rfl

theorem reacted_eq (m : ModeMachine) (c : Command) :
    m.reacted c = { m.ready c with
      effects := .truncate (m.effects.items ++
        Order.effects (m.mode.react m.fillPending c).orders) } :=
  fst_obey (m.ready c) _

theorem pause_reacted (m : ModeMachine) (c : Command) : (m.reacted c).pause = m.pause := by
  rw [reacted_eq]
  rfl

theorem fst_handle (m : ModeMachine) (c : Command) :
    (m.handle c).1 = (m.mode.react m.fillPending c).next := by
  cases hnext : (m.mode.react m.fillPending c).next with
  | none => rw [handle_of_stays hnext]
  | some next => rw [handle_of_enters hnext]

/-- A command puts what it leads to at the end of the list, as much as finds room. -/
theorem machine_handle (m : ModeMachine) (c : Command) :
    (m.handle c).2.1 = { m.after c with
      effects := .truncate (m.effects.items ++ m.mode.effects m.pause m.fillPending c) } := by
  unfold Mode.effects
  cases hnext : (m.mode.react m.fillPending c).next with
  | none =>
    rw [handle_of_stays hnext, List.append_nil]
    show m.reacted c = _
    simp only [reacted_eq, ready, after, hnext, Option.getD_none, Option.isSome_none,
      Bool.false_eq_true, if_false, Nat.add_zero]
  | some next =>
    rw [handle_of_enters hnext, fst_obey, pause_reacted]
    -- The orders of the command come first, and those of the entry go behind them.
    simp only [reacted_eq, ready, entering, after, hnext, BoundedList.truncate_append,
      List.append_assoc, Mode.entryEffects, Option.getD_some, Option.isSome_some, if_true]

/-! ### With no effects waiting -/

/-- A machine with no effects waiting that starts has then exactly the effects waiting that its mode
asks for on entry. -/
theorem start_of_empty (m : ModeMachine) (empty : m.effects = .empty) :
    m.start.1.takeEffects = (m.mode.entryEffects m.pause, m) := by
  have hitems : m.effects.items = [] := by rw [empty]; rfl
  have hmachine : { m with effects := .empty } = m := by rw [← empty]
  have hroom : (m.mode.entryEffects m.pause).length ≤ 8 :=
    Nat.le_trans (Mode.length_entryEffects_le m.pause m.mode) (by decide)
  show (m.obey (m.mode.entryOrders m.pause)).1.takeEffects = _
  rw [fst_obey, hitems, List.nil_append, ← Mode.entryEffects, BoundedList.truncate_of_fits hroom]
  simp only [takeEffects, hmachine]

/-- A machine with no effects waiting enters what the mode says and has then exactly the effects
waiting that the command leads to. -/
theorem handle_of_empty (m : ModeMachine) (command : Command) (empty : m.effects = .empty) :
    (m.handle command).1 = (m.mode.react m.fillPending command).next ∧
    (m.handle command).2.1.takeEffects =
      (m.mode.effects m.pause m.fillPending command, m.after command) := by
  have hitems : m.effects.items = [] := by rw [empty]; rfl
  have hroom : (m.mode.effects m.pause m.fillPending command).length ≤ 8 :=
    Nat.le_trans (Mode.length_effects_le m.mode m.pause m.fillPending command) (by decide)
  refine ⟨fst_handle m command, ?_⟩
  rw [machine_handle, hitems, List.nil_append, BoundedList.truncate_of_fits hroom]
  rfl

end ModeMachine

/-! ## The notes that a machine leaves -/

/-- Whether a note is one that a mode machine leaves. -/
def Note.isOfMode : Note → Bool
  | .modeStarting _ | .modeTransition .. | .effectDropped _ | .emptyingEntered
  | .refillingEntered _ | .alarmRaised | .alarmCleared | .fillDeferred | .fillWithdrawnInAlarm =>
    true
  | _ => false

/-- Whether an order asks for an effect, or for a note that a mode machine leaves. -/
def Order.isOfMode : Order → Bool
  | .note n => n.isOfMode
  | .effect _ => true

theorem Mode.isOfMode_of_mem_entryOrders {pause : UInt32} {mode : Mode} {o : Order}
    (h : o ∈ mode.entryOrders pause) : o.isOfMode := by
  have hall : (mode.entryOrders pause).all Order.isOfMode := by cases mode <;> rfl
  exact List.all_eq_true.mp hall o h

theorem Mode.isOfMode_of_mem_react (mode : Mode) (fillPending : Bool) (c : Command) {o : Order}
    (h : o ∈ (mode.react fillPending c).orders) : o.isOfMode := by
  have hall : (mode.react fillPending c).orders.all Order.isOfMode := by
    cases c with
    | fillRequest on | alarm on => cases mode <;> cases on <;> rfl
  exact List.all_eq_true.mp hall o h

namespace ModeMachine

theorem isOfMode_of_mem_obey {orders : List Order} (h : ∀ o ∈ orders, o.isOfMode)
    (m : ModeMachine) : ∀ n ∈ (m.obey orders).2, n.isOfMode := by
  induction orders generalizing m with
  | nil => exact fun n hmem => absurd hmem List.not_mem_nil
  | cons o rest ih =>
    have hfirst : ∀ n ∈ (m.obeyOne o).2, n.isOfMode := by
      cases o with
      | note n => exact List.forall_mem_singleton.mpr (h _ List.mem_cons_self)
      | effect e =>
        intro n hmem
        simp only [obeyOne, push] at hmem
        split at hmem
        · cases hmem
        · rw [List.mem_singleton.mp hmem]
          rfl
    intro n hmem
    rcases List.mem_append.mp hmem with hmem | hmem
    · exact hfirst n hmem
    · exact ih (fun o' ho' => h o' (List.mem_cons_of_mem o ho')) _ n hmem

/-- What is left in the journal when a mode is entered or a command is met is about modes. -/
theorem isOfMode_of_mem_handle (m : ModeMachine) (c : Command) :
    ∀ n ∈ (m.handle c).2.2, n.isOfMode := by
  intro n hmem
  have hreact (m' : ModeMachine) :=
    isOfMode_of_mem_obey (fun _ ho => Mode.isOfMode_of_mem_react m.mode m.fillPending c ho) m'
  cases hnext : (m.mode.react m.fillPending c).next with
  | none =>
    rw [handle_of_stays hnext] at hmem
    exact hreact _ n hmem
  | some next =>
    rw [handle_of_enters hnext] at hmem
    rcases List.mem_append.mp hmem with hmem | hmem
    · exact hreact _ n hmem
    · rcases List.mem_cons.mp hmem with rfl | hmem
      · rfl
      · exact isOfMode_of_mem_obey (fun o ho => Mode.isOfMode_of_mem_entryOrders ho) _ n hmem

theorem isOfMode_of_mem_start (m : ModeMachine) : ∀ n ∈ m.start.2, n.isOfMode := by
  intro n hmem
  rcases List.mem_cons.mp hmem with rfl | hmem
  · rfl
  · exact isOfMode_of_mem_obey (fun o ho => Mode.isOfMode_of_mem_entryOrders ho) m n hmem

end ModeMachine

/-! ### Effects that are dropped -/

namespace Mode

theorem effectDropped_not_mem_entryOrders (pause : UInt32) (mode : Mode) (e : Effect) :
    Order.note (.effectDropped e) ∉ mode.entryOrders pause := by
  cases mode <;> simp [entryOrders]

theorem effectDropped_not_mem_react (mode : Mode) (fillPending : Bool) (c : Command) (e : Effect) :
    Order.note (.effectDropped e) ∉ (mode.react fillPending c).orders := by
  cases c with
  | fillRequest on | alarm on => cases mode <;> cases on <;> simp [react]

end Mode

namespace ModeMachine

variable {m : ModeMachine} {e : Effect}

/-- Orders that drop an effect ask for more than finds room. -/
theorem lt_length_of_mem_obey {orders : List Order}
    (silent : ∀ e, Order.note (.effectDropped e) ∉ orders)
    (h : .effectDropped e ∈ (m.obey orders).2) :
    8 < m.effects.items.length + (Order.effects orders).length := by
  induction orders generalizing m with
  | nil => cases h
  | cons o rest ih =>
    have hrest : ∀ e, Order.note (.effectDropped e) ∉ rest :=
      fun e hmem => silent e (List.mem_cons_of_mem o hmem)
    have hobey : (m.obey (o :: rest)).2 = (m.obeyOne o).2 ++ ((m.obeyOne o).1.obey rest).2 := rfl
    rw [hobey] at h
    cases o with
    | note n =>
      rcases List.mem_append.mp h with hfirst | hlater
      · rw [← List.mem_singleton.mp hfirst] at silent
        exact absurd List.mem_cons_self (silent e)
      · exact ih hrest hlater
    | effect e' =>
      have hcount : (Order.effects (.effect e' :: rest)).length =
          (Order.effects rest).length + 1 := rfl
      by_cases room : m.effects.items.length < 8
      · rw [obeyOne, push_of_room room, List.nil_append] at h
        have hlater := ih hrest h
        rw [BoundedList.items_push_of_room room, List.length_append,
          List.length_singleton] at hlater
        omega
      · omega

/-- A command that drops an effect leads to more than finds room. -/
theorem lt_length_of_mem_handle {c : Command} (h : .effectDropped e ∈ (m.handle c).2.2) :
    8 < m.effects.items.length + (m.mode.effects m.pause m.fillPending c).length := by
  have hreact (h : .effectDropped e ∈ ((m.ready c).obey (m.mode.react m.fillPending c).orders).2) :
      8 < m.effects.items.length + (Order.effects (m.mode.react m.fillPending c).orders).length :=
    lt_length_of_mem_obey (m := m.ready c) (Mode.effectDropped_not_mem_react _ _ c) h
  rw [Mode.effects, List.length_append, ← Nat.add_assoc]
  cases hnext : (m.mode.react m.fillPending c).next with
  | none =>
    rw [handle_of_stays hnext] at h
    exact Nat.lt_add_right _ (hreact h)
  | some next =>
    rw [handle_of_enters hnext] at h
    rcases List.mem_append.mp h with hfirst | hmem
    · exact Nat.lt_add_right _ (hreact hfirst)
    · -- What is behind the transition comes from the entry.
      rcases List.mem_cons.mp hmem with heq | hlater
      · cases heq
      · have hentry := lt_length_of_mem_obey (Mode.effectDropped_not_mem_entryOrders _ next) hlater
        have hreacted : (m.reacted c).effects.items.length ≤ m.effects.items.length +
            (Order.effects (m.mode.react m.fillPending c).orders).length := by
          rw [reacted_eq, ← List.length_append]
          exact List.length_take_le' ..
        rw [pause_reacted] at hentry
        exact Nat.lt_of_lt_of_le hentry
          (Nat.add_le_add_right hreacted (next.entryEffects m.pause).length)

/-- A machine with no effects waiting drops none when it starts. -/
theorem effectDropped_not_mem_start (empty : m.effects = .empty) :
    .effectDropped e ∉ m.start.2 := by
  intro h
  rcases List.mem_cons.mp h with heq | hmem
  · cases heq
  · have hlong := lt_length_of_mem_obey (Mode.effectDropped_not_mem_entryOrders _ _) hmem
    have hfour := Mode.length_entryEffects_le m.pause m.mode
    have hnone : m.effects.items.length = 0 := by rw [empty]; rfl
    rw [Mode.entryEffects] at hfour
    omega

/-- A machine with no effects waiting drops none when it meets a command. -/
theorem effectDropped_not_mem_handle (empty : m.effects = .empty) (c : Command) :
    .effectDropped e ∉ (m.handle c).2.2 := by
  intro h
  have hlong := lt_length_of_mem_handle h
  have hfour := Mode.length_effects_le m.mode m.pause m.fillPending c
  have hnone : m.effects.items.length = 0 := by rw [empty]; rfl
  omega

end ModeMachine

end TankGauge
