import TankGauge.Note

/-!
# The mode machine

A command meets the current mode. The mode may stay, move to another mode, or enter itself again,
which does all that entering does; in each case it may leave notes and ask for effects. Entering a
mode cancels every timer that the mode must not inherit, so leaving one has nothing to do.

A fill request that comes during an alarm is only remembered, and decides where the end of the
alarm leads.

## Shape of the machine

`Mode.react` says what a mode makes of a command and `Mode.entryOrders` what entering it asks for;
both are plain data. `ModeMachine.obey` puts the orders into effect one by one: a note is left, an
effect goes to the end of a list of at most eight, and an effect without room is dropped with a
note. `ModeMachine.takeEffects` hands the list over and leaves it empty.
-/

namespace TankGauge

/-- What a mode asks for: that a note is left, or that something is done. -/
inductive Order
  | note (n : Note)
  | effect (e : Effect)
deriving DecidableEq, Repr

/-- What a mode makes of a command: the mode to enter, if any, whether a fill request waits for
the end of an alarm, and what is asked for before the mode is entered. -/
structure Reaction where
  next : Option Mode
  fillPending : Bool
  orders : List Order := []
deriving DecidableEq, Repr

namespace Mode

/-- What a mode makes of a command. -/
def react (mode : Mode) (fillPending : Bool) (command : Command) : Reaction :=
  match mode, command with
  | idle, .fillRequest true => ⟨some emptying, fillPending, []⟩
  | idle, .fillRequest false => ⟨some refilling, fillPending, []⟩
  | idle, .alarm true => ⟨some alarmed, false, []⟩
  | idle, .alarm false => ⟨none, fillPending, []⟩
  | emptying, .fillRequest true => ⟨some emptying, fillPending, []⟩
  | emptying, .fillRequest false => ⟨some refilling, fillPending, []⟩
  | emptying, .alarm true => ⟨some alarmed, true, []⟩
  -- The end of an alarm that was never raised still starts the walk anew.
  | emptying, .alarm false => ⟨some emptying, fillPending, []⟩
  | refilling, .fillRequest true => ⟨some emptying, fillPending, []⟩
  | refilling, .fillRequest false => ⟨some refilling, fillPending, []⟩
  | refilling, .alarm true => ⟨some alarmed, false, []⟩
  | refilling, .alarm false => ⟨none, fillPending, []⟩
  | alarmed, .fillRequest true => ⟨none, true, [.note .fillDeferred]⟩
  | alarmed, .fillRequest false =>
    ⟨none, false, [.note .fillWithdrawnInAlarm, .effect .publishStable]⟩
  | alarmed, .alarm true => ⟨some alarmed, fillPending, []⟩
  | alarmed, .alarm false =>
    ⟨some (if fillPending then emptying else idle), fillPending, [.note .alarmCleared]⟩

/-- What entering a mode asks for, given the pause before a refill. -/
def entryOrders (pause : UInt32) : Mode → List Order
  | idle => []
  | emptying =>
    [.note .emptyingEntered, .effect (.cancel .increase), .effect (.cancel .resume),
      -- A walk that starts anew must not leave the old one walking beside it.
      .effect (.cancel .decrease), .effect .startDecrease]
  | refilling =>
    [.note (.refillingEntered pause), .effect .publishStable, .effect (.cancel .decrease),
      .effect (.cancel .increase), .effect (.schedule .resume pause)]
  | alarmed =>
    [.note .alarmRaised, .effect (.cancel .decrease), .effect (.cancel .increase),
      .effect (.cancel .resume), .effect .publishStable]

end Mode

/-- At most eight effects wait to be carried out. -/
abbrev Effects := BoundedList Effect 8

/-- The current mode, what is remembered beside it, and the effects asked for. -/
structure ModeMachine where
  mode : Mode := .idle
  /-- Whether a fill request waits for the end of an alarm. It has a meaning only in an alarm. -/
  fillPending : Bool := false
  /-- How long a refill waits after a fill request has ended. -/
  pause : UInt32
  /-- What has been asked for and not been taken yet, in order. -/
  effects : Effects := .empty
  /-- How many times a mode has been entered after the start. -/
  transitions : Nat := 0
deriving DecidableEq, Repr

namespace ModeMachine

/-- Adds an effect to the list. -/
def push (m : ModeMachine) (e : Effect) : ModeMachine × List Note :=
  match m.effects.push? e with
  | some effects => ({ m with effects }, [])
  | none => (m, [.effectDropped e])

/-- Puts one order into effect. -/
def obeyOne (m : ModeMachine) : Order → ModeMachine × List Note
  | .note n => (m, [n])
  | .effect e => m.push e

/-- Puts orders into effect, one after the other. -/
def obey (m : ModeMachine) : List Order → ModeMachine × List Note
  | [] => (m, [])
  | o :: rest =>
    let (m, first) := m.obeyOne o
    let (m, others) := m.obey rest
    (m, first ++ others)

/-- Does what entering the current mode asks for, at the very start. -/
def start (m : ModeMachine) : ModeMachine × List Note :=
  let (n, notes) := m.obey (m.mode.entryOrders m.pause)
  (n, .modeStarting m.mode :: notes)

/-- Enters a mode. -/
def enter (m : ModeMachine) (next : Mode) : ModeMachine × List Note :=
  let entered := { m with mode := next, transitions := m.transitions + 1 }
  let (n, notes) := entered.obey (next.entryOrders m.pause)
  (n, .modeTransition m.mode next :: notes)

/-- Lets the current mode react to a command. Gives the mode entered, if any. -/
def handle (m : ModeMachine) (command : Command) : Option Mode × ModeMachine × List Note :=
  let reaction := m.mode.react m.fillPending command
  let (m, before) := { m with fillPending := reaction.fillPending }.obey reaction.orders
  match reaction.next with
  | none => (none, m, before)
  | some next =>
    let (m, after) := m.enter next
    (some next, m, before ++ after)

/-- Hands the effects over and leaves none behind. -/
def takeEffects (m : ModeMachine) : List Effect × ModeMachine :=
  (m.effects.items, { m with effects := .empty })

end ModeMachine

end TankGauge
