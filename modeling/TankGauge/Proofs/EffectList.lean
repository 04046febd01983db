import TankGauge.Proofs.Actions
import TankGauge.Proofs.Happenings

/-!
# What becomes of effects

Effects are asked for one by one and wait in a list until they are taken. The list holds eight, so
that whoever takes it gets the first eight of what was asked for since it was last taken, in that
order (`ModeMachine.effects_callAll`).

A node makes its calls in pairs: it lets its machine start or meet a command, and takes the effects
at once (`Node.machine_respond`). Between two callbacks none wait, and no such call asks for more
than four. So the list never holds more than four on the way
(`ModeMachine.length_le_of_mem_stages`), no effect is ever dropped (`Node.dropped_run`), and each is
carried out once, in its place, in the callback that it was asked for in (`Node.respond_of_calls`).
-/

namespace TankGauge

/-- A call to a mode machine. -/
inductive MachineCall
  | push (e : Effect)
  | start
  | handle (c : Command)
  | takeEffects
deriving DecidableEq, Repr

namespace ModeMachine

/-! ## Calls and what they ask for -/

/-- The machine after a call. -/
def call (m : ModeMachine) : MachineCall → ModeMachine
  | .push e => (m.push e).1
  | .start => m.start.1
  | .handle c => (m.handle c).2.1
  | .takeEffects => m.takeEffects.2

/-- The machine after calls, one after the other. -/
def callAll (m : ModeMachine) (calls : List MachineCall) : ModeMachine := calls.foldl call m

/-- The effects that a call asks for: those that it names, or those that a mode asks for on entry,
behind those that the mode before it asked for about the command. -/
def asks (m : ModeMachine) : MachineCall → List Effect
  | .push e => [e]
  | .start => m.mode.entryEffects m.pause
  | .handle c => m.mode.effects m.pause m.fillPending c
  | .takeEffects => []

/-- What has been asked for and not been taken after a call, if it was `earlier` before. -/
def owes (m : ModeMachine) (earlier : List Effect) : MachineCall → List Effect
  | .takeEffects => []
  | call => earlier ++ m.asks call

/-- What has been asked for and not been taken after calls, if it was `earlier` before. -/
def owesAfter (m : ModeMachine) (earlier : List Effect) : List MachineCall → List Effect
  | [] => earlier
  | call :: rest => (m.call call).owesAfter (m.owes earlier call) rest

variable {m : ModeMachine}

/-! ### Calls, one after the other -/

/-- The list holds the first eight of what has been asked for and not been taken. -/
theorem effects_call {earlier : List Effect} (h : m.effects = .truncate earlier)
    (call : MachineCall) : (m.call call).effects = .truncate (m.owes earlier call) := by
  cases call with
  | push e =>
    show (m.push e).1.effects = .truncate (earlier ++ [e])
    rw [fst_push, BoundedList.push_eq_truncate, h, BoundedList.truncate_append]
  | start =>
    show (m.obey (m.mode.entryOrders m.pause)).1.effects =
      .truncate (earlier ++ m.mode.entryEffects m.pause)
    rw [fst_obey, h, BoundedList.truncate_append, Mode.entryEffects]
  | handle c =>
    show (m.handle c).2.1.effects =
      .truncate (earlier ++ m.mode.effects m.pause m.fillPending c)
    rw [machine_handle, h, BoundedList.truncate_append]
  | takeEffects => rfl

/-- However many calls are made, the list holds the first eight of what has been asked for and not
been taken. -/
theorem effects_callAll {earlier : List Effect}
    (h : m.effects = .truncate earlier) (calls : List MachineCall) :
    (m.callAll calls).effects = .truncate (m.owesAfter earlier calls) := by
  induction calls generalizing m earlier with
  | nil => exact h
  | cons call rest ih => exact ih (effects_call h call)

/-! ## Inside a call -/

/-- The machines that orders lead through, the first and the last one included. -/
def through (m : ModeMachine) (orders : List Order) : List ModeMachine :=
  orders.scanl (fun m o => (m.obeyOne o).1) m

/-- The machines that a call leads through, the first and the last one included. -/
def stages (m : ModeMachine) : MachineCall → List ModeMachine
  | .push e => [m, (m.push e).1]
  | .start => m.through (m.mode.entryOrders m.pause)
  | .handle c =>
    (m.ready c).through (m.mode.react m.fillPending c).orders ++
      match (m.mode.react m.fillPending c).next with
      | none => []
      | some next =>
        ((m.reacted c).entering next).through (next.entryOrders (m.reacted c).pause)
  | .takeEffects => [m, m.takeEffects.2]

theorem fst_obey_eq_foldl (m : ModeMachine) (orders : List Order) :
    (m.obey orders).1 = orders.foldl (fun m o => (m.obeyOne o).1) m := by
  induction orders generalizing m with
  | nil => rfl
  | cons o rest ih => exact ih (m.obeyOne o).1

theorem getLast?_through (m : ModeMachine) (orders : List Order) :
    (m.through orders).getLast? = some (m.obey orders).1 := by
  rw [through, List.getLast?_scanl, fst_obey_eq_foldl]

/-- A call leads to the machine after it. -/
theorem getLast?_stages (m : ModeMachine) (call : MachineCall) :
    (m.stages call).getLast? = some (m.call call) := by
  cases call with
  | push | takeEffects => rfl
  | start => exact getLast?_through m _
  | handle c =>
    cases hnext : (m.mode.react m.fillPending c).next with
    | none =>
      simp only [stages, hnext, List.append_nil, getLast?_through, ModeMachine.call,
        handle_of_stays hnext]
      rfl
    | some next =>
      simp only [stages, hnext, List.getLast?_append, getLast?_through, ModeMachine.call,
        handle_of_enters hnext, Option.some_or]

theorem prefix_obey (m : ModeMachine) (orders : List Order) :
    m.effects.items <+: (m.obey orders).1.effects.items := by
  rw [fst_obey]
  exact m.effects.prefix_truncate _

/-- While orders are put into effect, the list only grows. -/
theorem prefix_of_mem_through {m m' : ModeMachine} {orders : List Order}
    (h : m' ∈ m.through orders) : m'.effects.items <+: (m.obey orders).1.effects.items := by
  induction orders generalizing m with
  | nil =>
    rw [List.mem_singleton.mp h]
    exact List.prefix_refl _
  | cons o rest ih =>
    rw [through, List.scanl_cons] at h
    rcases List.mem_cons.mp h with rfl | hmem
    · exact prefix_obey m' (o :: rest)
    · exact ih hmem

/-- Until it is taken, the list only grows. -/
theorem prefix_of_mem_stages {m m' : ModeMachine} {call : MachineCall}
    (waits : call ≠ .takeEffects) (h : m' ∈ m.stages call) :
    m'.effects.items <+: (m.call call).effects.items := by
  cases call with
  | push e =>
    rcases List.mem_cons.mp h with rfl | hmem
    · exact prefix_obey m' [.effect e]
    · rw [List.mem_singleton.mp hmem]
      exact List.prefix_refl _
  | start => exact prefix_of_mem_through h
  | handle c =>
    show m'.effects.items <+: (m.handle c).2.1.effects.items
    cases hnext : (m.mode.react m.fillPending c).next with
    | none =>
      simp only [stages, hnext, List.append_nil] at h
      rw [handle_of_stays hnext]
      exact prefix_of_mem_through h
    | some next =>
      simp only [stages, hnext] at h
      rw [handle_of_enters hnext]
      rcases List.mem_append.mp h with hmem | hmem
      · exact (prefix_of_mem_through hmem).trans (prefix_obey ((m.reacted c).entering next) _)
      · exact prefix_of_mem_through hmem
  | takeEffects => exact absurd rfl waits

/-- The machines that calls lead through, the first and the last one included. -/
def stagesAll (m : ModeMachine) : List MachineCall → List ModeMachine
  | [] => [m]
  | call :: rest => m.stages call ++ (m.call call).stagesAll rest

theorem getLast?_stagesAll (m : ModeMachine) (calls : List MachineCall) :
    (m.stagesAll calls).getLast? = some (m.callAll calls) := by
  induction calls generalizing m with
  | nil => rfl
  | cons call rest ih =>
    rw [stagesAll, List.getLast?_append, ih, Option.some_or]
    rfl

end ModeMachine

/-- Whether a call lets the mode of a machine ask for effects. -/
def MachineCall.asksMode : MachineCall → Bool
  | start | handle _ => true
  | push _ | takeEffects => false

namespace ModeMachine

variable {m : ModeMachine} {call : MachineCall}

/-- What a mode asks for at once is no more than four effects. -/
theorem length_asks_le (m : ModeMachine) (h : call.asksMode) :
    (m.asks call).length ≤ 4 := by
  cases call with
  | push | takeEffects => cases h
  | start => exact Mode.length_entryEffects_le m.pause m.mode
  | handle c => exact Mode.length_effects_le m.mode m.pause m.fillPending c

/-- A machine with no effects waiting that lets its mode ask for effects has then exactly these
waiting. -/
theorem items_call_of_empty (empty : m.effects = .empty) (h : call.asksMode) :
    (m.call call).effects.items = m.asks call := by
  have hcall := effects_call (show m.effects = .truncate [] from empty) call
  have howes : m.owes [] call = m.asks call := by
    cases call with
    | push | takeEffects => cases h
    | start | handle => rfl
  rw [hcall, howes]
  exact List.take_of_length_le (Nat.le_trans (m.length_asks_le h) (by decide))

/-- The list of a machine that lets its mode ask for effects, and is relieved of them then, never
holds more than four. -/
theorem length_le_of_mem_stages {m' : ModeMachine} (empty : m.effects = .empty)
    (h : call.asksMode) (hmem : m' ∈ m.stagesAll [call, .takeEffects]) :
    m'.effects.items.length ≤ 4 := by
  have hlength : (m.call call).effects.items.length ≤ 4 := by
    rw [items_call_of_empty empty h]
    exact m.length_asks_le h
  rcases List.mem_append.mp hmem with hmem | hmem
  · have hwaits : call ≠ .takeEffects := by
      rintro rfl
      cases h
    exact Nat.le_trans (prefix_of_mem_stages hwaits hmem).length_le hlength
  · simp only [stagesAll, stages, List.cons_append, List.nil_append, List.mem_cons,
      List.not_mem_nil, or_false] at hmem
    rcases hmem with rfl | rfl | rfl
    · exact hlength
    · exact Nat.zero_le 4
    · exact Nat.zero_le 4

theorem callAll_start (empty : m.effects = .empty) : m.callAll [.start, .takeEffects] = m := by
  show m.start.1.takeEffects.2 = m
  rw [start_of_empty m empty]

theorem callAll_handle (empty : m.effects = .empty) (c : Command) :
    m.callAll [.handle c, .takeEffects] = m.after c := by
  obtain ⟨-, htake⟩ := handle_of_empty m c empty
  show (m.handle c).2.1.takeEffects.2 = m.after c
  rw [htake]

end ModeMachine

/-! ## The node

A node calls its machine in pairs: what it lets the machine ask for, it takes at once. To carry
effects out is to act on the gauge, the policy and the site, so that no effect asks for another.
-/

/-- The effect that an entry tells to have been dropped. -/
def Entry.dropped? : Entry → Option Effect
  | .note (.effectDropped e) => some e
  | _ => none

namespace Node

open Site

variable {τ : Type} [Transport τ] (n : Node) (s : Site τ)

section

omit [Transport τ]

/-- The calls that a node makes to its machine in a callback. -/
def calls (n : Node) : Callback → List MachineCall
  | .start => [.start, .takeEffects]
  | c =>
    match c.command? n.pending with
    | none => []
    | some command => [.handle command, .takeEffects]

variable {n} {c : Callback}

theorem calls_of_command {command : Command} (h : c.command? n.pending = some command) :
    n.calls c = [.handle command, .takeEffects] := by
  cases c with
  | start => cases h
  | connection | topic | payload | command | timer => simp only [calls, h]

theorem calls_of_no_command (started : c ≠ .start) (h : c.command? n.pending = none) :
    n.calls c = [] := by
  cases c with
  | start => exact absurd rfl started
  | connection | topic | payload | command | timer => simp only [calls, h]

/-- A callback makes no call to the machine, or lets its mode ask for effects and takes these at
once. -/
theorem calls_cases (n : Node) (c : Callback) :
    n.calls c = [] ∨ ∃ call : MachineCall, call.asksMode ∧ n.calls c = [call, .takeEffects] := by
  by_cases hstart : c = .start
  · rw [hstart]
    exact .inr ⟨.start, rfl, rfl⟩
  · cases h : c.command? n.pending with
    | none => exact .inl (calls_of_no_command hstart h)
    | some command => exact .inr ⟨.handle command, rfl, calls_of_command h⟩

end

/-- The machine of a node is called as `calls` says, and by nothing else. -/
theorem machine_respond (settled : n.Settled) (c : Callback) :
    (respond c n s).1.machine = n.machine.callAll (n.calls c) := by
  rw [(responds n s settled c).machine_eq settled]
  by_cases hstart : c = .start
  · subst hstart
    exact (ModeMachine.callAll_start settled).symm
  · cases h : c.command? n.pending with
    | none => rw [calls_of_no_command hstart h]; rfl
    | some command => rw [calls_of_command h, ModeMachine.callAll_handle settled]; rfl

/-- What is left to do in a callback when its effects have been carried out. -/
def conclude : Callback → Node × Site τ → Node × Site τ
  | .start, (n, s) =>
    n.connect ((s.emit (.started n.machine.mode)).note (.nodeStarted n.machine.mode n.gauge.level))
  | _, state => state

theorem conclude_of_ne_start {c : Callback} (h : c ≠ .start) (state : Node × Site τ) :
    conclude c state = state := by
  cases c with
  | start => exact absurd rfl h
  | connection | topic | payload | command | timer => rfl

/-- A callback that brings a command leaves no more than a remark before the command is met. -/
theorem exists_remarked_handleCommand {c : Callback} {command : Command}
    (brought : c.command? n.pending = some command) :
    ∃ pending s', s.Acted Action.isRemark s' ∧
      respond c n s = { n with pending }.handleCommand command s' := by
  cases c with
  | start | connection | topic | timer => cases brought
  | command c =>
    obtain rfl : c = command := Option.some.inj brought
    exact ⟨n.pending, s, .refl, rfl⟩
  | payload data last =>
    cases last with
    | false => cases brought
    | true => exact ⟨.none, _, Acted.refl.note rfl, onPayload_of_command n s brought⟩

/-- A callback that calls the machine has exactly what the mode asks for carried out, in order, on a
site where no more than remarks have been left so far. -/
theorem respond_of_calls (settled : n.Settled) {c : Callback} {call : MachineCall}
    (h : n.calls c = [call, .takeEffects]) :
    ∃ pending s', s.Acted Action.isRemark s' ∧
      respond c n s =
        conclude c ({ n with pending, machine := n.machine.callAll (n.calls c) }.applyEffects s'
          (n.machine.asks call)) := by
  by_cases hstart : c = .start
  · subst hstart
    obtain rfl : MachineCall.start = call := (List.cons.inj h).1
    refine ⟨n.pending, s.noteAll n.machine.start.2, Acted.refl.noteAll (fun _ _ => rfl), ?_⟩
    rw [h, ModeMachine.callAll_start settled]
    exact start_eq n s settled
  · cases hcommand : c.command? n.pending with
    | none =>
      rw [calls_of_no_command hstart hcommand] at h
      cases h
    | some command =>
      rw [calls_of_command hcommand] at h ⊢
      obtain rfl : MachineCall.handle command = call := (List.cons.inj h).1
      obtain ⟨pending, s', hremarked, hrespond⟩ := exists_remarked_handleCommand n s hcommand
      let n' := { n with pending }
      have hheard : s'.Acted Action.isRemark (n'.heard s' command) :=
        acted_heard_of_allowed n' s' rfl (fun _ _ => rfl) (fun _ _ => rfl)
      refine ⟨pending, n'.heard s' command, hremarked.trans hheard, ?_⟩
      rw [hrespond, conclude_of_ne_start hstart, ModeMachine.callAll_handle settled]
      exact handleCommand_eq n' s' settled command

/-! ### The journal tells of no effect that was dropped -/

omit [Transport τ] in
theorem dropped_of_record {e : Entry} (h : e.dropped? = none) :
    (s.record e).view Entry.dropped? = s.view Entry.dropped? := by
  rw [view_record, h]
  rfl

theorem dropped_perform {a : Action} (h : a.keepsEffects) :
    (s.perform a).view Entry.dropped? = s.view Entry.dropped? := by
  cases a with
  | tell e => exact dropped_of_record s rfl
  | note n =>
    cases n with
    | effectDropped => cases h
    | _ => exact dropped_of_record s rfl
  | arm role delay => exact view_schedule s _ (fun _ => rfl) role delay
  | disarm role => exact view_cancel s _ role
  | connect session => exact view_connect s _ session
  | subscribe topic qos => exact view_subscribe s _ topic qos
  | publish topic payload qos retain => exact view_publish s _ topic payload qos retain

/-- Whatever happens to a node with no effects waiting, none is dropped. -/
theorem dropped_apply (happening : Happening τ) (settled : n.Settled) :
    (happening.apply respond (n, s)).2.view Entry.dropped? = s.view Entry.dropped? := by
  have hrespond (c : Callback) (s : Site τ) :=
    (acted_respond_keepsEffects n s settled c).frame (Site.view Entry.dropped?)
      (fun s _ h => dropped_perform s h)
  exact happening.journal_apply (P := fun journal => journal.filterMap Entry.dropped? = _)
    (fun c s' before => (hrespond c s').trans before) (fun _ _ before => before) rfl

/-- No run of a node drops an effect. -/
theorem dropped_run {state : Node × Site τ} (settled : state.1.Settled) (hs : List (Happening τ)) :
    (run respond state hs).2.view Entry.dropped? = state.2.view Entry.dropped? := by
  induction hs generalizing state with
  | nil => rfl
  | cons h rest ih =>
    rw [run_cons, ih (settled_apply h state.1 state.2 settled)]
    exact dropped_apply state.1 state.2 h settled

/-! ### No effect is lost -/

/-- Whoever takes the effects of a machine gets exactly the first eight of what has been asked for
since they were last taken, in the order in which it was asked for, and leaves none behind. What a
mode asks for about a command is asked for whether or not the command enters a mode.

In any run of a node no effects wait between two callbacks, and none has ever been dropped. A
callback either makes no call to the machine, or lets its mode ask for effects and takes these at
once. On the way the machine never has more than four of them waiting. All of them are carried out
in that callback, in order, and each once: before them no more than remarks are left on the site,
and behind them nothing is done but that a node that starts says so and asks for a session. -/
theorem carries_out_what_is_asked (c : Config) (session : SessionParams) (now : Nat) (t : τ)
    (hs : List (Happening τ)) :
    (∀ (m : ModeMachine) (calls : List MachineCall),
      (m.callAll calls).takeEffects =
        ((m.owesAfter m.effects.items calls).take 8, { m.callAll calls with effects := .empty })) ∧
    (∀ (m : ModeMachine) (command : Command), (m.handle command).1 = none →
      m.asks (.handle command) =
        Order.effects (m.mode.react m.fillPending command).orders) ∧
    let (n, s) := run respond (fresh c session now t) hs
    n.machine.effects = .empty ∧ (∀ e, Entry.note (.effectDropped e) ∉ s.journal) ∧
      ∀ callback,
        (n.machine.stagesAll (n.calls callback)).getLast? = some (respond callback n s).1.machine ∧
        (∀ m ∈ n.machine.stagesAll (n.calls callback), m.effects.items.length ≤ 4) ∧
        (n.calls callback = [] ∨
          ∃ call, n.calls callback = [call, .takeEffects] ∧
            ∃ pending s', s.Acted Action.isRemark s' ∧
              respond callback n s =
                conclude callback
                  ({ n with pending, machine := n.machine.callAll (n.calls callback) }.applyEffects
                    s' (n.machine.asks call))) := by
  refine ⟨fun m calls => ?_, fun m command stays => ?_, ?_⟩
  · have heffects := ModeMachine.effects_callAll (BoundedList.truncate_items m.effects).symm calls
    rw [ModeMachine.takeEffects, heffects]
    rfl
  · rw [ModeMachine.fst_handle] at stays
    rw [ModeMachine.asks, Mode.effects, stays, List.append_nil]
  have hfresh : (fresh c session now t).1.Settled := settled_ofConfig c session
  have hsettled := settled_run hfresh hs
  have hdropped := dropped_run hfresh hs
  generalize run respond (fresh c session now t) hs = x at hsettled hdropped ⊢
  obtain ⟨n, s⟩ := x
  refine ⟨hsettled, fun e hmem => ?_, fun callback => ⟨?_, ?_, ?_⟩⟩
  · exact Option.some_ne_none e (List.filterMap_eq_nil_iff.mp hdropped _ hmem)
  · rw [ModeMachine.getLast?_stagesAll, machine_respond n s hsettled]
  · rcases calls_cases n callback with hcalls | ⟨call, hasks, hcalls⟩
    · rw [hcalls]
      intro m hmem
      rw [List.mem_singleton.mp hmem, show n.machine.effects = _ from hsettled]
      exact Nat.zero_le 4
    · rw [hcalls]
      exact fun m hmem => ModeMachine.length_le_of_mem_stages hsettled hasks hmem
  · rcases calls_cases n callback with hcalls | ⟨call, -, hcalls⟩
    · exact .inl hcalls
    · exact .inr ⟨call, hcalls, respond_of_calls n s hsettled hcalls⟩

/-- A fill request that is withdrawn in an alarm enters no mode, and that the level is stable is
told all the same. -/
theorem carries_out_stable_in_alarm :
    let x := run respond (fresh {} (Bench.session {}) 0 ({} : Scripted))
      [.callback (.command (.alarm true))]
    let withdrawal : Callback := .command (.fillRequest false)
    let asking := x.1.machine.call (.handle (.fillRequest false))
    (x.1.machine.handle (.fillRequest false)).1 = none ∧
      x.1.machine.asks (.handle (.fillRequest false)) = [.publishStable] ∧
      asking ∈ x.1.machine.stagesAll (x.1.calls withdrawal) ∧ asking.effects.items.length ≤ 4 ∧
      ∃ pending s', x.2.Acted Action.isRemark s' ∧
        respond withdrawal x.1 x.2 =
          { x.1 with
            pending, machine := x.1.machine.callAll (x.1.calls withdrawal) }.applyEffects s'
            [.publishStable] := by
  obtain ⟨-, hstays, -, -, hcallback⟩ := carries_out_what_is_asked {} (Bench.session {}) 0
    ({} : Scripted) [.callback (.command (.alarm true))]
  obtain ⟨-, hlength, hcalls⟩ := hcallback (.command (.fillRequest false))
  intro x withdrawal asking
  have hnone : (x.1.machine.handle (.fillRequest false)).1 = none := rfl
  have hasking : asking ∈ x.1.machine.stagesAll (x.1.calls withdrawal) :=
    List.mem_append_left _ (List.mem_of_getLast? (ModeMachine.getLast?_stages _ _))
  refine ⟨hnone, hstays _ _ hnone, hasking, hlength _ hasking, ?_⟩
  rcases hcalls with hnil | ⟨call, hcall, pending, s', hremarked, hrespond⟩
  · cases hnil
  · obtain rfl : MachineCall.handle (.fillRequest false) = call := (List.cons.inj hcall).1
    exact ⟨pending, s', hremarked, hrespond⟩

end Node

end TankGauge
