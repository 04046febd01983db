import TankGauge.Event
import TankGauge.Text.Quoted

/-!
# Notes

Besides events a node leaves notes in the log about what it does and why. A note keeps its
subject; `Note.line` is its log line.
-/

namespace TankGauge

/-- A remark on what a node does. -/
inductive Note
  /-- The mode machine starts. -/
  | modeStarting (mode : Mode)
  /-- The mode machine enters a mode. -/
  | modeTransition (before after : Mode)
  /-- A mode asked for an effect that the list has no room for. -/
  | effectDropped (effect : Effect)
  | emptyingEntered
  | refillingEntered (pause : UInt32)
  | alarmRaised
  | alarmCleared
  /-- A fill request came during an alarm and waits for its end. -/
  | fillDeferred
  /-- A fill request was withdrawn during an alarm. -/
  | fillWithdrawnInAlarm
  | nodeStarted (mode : Mode) (level : UInt8)
  /-- A timer fired that the mode has no use for. -/
  | staleTimer (role : TimerRole) (mode : Mode)
  /-- A timer was armed that had not fired yet. -/
  | timerRearmed (role : TimerRole)
  /-- The gauge is at the end of its scale. -/
  | gaugeSettled (level : UInt8)
  | topicSeen (topic : String) (pending : PendingTopic)
  /-- A part of a payload came that is not the last. -/
  | partSkipped (length : Nat)
  | payloadSeen (payload : Bytes) (pending : PendingTopic)
  /-- A session was asked for while there is one already. -/
  | connectRefused (status : ConnectionStatus)
  | connecting (broker : Endpoint) (clientId : ClientId) (attempt : Nat)
  | connectFailed (reason : TransportError)
  | sessionRejected
  | sessionDropped
  | identity (session : SessionParams)
  /-- News of a session came that is not the current one. -/
  | staleEvent (event : SessionEvent) (current : Nat)
  | workerExiting
deriving DecidableEq, Repr

/-- A payload as a log line shows it: in quotes, unless it is no text. -/
def Bytes.shown (payload : Bytes) : String :=
  Text.quoted ((ofUtf8? payload).getD "<binary>")

/-- A piece of news as a log line shows it. -/
def NetEvent.shown : NetEvent → String
  | .connection event => "Connection(" ++ event.name ++ ")"
  | .publish topic payload =>
    "Publish \x7b topic: " ++ Text.quoted topic ++ ", payload: " ++ Text.byteList payload ++ " \x7d"

/-- The log line of a note. -/
def Note.line : Note → LogLine
  | .modeStarting mode => ⟨.info, "FSM starting in mode: " ++ mode.name⟩
  | .modeTransition before after =>
    ⟨.info, "FSM transition: " ++ before.name ++ " -> " ++ after.name⟩
  | .effectDropped effect => ⟨.warn, "effect list full, dropping " ++ effect.name⟩
  | .emptyingEntered => ⟨.info, "fill requested: gauge decreasing"⟩
  | .refillingEntered pause =>
    ⟨.info, "fill withdrawn: refilling in " ++ toString pause.toNat ++ " ms"⟩
  | .alarmRaised => ⟨.warn, "alarm raised: gauge frozen"⟩
  | .alarmCleared => ⟨.info, "alarm cleared"⟩
  | .fillDeferred => ⟨.warn, "fill request ON deferred while alarmed"⟩
  | .fillWithdrawnInAlarm => ⟨.warn, "fill request OFF while alarmed"⟩
  | .nodeStarted mode level =>
    ⟨.info, "TankNode started in " ++ mode.name ++ ", level " ++ toString level.toNat⟩
  | .staleTimer role mode =>
    ⟨.debug, "stale " ++ role.name ++ " timer ignored in " ++ mode.name⟩
  | .timerRearmed role => ⟨.debug, "timer " ++ role.name ++ " re-armed"⟩
  | .gaugeSettled level => ⟨.info, "gauge settled at " ++ toString level.toNat⟩
  | .topicSeen topic pending =>
    ⟨.debug, "inbound publish on '" ++ topic ++ "' -> " ++ pending.name⟩
  | .partSkipped length =>
    ⟨.debug, "partial payload chunk of " ++ toString length ++ " bytes skipped"⟩
  | .payloadSeen payload pending => ⟨.info, "payload " ++ payload.shown ++ " on " ++ pending.name⟩
  | .connectRefused status => ⟨.warn, "connect() refused: already " ++ status.name⟩
  | .connecting broker clientId attempt =>
    ⟨.info, "connecting to " ++ broker.text ++ " as " ++ clientId.text ++ " (attempt " ++
      toString attempt ++ ")"⟩
  | .connectFailed reason => ⟨.error, "connect request failed: " ++ reason.message⟩
  | .sessionRejected => ⟨.warn, "broker rejected the session"⟩
  | .sessionDropped => ⟨.warn, "session dropped"⟩
  | .identity session =>
    ⟨.info, "client id " ++ session.clientId.text ++ " | broker " ++ session.broker.text ++
      " | keep-alive " ++ toString session.keepAlive.toNat ++ "s"⟩
  | .staleEvent event current =>
    ⟨.debug, "dropping " ++ event.event.shown ++ " from session " ++ toString event.session ++
      " (current " ++ toString current ++ ")"⟩
  | .workerExiting => ⟨.info, "event channel closed, worker exiting"⟩

end TankGauge
