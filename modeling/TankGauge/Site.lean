import TankGauge.Note
import TankGauge.Timer.Queue

/-!
# The site of a node

A site is all that a node acts on: the clock and its timers, the transport, and the journal. The
journal holds every call that the node makes and its answer, every event and every note, newest
first, so that what was done last stands at its head.
-/

namespace TankGauge

/-- An entry of the journal. -/
inductive Entry
  /-- A session was asked for. -/
  | connect (session : SessionParams) (answer : Answer)
  /-- The messages on a topic were asked for. -/
  | subscribe (topic : Topic) (qos : QoS) (answer : Answer)
  /-- A message was handed to the transport. -/
  | publish (topic : Topic) (payload : String) (qos : QoS) (retain : Bool) (answer : Answer)
  /-- A timer was armed. -/
  | schedule (role : TimerRole) (delay : UInt32)
  /-- A timer was disarmed, if it was armed. -/
  | cancel (role : TimerRole) (wasArmed : Bool)
  /-- The clock reached a deadline. -/
  | fire (role : TimerRole) (deadline : Nat)
  | event (e : Event)
  | note (n : Note)
deriving DecidableEq, Repr

/-- The clock, the armed timers, the transport, and what has happened. -/
structure Site (τ : Type) where
  now : Nat := 0
  timers : TimerQueue := {}
  transport : τ
  /-- What has happened, newest first. -/
  journal : List Entry := []

namespace Site

variable {τ : Type}

/-- Adds an entry to the journal. -/
def record (s : Site τ) (e : Entry) : Site τ := { s with journal := e :: s.journal }

/-- Lets the outside know of an event. -/
def emit (s : Site τ) (e : Event) : Site τ := s.record (.event e)

/-- Leaves a note. -/
def note (s : Site τ) (n : Note) : Site τ := s.record (.note n)

/-- Leaves notes in order. -/
def noteAll (s : Site τ) (notes : List Note) : Site τ := notes.foldl note s

/-- Arms a timer. -/
def schedule (s : Site τ) (r : TimerRole) (delay : UInt32) : Site τ :=
  let armed := { s with timers := s.timers.schedule r delay s.now }.record (.schedule r delay)
  if s.timers.isArmed r then armed.note (.timerRearmed r) else armed

/-- Disarms a timer. -/
def cancel (s : Site τ) (r : TimerRole) : Site τ :=
  { s with timers := s.timers.cancel r }.record (.cancel r (s.timers.isArmed r))

/-! ## Calls of the transport -/

variable [Transport τ]

/-- Asks for a session. -/
def connect (s : Site τ) (session : SessionParams) : Answer × Site τ :=
  let (answer, transport) := Transport.connect s.transport session
  (answer, { s with transport }.record (.connect session answer))

/-- Asks for the messages on a topic. -/
def subscribe (s : Site τ) (topic : Topic) (qos : QoS) : Answer × Site τ :=
  let (answer, transport) := Transport.subscribe s.transport topic.text qos
  (answer, { s with transport }.record (.subscribe topic qos answer))

/-- Hands a message to the transport. -/
def publish (s : Site τ) (topic : Topic) (payload : String) (qos : QoS) (retain : Bool) :
    Answer × Site τ :=
  let (answer, transport) :=
    Transport.publish s.transport topic.text (Bytes.utf8 payload) qos retain
  (answer, { s with transport }.record (.publish topic payload qos retain answer))

/-! ## What each action leaves alone

Events and notes are entries of the journal, so that the lemmas on `record` speak of them too.
-/

section

variable (s : Site τ)

omit [Transport τ]

@[simp] theorem emit_eq_record (e : Event) : s.emit e = s.record (.event e) := rfl

@[simp] theorem note_eq_record (n : Note) : s.note n = s.record (.note n) := rfl

@[simp] theorem now_record (e : Entry) : (s.record e).now = s.now := rfl

@[simp] theorem timers_record (e : Entry) : (s.record e).timers = s.timers := rfl

@[simp] theorem transport_record (e : Entry) : (s.record e).transport = s.transport := rfl

@[simp] theorem journal_record (e : Entry) : (s.record e).journal = e :: s.journal := rfl

@[simp] theorem noteAll_nil : s.noteAll [] = s := rfl

@[simp] theorem noteAll_cons (n : Note) (notes : List Note) :
    s.noteAll (n :: notes) = (s.record (.note n)).noteAll notes := rfl

@[simp] theorem now_noteAll (notes : List Note) : (s.noteAll notes).now = s.now := by
  induction notes generalizing s with
  | nil => rfl
  | cons n rest ih => rw [noteAll_cons, ih, now_record]

@[simp] theorem timers_noteAll (notes : List Note) : (s.noteAll notes).timers = s.timers := by
  induction notes generalizing s with
  | nil => rfl
  | cons n rest ih => rw [noteAll_cons, ih, timers_record]

@[simp] theorem transport_noteAll (notes : List Note) :
    (s.noteAll notes).transport = s.transport := by
  induction notes generalizing s with
  | nil => rfl
  | cons n rest ih => rw [noteAll_cons, ih, transport_record]

@[simp] theorem now_schedule (r : TimerRole) (delay : UInt32) :
    (s.schedule r delay).now = s.now := by
  unfold schedule; split <;> rfl

@[simp] theorem timers_schedule (r : TimerRole) (delay : UInt32) :
    (s.schedule r delay).timers = s.timers.schedule r delay s.now := by
  unfold schedule; split <;> rfl

@[simp] theorem transport_schedule (r : TimerRole) (delay : UInt32) :
    (s.schedule r delay).transport = s.transport := by
  unfold schedule; split <;> rfl

@[simp] theorem now_cancel (r : TimerRole) : (s.cancel r).now = s.now := rfl

@[simp] theorem timers_cancel (r : TimerRole) : (s.cancel r).timers = s.timers.cancel r := rfl

@[simp] theorem transport_cancel (r : TimerRole) : (s.cancel r).transport = s.transport := rfl

@[simp] theorem journal_cancel (r : TimerRole) :
    (s.cancel r).journal = .cancel r (s.timers.isArmed r) :: s.journal := rfl

end

section

variable (s : Site τ) (session : SessionParams) (topic : Topic) (payload : String) (qos : QoS)
  (retain : Bool)

@[simp] theorem now_connect : (s.connect session).2.now = s.now := rfl

@[simp] theorem timers_connect : (s.connect session).2.timers = s.timers := rfl

@[simp] theorem journal_connect :
    (s.connect session).2.journal = .connect session (s.connect session).1 :: s.journal := rfl

@[simp] theorem now_subscribe : (s.subscribe topic qos).2.now = s.now := rfl

@[simp] theorem timers_subscribe : (s.subscribe topic qos).2.timers = s.timers := rfl

@[simp] theorem journal_subscribe :
    (s.subscribe topic qos).2.journal =
      .subscribe topic qos (s.subscribe topic qos).1 :: s.journal := rfl

@[simp] theorem now_publish : (s.publish topic payload qos retain).2.now = s.now := rfl

@[simp] theorem timers_publish : (s.publish topic payload qos retain).2.timers = s.timers := rfl

@[simp] theorem journal_publish :
    (s.publish topic payload qos retain).2.journal =
      .publish topic payload qos retain (s.publish topic payload qos retain).1 :: s.journal :=
  rfl

end

end Site

end TankGauge
