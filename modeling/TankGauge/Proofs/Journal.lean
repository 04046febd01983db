import TankGauge.Node

/-!
# What a journal tells

A journal keeps every call and every event, newest first. A law of a node speaks of views of it:
the publications that were handed to the transport (`Site.attempts`), the commands that came in
(`Site.commands`), the walk timers that were armed (`Site.walkArmings`) and the timers that went
off (`Site.firings`). Each view is newest first as well.

A publication is handed over by a call that names a topic, and the event behind the call names the
channel. Two channels may share a topic, so an attempt takes its channel from the event and its
payload and answer from the call. That nothing is lost or added by this is `Node.calls_of_run`.
-/

namespace TankGauge

/-- A publication that was handed to the transport. -/
structure Attempt where
  channel : Channel
  payload : String
  answer : Answer
deriving DecidableEq, Repr

/-- What an attempt says, and on which channel. -/
def Attempt.told (a : Attempt) : Channel × String := (a.channel, a.payload)

/-- What a publication says, and on which channel. -/
def Publication.told (p : Publication) : Channel × String := (p.channel, p.payload.text)

theorem Publication.told_ofLevel (level : UInt8) :
    (ofLevel level).told = (.level, toString level.toNat) :=
  Prod.ext rfl (text_ofLevel level)

theorem Publication.told_ofTrend (trend : Trend) :
    (ofTrend trend).told = (.fillState, trend.word) :=
  Prod.ext rfl (text_ofTrend trend)

/-! ## The texts on one channel -/

/-- The text of something told, if it was told on a channel. -/
def textOn? (channel : Channel) (p : Channel × String) : Option String :=
  if p.1 = channel then some p.2 else none

/-- The texts that were handed over on a channel, latest first. -/
def textsOn (channel : Channel) (attempts : List Attempt) : List String :=
  (attempts.map Attempt.told).filterMap (textOn? channel)

/-- The texts of publications on a channel, in order. -/
def Publication.texts (channel : Channel) (ps : List Publication) : List String :=
  (ps.map told).filterMap (textOn? channel)

/-- What was told last on a channel is found first. -/
theorem lookup_eq_head? (channel : Channel) (told : List (Channel × String)) :
    told.lookup channel = (told.filterMap (textOn? channel)).head? := by
  induction told with
  | nil => rfl
  | cons p earlier ih =>
    obtain ⟨other, text⟩ := p
    by_cases h : other = channel
    · simp [textOn?, h]
    · have hne : (channel == other) = false := beq_false_of_ne (Ne.symm h)
      simp [List.lookup_cons, textOn?, h, hne, ih]

/-! ## Entries -/

/-- What an answer to a publication is told as. -/
def Publication.outcome (p : Publication) : Answer → Event
  | .taken => .published p
  | .refused reason => .publishFailed p.channel reason

namespace Entry

/-- The channel of the publication whose answer an entry tells of. -/
def answered? : Entry → Option Channel
  | .event (.published p) => some p.channel
  | .event (.publishFailed channel _) => some channel
  | _ => none

/-- Whether an entry is a call to publish. -/
def isPublish : Entry → Bool
  | .publish .. => true
  | _ => false

/-- Whether an entry is a call to publish or tells how one was answered. -/
def isPublishing : Entry → Bool
  | .publish .. | .event (.published _) | .event (.publishFailed ..) => true
  | _ => false

theorem isPublish_of_not_isPublishing {e : Entry} (h : e.isPublishing = false) :
    e.isPublish = false := by
  cases e with
  | publish => cases h
  | connect | subscribe | schedule | cancel | fire | event | note => rfl

theorem answered?_of_not_isPublishing {e : Entry} (h : e.isPublishing = false) :
    e.answered? = none := by
  cases e with
  | event e' => cases e' <;> first | rfl | cases h
  | connect | subscribe | publish | schedule | cancel | fire | note => rfl

/-- Whether an entry tells of something that an effect does: a publication, a timer armed or
disarmed, a note. -/
def isWork : Entry → Bool
  | .schedule .. | .cancel .. | .note _ => true
  | e => e.isPublishing

theorem isWork_of_isPublishing {e : Entry} (h : e.isPublishing) : e.isWork := by
  cases e with
  | schedule | cancel | note => rfl
  | connect | subscribe | publish | fire | event => exact h

/-- The command whose arrival an entry tells of. -/
def command? : Entry → Option Command
  | .event (.commandReceived c) => some c
  | _ => none

/-- The walk timer that an entry arms. -/
def walkArming? : Entry → Option TimerRole
  | .schedule role _ => if role.isWalk then some role else none
  | _ => none

/-- The timer whose going off an entry tells of. -/
def fired? : Entry → Option TimerRole
  | .fire role _ => some role
  | _ => none

theorem command?_of_isWork {e : Entry} (h : e.isWork) : e.command? = none := by
  cases e with
  | event e' => cases e' <;> first | rfl | exact absurd h Bool.false_ne_true
  | connect | subscribe | publish | schedule | cancel | fire | note => rfl

theorem walkArming?_of_isPublishing {e : Entry} (h : e.isPublishing) : e.walkArming? = none := by
  cases e with
  | schedule => exact absurd h Bool.false_ne_true
  | connect | subscribe | publish | cancel | fire | event | note => rfl

end Entry

theorem Publication.answered?_outcome (p : Publication) (answer : Answer) :
    (Entry.event (p.outcome answer)).answered? = some p.channel := by
  cases answer <;> rfl

/-- The publications that were handed over according to a journal, latest first. -/
def attemptsIn : List Entry → List Attempt
  | [] => []
  | e :: rest =>
    match e.answered?, rest.head? with
    | some channel, some (.publish _ payload _ _ answer) =>
      ⟨channel, payload, answer⟩ :: attemptsIn rest
    | _, _ => attemptsIn rest

/-- Where no publication is told of, there is no attempt. -/
theorem attemptsIn_append {news : List Entry} (h : ∀ e ∈ news, e.isPublishing = false)
    (journal : List Entry) : attemptsIn (news ++ journal) = attemptsIn journal := by
  induction news with
  | nil => rfl
  | cons e rest ih =>
    have hanswered := Entry.answered?_of_not_isPublishing (h e List.mem_cons_self)
    rw [List.cons_append, attemptsIn, hanswered]
    exact ih (fun e' hmem => h e' (List.mem_cons_of_mem e hmem))

/-- What a list that grows at its head has gained. -/
def since {α : Type} (later earlier : List α) : List α :=
  later.take (later.length - earlier.length)

@[simp] theorem since_append {α : Type} (news earlier : List α) :
    since (news ++ earlier) earlier = news := by
  rw [since, List.length_append, Nat.add_sub_cancel, List.take_left]

/-- Below a head that is another, a suffix lies in the tail. -/
theorem suffix_tail_of_ne {α : Type} {p q : α} {earlier log : List α}
    (h : p :: earlier <:+ q :: log) (ne : p ≠ q) : p :: earlier <:+ log :=
  (List.suffix_cons_iff.mp h).resolve_left (fun heq => ne (List.cons.inj heq).1)

/-- Below news that are all others, a suffix lies in the rest. -/
theorem suffix_of_not_mem {α : Type} {p : α} {earlier news log : List α}
    (h : p :: earlier <:+ news ++ log) (other : p ∉ news) : p :: earlier <:+ log := by
  induction news with
  | nil => exact h
  | cons q news ih =>
    obtain ⟨hne, hnews⟩ := not_or.mp (fun hmem => other (List.mem_cons.mpr hmem))
    exact ih (suffix_tail_of_ne h hne) hnews

namespace Site

variable {τ β : Type}

/-- The publications handed to the transport, latest first. -/
def attempts (s : Site τ) : List Attempt := attemptsIn s.journal

/-- The calls to publish with their answers, latest first. -/
def publishes (s : Site τ) : List Entry := s.journal.filter Entry.isPublish

/-- What the entries of the journal tell of one thing, latest first. -/
def view (f : Entry → Option β) (s : Site τ) : List β := s.journal.filterMap f

/-- The commands that came in, latest first. -/
abbrev commands (s : Site τ) : List Command := s.view Entry.command?

/-- The walk timers that were armed, latest first. -/
abbrev walkArmings (s : Site τ) : List TimerRole := s.view Entry.walkArming?

/-- The timers that went off, latest first. -/
abbrev firings (s : Site τ) : List TimerRole := s.view Entry.fired?

/-! ## The views of a longer journal -/

section

variable (s : Site τ) (f : Entry → Option β)

theorem attempts_record {e : Entry} (h : e.answered? = none) :
    (s.record e).attempts = s.attempts := by
  simp only [attempts, journal_record, attemptsIn, h]

theorem view_record (e : Entry) : (s.record e).view f = (f e).toList ++ s.view f := by
  rw [view, journal_record, List.filterMap_cons]
  cases f e <;> rfl

theorem view_noteAll (h : ∀ n, f (.note n) = none) (notes : List Note) :
    (s.noteAll notes).view f = s.view f := by
  induction notes generalizing s with
  | nil => rfl
  | cons n rest ih =>
    rw [noteAll_cons, ih, view_record, h]
    rfl

@[simp] theorem attempts_schedule (r : TimerRole) (delay : UInt32) :
    (s.schedule r delay).attempts = s.attempts := by
  unfold schedule
  split
  · rw [note_eq_record, attempts_record _ rfl, attempts_record _ rfl]
    rfl
  · rw [attempts_record _ rfl]
    rfl

theorem view_schedule (h : ∀ role, f (.note (.timerRearmed role)) = none) (r : TimerRole)
    (delay : UInt32) :
    (s.schedule r delay).view f = (f (.schedule r delay)).toList ++ s.view f := by
  unfold schedule
  split
  · rw [note_eq_record, view_record, h, view_record]
    rfl
  · rw [view_record]
    rfl

@[simp] theorem attempts_cancel (r : TimerRole) : (s.cancel r).attempts = s.attempts :=
  attempts_record { s with timers := s.timers.cancel r } rfl

theorem view_cancel (r : TimerRole) :
    (s.cancel r).view f = (f (.cancel r (s.timers.isArmed r))).toList ++ s.view f :=
  view_record { s with timers := s.timers.cancel r } f _

end

section

variable [Transport τ] (s : Site τ) (f : Entry → Option β)

theorem view_connect (session : SessionParams) :
    (s.connect session).2.view f =
      (f (.connect session (s.connect session).1)).toList ++ s.view f :=
  view_record { s with transport := (s.connect session).2.transport } f _

theorem view_subscribe (topic : Topic) (qos : QoS) :
    (s.subscribe topic qos).2.view f =
      (f (.subscribe topic qos (s.subscribe topic qos).1)).toList ++ s.view f :=
  view_record { s with transport := (s.subscribe topic qos).2.transport } f _

theorem view_publish (topic : Topic) (payload : String) (qos : QoS) (retain : Bool) :
    (s.publish topic payload qos retain).2.view f =
      (f (.publish topic payload qos retain (s.publish topic payload qos retain).1)).toList ++
        s.view f :=
  view_record { s with transport := (s.publish topic payload qos retain).2.transport } f _

end

end Site

/-! ## Publishing

Publications touch neither timers nor clock, and each of them is one attempt.
-/

namespace Node

open Site

variable {τ β : Type} [Transport τ] (topics : Topics)

theorem sendOne_eq (s : Site τ) (p : Publication) :
    sendOne topics s p =
      (s.publish (p.channel.topic topics) p.payload.text .atLeastOnce true).2.emit
        (p.outcome (s.publish (p.channel.topic topics) p.payload.text .atLeastOnce true).1) := by
  unfold sendOne
  rcases s.publish (p.channel.topic topics) p.payload.text .atLeastOnce true with ⟨_ | _, _⟩ <;> rfl

/-- A publication is one attempt, with the answer that the transport gives. -/
theorem attempts_sendOne (s : Site τ) (p : Publication) :
    (sendOne topics s p).attempts =
      ⟨p.channel, p.payload.text,
        (s.publish (p.channel.topic topics) p.payload.text .atLeastOnce true).1⟩ ::
        s.attempts := by
  rw [sendOne_eq]
  -- The entry on top names the channel, the one under it is the call.
  simp only [attempts, emit_eq_record, journal_record, journal_publish, attemptsIn,
    Publication.answered?_outcome, List.head?_cons]
  rfl

@[simp] theorem send_nil (s : Site τ) : send topics [] s = s := rfl

@[simp] theorem send_cons (p : Publication) (rest : List Publication) (s : Site τ) :
    send topics (p :: rest) s = send topics rest (sendOne topics s p) := rfl

/-- What each publication leaves alone, a list of them leaves alone. -/
theorem send_frame {γ : Type} (f : Site τ → γ)
    (h : ∀ (s : Site τ) (p : Publication), f (sendOne topics s p) = f s) (ps : List Publication)
    (s : Site τ) : f (send topics ps s) = f s := by
  induction ps generalizing s with
  | nil => rfl
  | cons p rest ih => rw [send_cons, ih, h]

@[simp] theorem now_send (ps : List Publication) (s : Site τ) : (send topics ps s).now = s.now := by
  refine send_frame topics Site.now (fun s p => ?_) ps s
  rw [sendOne_eq, emit_eq_record, now_record, now_publish]

@[simp] theorem timers_send (ps : List Publication) (s : Site τ) :
    (send topics ps s).timers = s.timers := by
  refine send_frame topics Site.timers (fun s p => ?_) ps s
  rw [sendOne_eq, emit_eq_record, timers_record, timers_publish]

/-- A view in which publishing does not show is left alone. -/
theorem view_send (f : Entry → Option β) (hidden : ∀ e, e.isPublishing → f e = none)
    (ps : List Publication) (s : Site τ) : (send topics ps s).view f = s.view f := by
  refine send_frame topics (Site.view f) (fun s p => ?_) ps s
  have houtcome : ∀ answer, f (.event (p.outcome answer)) = none := by
    intro answer
    cases answer <;> exact hidden _ rfl
  rw [sendOne_eq, emit_eq_record, view_record, houtcome, view_publish, hidden _ rfl]
  rfl

/-- A list of publications is as many attempts, which say the same. -/
theorem attempts_send (ps : List Publication) (s : Site τ) :
    ∃ news, (send topics ps s).attempts = news ++ s.attempts ∧
      news.map Attempt.told = (ps.map Publication.told).reverse := by
  induction ps generalizing s with
  | nil => exact ⟨[], rfl, rfl⟩
  | cons p rest ih =>
    obtain ⟨news, hnews, htold⟩ := ih (sendOne topics s p)
    let answer := (s.publish (p.channel.topic topics) p.payload.text .atLeastOnce true).1
    refine ⟨news ++ [⟨p.channel, p.payload.text, answer⟩], ?_, ?_⟩
    · rw [send_cons, hnews, attempts_sendOne, List.append_assoc, List.singleton_append]
    · rw [List.map_append, htold]
      exact List.reverse_cons.symm

end Node

end TankGauge
