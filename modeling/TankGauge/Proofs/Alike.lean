import TankGauge.Proofs.Journal

/-!
# Sites that look alike

Two sites look alike if they differ in nothing but what is not seen from outside: notes, the
disarming of timers, and events that tell of modes (`Entry.isOutward`). Every action on a site does
the same to sites that look alike and gives the same answer, since none of them reads the journal.
That holds for what a connection does to a site as well, and for publishing.
-/

namespace TankGauge

/-- Whether an entry is seen from outside: a call of the transport, a timer that is armed or goes
off, or an event that tells of no mode. -/
def Entry.isOutward : Entry → Bool
  | .cancel .. | .note _ | .event (.started _) | .event (.modeChanged ..) => false
  | _ => true

theorem Entry.isOutward_of_isPublish {e : Entry} (h : e.isPublish) : e.isOutward := by
  cases e with
  | publish => rfl
  | connect | subscribe | schedule | cancel | fire | event | note => cases h

namespace Site

variable {τ : Type}

/-- What is seen of a site from outside, latest first. -/
def outward (s : Site τ) : List Entry := s.journal.filter Entry.isOutward

/-- Two sites that differ in nothing that is seen from outside. -/
structure Alike (s s' : Site τ) : Prop where
  now : s'.now = s.now
  timers : s'.timers = s.timers
  transport : s'.transport = s.transport
  outward : s'.outward = s.outward

namespace Alike

variable {s s' : Site τ}

theorem refl (s : Site τ) : s.Alike s := ⟨rfl, rfl, rfl, rfl⟩

/-- Sites that look alike have seen the same calls to publish. -/
theorem publishes (h : s.Alike s') : s'.publishes = s.publishes := by
  have hfilter (s : Site τ) : s.publishes = s.outward.filter Entry.isPublish := by
    rw [Site.publishes, Site.outward, List.filter_filter]
    refine List.filter_congr (fun e _ => ?_)
    cases hpublish : e.isPublish with
    | false => rfl
    | true => rw [Entry.isOutward_of_isPublish hpublish]; rfl
  rw [hfilter, hfilter, h.outward]

/-! ## Actions on both sites -/

theorem record (h : s.Alike s') (e : Entry) : (s.record e).Alike (s'.record e) := by
  refine ⟨h.now, h.timers, h.transport, ?_⟩
  have houtward := h.outward
  simp only [Site.outward, journal_record, List.filter_cons] at houtward ⊢
  rw [houtward]

/-- What is not seen from outside may be told of on one site alone. -/
theorem record_left (h : s.Alike s') {e : Entry} (hidden : e.isOutward = false) :
    (s.record e).Alike s' := by
  refine ⟨h.now, h.timers, h.transport, ?_⟩
  rw [h.outward, Site.outward, Site.outward, journal_record, List.filter_cons, hidden]
  rfl

theorem noteAll_left (h : s.Alike s') (notes : List Note) : (s.noteAll notes).Alike s' := by
  induction notes generalizing s with
  | nil => exact h
  | cons n rest ih => exact ih (h.record_left rfl)

theorem setTimers (h : s.Alike s') {q q' : TimerQueue} (same : q' = q) :
    { s with timers := q }.Alike { s' with timers := q' } :=
  ⟨h.now, same, h.transport, h.outward⟩

theorem setTransport (h : s.Alike s') (t : τ) :
    { s with transport := t }.Alike { s' with transport := t } :=
  ⟨h.now, h.timers, rfl, h.outward⟩

theorem schedule (h : s.Alike s') (r : TimerRole) (delay : UInt32) :
    (s.schedule r delay).Alike (s'.schedule r delay) := by
  have htimers : s'.timers.schedule r delay s'.now = s.timers.schedule r delay s.now := by
    rw [h.timers, h.now]
  have harmed := (h.setTimers htimers).record (.schedule r delay)
  unfold Site.schedule
  rw [h.timers] at harmed ⊢
  split
  · exact harmed.record _
  · exact harmed

theorem cancel (h : s.Alike s') (r : TimerRole) : (s.cancel r).Alike (s'.cancel r) := by
  have htimers : s'.timers.cancel r = s.timers.cancel r := by rw [h.timers]
  unfold Site.cancel
  rw [h.timers] at htimers ⊢
  exact (h.setTimers htimers).record _

/-- In which order the three walk timers are disarmed is not seen. -/
theorem cancel_three (h : s.Alike s') :
    (((s.cancel .increase).cancel .resume).cancel .decrease).Alike
      (((s'.cancel .decrease).cancel .increase).cancel .resume) := by
  have hsame := ((h.cancel .decrease).cancel .increase).cancel .resume
  refine ⟨hsame.now, ?_, hsame.transport, ?_⟩
  · rw [hsame.timers]
    rfl
  · rw [hsame.outward]
    rfl

variable [Transport τ]

theorem connect (h : s.Alike s') (session : SessionParams) :
    (s'.connect session).1 = (s.connect session).1 ∧
      (s.connect session).2.Alike (s'.connect session).2 := by
  unfold Site.connect
  rw [h.transport]
  rcases Transport.connect s.transport session with ⟨answer, t⟩
  exact ⟨rfl, (h.setTransport t).record _⟩

theorem subscribe (h : s.Alike s') (topic : Topic) (qos : QoS) :
    (s'.subscribe topic qos).1 = (s.subscribe topic qos).1 ∧
      (s.subscribe topic qos).2.Alike (s'.subscribe topic qos).2 := by
  unfold Site.subscribe
  rw [h.transport]
  rcases Transport.subscribe s.transport topic.text qos with ⟨answer, t⟩
  exact ⟨rfl, (h.setTransport t).record _⟩

theorem publish (h : s.Alike s') (topic : Topic) (payload : String) (qos : QoS) (retain : Bool) :
    (s'.publish topic payload qos retain).1 = (s.publish topic payload qos retain).1 ∧
      (s.publish topic payload qos retain).2.Alike (s'.publish topic payload qos retain).2 := by
  unfold Site.publish
  rw [h.transport]
  rcases Transport.publish s.transport topic.text (Bytes.utf8 payload) qos retain with ⟨answer, t⟩
  exact ⟨rfl, (h.setTransport t).record _⟩

/-- Publishing does the same to sites that look alike. -/
theorem send (h : s.Alike s') (topics : Topics) (publications : List Publication) :
    (Node.send topics publications s).Alike (Node.send topics publications s') := by
  induction publications generalizing s s' with
  | nil => exact h
  | cons p rest ih =>
    refine ih ?_
    obtain ⟨hanswer, hsite⟩ :=
      h.publish (p.channel.topic topics) p.payload.text .atLeastOnce true
    unfold Node.sendOne
    rcases hcall : s.publish (p.channel.topic topics) p.payload.text .atLeastOnce true with
      ⟨answer, left⟩
    rcases hcall' : s'.publish (p.channel.topic topics) p.payload.text .atLeastOnce true with
      ⟨answer', right⟩
    rw [hcall, hcall'] at hanswer hsite
    obtain rfl : answer' = answer := hanswer
    cases answer' with
    | taken => exact hsite.record _
    | refused reason => exact hsite.record _

end Alike

end Site

/-! ## What a connection does -/

namespace Connection

variable {τ : Type} {s s' : Site τ}

/-- Two answers of a connection are the same, and they leave sites that look alike. -/
def Agree (left right : Connection × Site τ) : Prop :=
  right.1 = left.1 ∧ left.2.Alike right.2

theorem alike_retryAfter (h : s.Alike s') (delay : UInt32) :
    (retryAfter delay s).Alike (retryAfter delay s') :=
  (h.schedule .reconnect delay).record _

theorem agree_failAttempt (h : s.Alike s') (c : Connection) :
    Agree (c.failAttempt s) (c.failAttempt s') :=
  ⟨rfl, alike_retryAfter (h.record _) c.longDelay⟩

variable [Transport τ]

/-- Asking for a session does the same on sites that look alike. -/
theorem agree_connect (h : s.Alike s') (c : Connection) : Agree (c.connect s) (c.connect s') := by
  by_cases hstatus : c.status = .disconnected
  · rw [connect_of_disconnected hstatus, connect_of_disconnected hstatus]
    have hasking : (c.asking s).Alike (c.asking s') := (h.record _).record _
    obtain ⟨hanswer, hsite⟩ := hasking.connect c.session
    rcases hcall : (c.asking s).connect c.session with ⟨answer, left⟩
    rcases hcall' : (c.asking s').connect c.session with ⟨answer', right⟩
    rw [hcall, hcall'] at hanswer hsite
    obtain rfl : answer' = answer := hanswer
    cases answer' with
    | taken => exact ⟨rfl, hsite⟩
    | refused reason => exact agree_failAttempt (hsite.record _) _
  · rw [connect_of_ne_disconnected hstatus, connect_of_ne_disconnected hstatus]
    exact ⟨rfl, h.record _⟩

theorem alike_subscribeTo (h : s.Alike s') (topic : Topic) :
    (subscribeTo topic s).Alike (subscribeTo topic s') := by
  obtain ⟨hanswer, hsite⟩ := h.subscribe topic .atLeastOnce
  unfold subscribeTo
  rcases hcall : s.subscribe topic .atLeastOnce with ⟨answer, left⟩
  rcases hcall' : s'.subscribe topic .atLeastOnce with ⟨answer', right⟩
  rw [hcall, hcall'] at hanswer hsite
  obtain rfl : answer' = answer := hanswer
  exact hsite.record _

/-- News of the session leads to the same on sites that look alike. -/
theorem agree_onEvent (h : s.Alike s') (c : Connection) (topics : Topics)
    (event : ConnectionEvent) : Agree (c.onEvent topics event s) (c.onEvent topics event s') := by
  unfold onEvent
  split
  · exact ⟨rfl, (alike_subscribeTo (alike_subscribeTo (h.record _) _) _).schedule .announce 0⟩
  · exact agree_failAttempt (h.record _) c
  · exact agree_failAttempt (h.record _) c
  · exact ⟨rfl, alike_retryAfter (((h.record _).cancel .announce).record _) c.shortDelay⟩
  · exact ⟨rfl, alike_retryAfter (((h.record _).cancel .announce).record _) c.shortDelay⟩
  · exact ⟨rfl, h.record _⟩

end Connection

end TankGauge
