import TankGauge.Proofs.Drain
import Mathlib.Data.List.Nodup
import Mathlib.Data.List.Perm.Basic

/-!
# The timer queue as a list

An agenda is the plainest thing that a queue of timers can be: a list of roles and deadlines in the
order in which they were armed (`Agenda`). To arm a role is to drop its entry and to put a new one
at the end. What comes out first is the first of the entries that are due earliest.

A queue has slots and serial numbers in place of the list. Its armed timers, put in the order of
their serials, are the entries of an agenda (`TimerQueue.Lists`), and each call does the same to
both and is answered alike (`TimerQueue.Lists.call`). So a queue and an agenda cannot be told apart
by any sequence of calls (`TimerQueue.agrees_with_agenda`), whatever times the clock shows and even
where deadlines fall together at its end. Nothing but arming draws a serial, so that serials stay
below the number of calls.
-/

namespace TankGauge

/-- Roles and when they are due, in the order in which they were armed. -/
abbrev Agenda := List (TimerRole × Nat)

/-- A call to a queue of timers. -/
inductive QueueCall
  | schedule (role : TimerRole) (delay : UInt32) (now : Nat)
  | cancel (role : TimerRole)
  /-- Take out the first timer, provided it is due. -/
  | pop (now : Nat)
deriving DecidableEq, Repr

/-- Whether a call arms a timer. -/
def QueueCall.arms : QueueCall → Bool
  | schedule .. => true
  | cancel _ | pop _ => false

/-- What a call is answered. -/
inductive QueueAnswer
  | armed
  | disarmed (wasArmed : Bool)
  /-- The role that was taken out and its deadline, if one was. -/
  | popped (first : Option (TimerRole × Nat))
deriving DecidableEq, Repr

namespace QueueCall

/-- Makes calls one after the other. Gives their answers and what is left in the end. -/
def makeAll {β : Type} (call : β → QueueCall → QueueAnswer × β) (b : β) :
    List QueueCall → List QueueAnswer × β
  | [] => ([], b)
  | c :: rest =>
    let (answer, b) := call b c
    let (answers, b) := makeAll call b rest
    (answer :: answers, b)

end QueueCall

/-- Makes one call to a queue. -/
def TimerQueue.call (q : TimerQueue) : QueueCall → QueueAnswer × TimerQueue
  | .schedule role delay now => (.armed, q.schedule role delay now)
  | .cancel role => (.disarmed (q.isArmed role), q.cancel role)
  | .pop now =>
    match q.pop? now with
    | none => (.popped none, q)
    | some (role, deadline, rest) => (.popped (some (role, deadline)), rest)

namespace Agenda

variable (a : Agenda)

/-- Whether a role has an entry. -/
def isArmed (role : TimerRole) : Bool := a.any (·.1 == role)

/-- When a role is due, if it has an entry. -/
def deadline? (role : TimerRole) : Option Nat := (a.find? (·.1 == role)).map (·.2)

/-- The agenda without the entry of a role. -/
def without (role : TimerRole) : Agenda := a.filter (·.1 != role)

/-- The first of the entries that are due earliest. -/
def first? : Option (TimerRole × Nat) := a.find? fun e => a.all fun other => e.2 ≤ other.2

/-- The earliest deadline. -/
def nextDeadline? : Option Nat := (a.map (·.2)).min?

/-- The entries that are due at a time. -/
def due (now : Nat) : Agenda := a.filter (·.2 ≤ now)

/-- The entries that are not due yet at a time. -/
def ahead (now : Nat) : Agenda := a.filter (now < ·.2)

/-- Makes one call to an agenda. -/
def call : QueueCall → QueueAnswer × Agenda
  | .schedule role delay now => (.armed, a.without role ++ [(role, instantAfter now delay)])
  | .cancel role => (.disarmed (a.isArmed role), a.without role)
  | .pop now =>
    match a.first?.filter (·.2 ≤ now) with
    | none => (.popped none, a)
    | some e => (.popped (some e), a.without e.1)

/-- Whether an entry comes out before another: it is due earlier, or it is due at the same time and
stands before the other in the agenda. -/
def Before (e other : TimerRole × Nat) : Prop :=
  e.2 < other.2 ∨ e.2 = other.2 ∧ [e, other].Sublist a

variable {a}

theorem Before.mono {a' : Agenda} (h : a'.Sublist a) {e other : TimerRole × Nat}
    (before : a'.Before e other) : a.Before e other :=
  before.imp_right (fun same => ⟨same.1, same.2.trans h⟩)

/-- What comes out first comes out before every other entry. -/
theorem before_of_first? {e : TimerRole × Nat} (h : a.first? = some e) {other : TimerRole × Nat}
    (hmem : other ∈ a) (hne : other ≠ e) : a.Before e other := by
  obtain ⟨hfirst, earlier, later, hsplit, hearlier⟩ := List.find?_eq_some_iff_append.mp h
  have hle : ∀ other ∈ a, e.2 ≤ other.2 := by simpa using hfirst
  rcases Nat.lt_or_eq_of_le (hle other hmem) with hlt | heq
  · exact .inl hlt
  · -- Of the entries that are due as early as this one, none stands in front of it.
    have hlater : other ∈ later := by
      rw [hsplit] at hmem
      rcases List.mem_append.mp hmem with hmem | hmem
      · have hlast := hearlier other hmem
        rw [← heq, hfirst] at hlast
        cases hlast
      · exact (List.mem_cons.mp hmem).resolve_left hne
    refine .inr ⟨heq, ?_⟩
    rw [hsplit]
    exact (List.Sublist.cons_cons e (List.singleton_sublist.mpr hlater)).trans
      (List.sublist_append_right earlier _)

/-- If no role has two entries, to drop a role is to drop its entry. -/
theorem without_eq_erase (single : (a.map (·.1)).Nodup) {e : TimerRole × Nat} (h : e ∈ a) :
    a.without e.1 = a.erase e := by
  rw [single.of_map.erase_eq_filter]
  refine List.filter_congr fun other hmem => ?_
  rw [Bool.eq_iff_iff, bne_iff_ne, bne_iff_ne]
  refine not_congr ⟨fun hrole => ?_, congrArg Prod.fst⟩
  exact List.inj_on_of_nodup_map single hmem h hrole

/-- What comes out first is due at the earliest deadline. -/
theorem nextDeadline?_eq : a.nextDeadline? = a.first?.map (·.2) := by
  have hleast {d : Nat} : a.nextDeadline? = some d ↔
      d ∈ a.map (·.2) ∧ ∀ d' ∈ a.map (·.2), d ≤ d' := List.min?_eq_some_iff
  cases hfirst : a.first? with
  | some e =>
    have hall := List.find?_some hfirst
    refine hleast.mpr ⟨List.mem_map_of_mem (List.mem_of_find?_eq_some hfirst), fun d hmem => ?_⟩
    obtain ⟨other, hother, rfl⟩ := List.mem_map.mp hmem
    exact of_decide_eq_true (List.all_eq_true.mp hall other hother)
  | none =>
    cases hnext : a.nextDeadline? with
    | none => rfl
    | some d =>
      obtain ⟨hmem, hle⟩ := hleast.mp hnext
      obtain ⟨e, he, rfl⟩ := List.mem_map.mp hmem
      have hmiss := List.find?_eq_none.mp hfirst e he
      exact absurd (List.all_eq_true.mpr fun other hother =>
        decide_eq_true (hle _ (List.mem_map_of_mem hother))) hmiss

end Agenda

namespace TimerQueue

/-! ## What comes out first -/

theorem precedes_iff {t u : ArmedTimer} : t.precedes u ↔
    t.deadline < u.deadline ∨ t.deadline = u.deadline ∧ t.serial < u.serial := by
  simp only [ArmedTimer.precedes, Bool.or_eq_true, Bool.and_eq_true, decide_eq_true_eq, beq_iff_eq]

/-- A search for the timer that comes out first ends with one that nothing it has met precedes. -/
theorem not_precedes_of_foldl {q : TimerQueue} {roles : List TimerRole}
    {best : Option (TimerRole × ArmedTimer)} {r : TimerRole} {t : ArmedTimer}
    (h : roles.foldl q.look best = some (r, t)) {e : TimerRole × ArmedTimer}
    (met : best = some e ∨ e.1 ∈ roles ∧ q.slots.get e.1 = some e.2) : ¬ e.2.precedes t := by
  induction roles generalizing best e with
  | nil =>
    obtain rfl | ⟨hmem, -⟩ := met
    · cases h
      simp only [precedes_iff]
      omega
    · cases hmem
  | cons role rest ih =>
    replace h : rest.foldl q.look (q.look best role) = some (r, t) := h
    rcases met with rfl | ⟨hmem, hslot⟩
    · cases hslot : q.slots.get role with
      | none => exact ih h (.inl (by simp only [look, hslot]))
      | some u =>
        by_cases hu : u.precedes e.2
        · -- The one found so far gives way to one that precedes it.
          have hlast := ih (e := (role, u)) h (.inl (by simp only [look, hslot, earlier, hu,
            if_true]))
          simp only [precedes_iff] at hu hlast ⊢
          omega
        · exact ih h (.inl (by simp only [look, hslot, earlier, hu, Bool.false_eq_true, if_false]))
    · rcases List.mem_cons.mp hmem with heq | hmem
      · rw [heq] at hslot
        have hme : e = (role, e.2) := Prod.ext heq rfl
        cases best with
        | none => exact ih h (.inl (by rw [hme]; simp only [look, hslot, earlier]))
        | some b =>
          by_cases hu : e.2.precedes b.2
          · exact ih h (.inl (by rw [hme]; simp only [look, hslot, earlier, hu, if_true]))
          · have hlast := ih (e := b) h (.inl (by simp only [look, hslot, earlier, hu,
              Bool.false_eq_true, if_false]))
            simp only [precedes_iff] at hu hlast ⊢
            omega
      · exact ih h (.inr ⟨hmem, hslot⟩)

/-- No armed timer precedes the one that comes out first. -/
theorem not_precedes_of_first? {q : TimerQueue} {r : TimerRole} {t : ArmedTimer}
    (h : q.first? = some (r, t)) {e : TimerRole × ArmedTimer}
    (armed : q.slots.get e.1 = some e.2) : ¬ e.2.precedes t :=
  not_precedes_of_foldl h (.inr ⟨e.1.mem_all, armed⟩)

/-! ## The entries of a queue -/

/-- The armed timers of a queue in the order in which they were armed. -/
structure Lists (q : TimerQueue) (entries : List (TimerRole × ArmedTimer)) : Prop where
  mem : ∀ {r t}, (r, t) ∈ entries ↔ q.slots.get r = some t
  ordered : entries.Pairwise fun e e' => e.2.serial < e'.2.serial
  numbered : ∀ e ∈ entries, e.2.serial < q.nextSerial

/-- The agenda that has the entries of a queue. -/
def agenda (entries : List (TimerRole × ArmedTimer)) : Agenda :=
  entries.map fun e => (e.1, e.2.deadline)

theorem lists_empty : Lists {} [] where
  mem {r t} := by cases r <;> exact ⟨nofun, nofun⟩
  ordered := .nil
  numbered := nofun

theorem agenda_without (entries : List (TimerRole × ArmedTimer)) (role : TimerRole) :
    (agenda entries).without role = agenda (entries.filter (·.1 != role)) := by
  rw [agenda, Agenda.without, List.filter_map]
  rfl

namespace Lists

variable {q : TimerQueue} {entries : List (TimerRole × ArmedTimer)}

theorem cancel (h : q.Lists entries) (role : TimerRole) :
    (q.cancel role).Lists (entries.filter (·.1 != role)) where
  mem {r t} := by
    rw [List.mem_filter, h.mem, slots_cancel, bne_iff_ne]
    by_cases hr : r = role <;> simp [hr]
  ordered := h.ordered.sublist List.filter_sublist
  numbered e hmem := h.numbered e (List.mem_of_mem_filter hmem)

theorem schedule (h : q.Lists entries) (role : TimerRole) (delay : UInt32) (now : Nat) :
    (q.schedule role delay now).Lists
      (entries.filter (·.1 != role) ++ [(role, ⟨instantAfter now delay, q.nextSerial⟩)]) where
  mem {r t} := by
    rw [List.mem_append, List.mem_filter, h.mem, List.mem_singleton, slots_schedule, bne_iff_ne]
    by_cases hr : r = role <;> simp [hr, eq_comm]
  ordered := by
    refine List.pairwise_append.mpr ⟨h.ordered.sublist List.filter_sublist,
      List.pairwise_singleton _ _, fun e hmem e' hlast => ?_⟩
    rw [List.mem_singleton.mp hlast]
    exact h.numbered e (List.mem_of_mem_filter hmem)
  numbered e hmem := by
    rcases List.mem_append.mp hmem with hmem | hmem
    · exact Nat.lt_succ_of_lt (h.numbered e (List.mem_of_mem_filter hmem))
    · rw [List.mem_singleton.mp hmem]
      exact Nat.lt_succ_self _

/-- A role has one entry at most. -/
theorem nodup_roles (h : q.Lists entries) : ((agenda entries).map (·.1)).Nodup := by
  rw [agenda, List.map_map]
  refine List.pairwise_map.mpr (h.ordered.imp_of_mem fun {e e'} hmem hmem' hlt heq => ?_)
  replace heq : e.1 = e'.1 := heq
  have hslot : q.slots.get e.1 = some e.2 := h.mem.mp hmem
  have hslot' : q.slots.get e'.1 = some e'.2 := h.mem.mp hmem'
  rw [heq, hslot', Option.some.injEq] at hslot
  rw [hslot] at hlt
  exact Nat.lt_irrefl _ hlt

theorem slots_eq_find? (h : q.Lists entries) (role : TimerRole) :
    q.slots.get role = (entries.find? (·.1 == role)).map (·.2) := by
  cases hfound : entries.find? (·.1 == role) with
  | none =>
    cases hslot : q.slots.get role with
    | none => rfl
    | some t => 
      have hmiss := List.find?_eq_none.mp hfound _ (h.mem.mpr hslot)
      exact absurd (beq_self_eq_true role) hmiss
  | some e =>
    have hrole : e.1 = role := by simpa using List.find?_some hfound
    rw [← hrole]
    exact h.mem.mp (List.mem_of_find?_eq_some hfound)

theorem deadline?_eq (h : q.Lists entries) (role : TimerRole) :
    q.deadline? role = (agenda entries).deadline? role := by
  rw [deadline?, h.slots_eq_find?, Agenda.deadline?, agenda, List.find?_map, Option.map_map,
    Option.map_map]
  rfl

theorem isArmed_eq (h : q.Lists entries) (role : TimerRole) :
    q.isArmed role = (agenda entries).isArmed role := by
  rw [isArmed, h.slots_eq_find?, Option.isSome_map, List.isSome_find?, Agenda.isArmed, agenda,
    List.any_map]
  rfl

theorem size_eq (h : q.Lists entries) : q.size = (agenda entries).length := by
  have harmed : q.armed.Perm ((agenda entries).map (·.1)) := by
    refine (List.perm_ext_iff_of_nodup ?_ h.nodup_roles).mpr fun role => ?_
    · exact List.Nodup.filter _ (by decide)
    · have hentry : role ∈ (agenda entries).map (·.1) ↔ (q.slots.get role).isSome := by
        simp [agenda, Option.isSome_iff_exists, ← h.mem]
      rw [armed, List.mem_filter, hentry]
      exact and_iff_right role.mem_all
  rw [size, harmed.length_eq, List.length_map]

/-- Of the armed timers that are due earliest, the one that was armed first comes out first. -/
theorem first?_eq (h : q.Lists entries) :
    q.first?.map (fun e => (e.1, e.2.deadline)) = (agenda entries).first? := by
  rw [Agenda.first?, agenda, List.find?_map]
  congr 1
  cases hfirst : q.first? with
  | none =>
    have hempty : entries = [] := by
      refine List.eq_nil_iff_forall_not_mem.mpr fun e hmem => ?_
      have harmed : q.deadline? e.1 = some e.2.deadline := by
        rw [deadline?, h.mem.mp hmem]
        rfl
      obtain ⟨r, t, hsome, -⟩ := covers_first? harmed
      rw [hfirst] at hsome
      cases hsome
    rw [hempty]
    rfl
  | some first =>
    obtain ⟨r, t⟩ := first
    have harmed : (r, t) ∈ entries := h.mem.mpr (slots_of_first? hfirst)
    have hlast : ∀ e ∈ entries, t.deadline < e.2.deadline ∨
        t.deadline = e.2.deadline ∧ t.serial ≤ e.2.serial := by
      intro e hmem
      have hnot := not_precedes_of_first? hfirst (h.mem.mp hmem)
      rw [precedes_iff] at hnot
      omega
    obtain ⟨before, after, hsplit⟩ := List.append_of_mem harmed
    refine (List.find?_eq_some_iff_append.mpr ⟨?_, before, after, hsplit, fun e hmem => ?_⟩).symm
    · simp only [Function.comp_apply, List.all_map, List.all_eq_true, decide_eq_true_eq]
      intro e hmem
      rcases hlast e hmem with hlt | ⟨heq, -⟩
      · exact Nat.le_of_lt hlt
      · exact Nat.le_of_eq heq
    · -- An entry that stands in front was armed earlier, so it must be due later.
      have hordered := h.ordered
      rw [hsplit] at hordered
      have hserial : e.2.serial < t.serial :=
        (List.pairwise_append.mp hordered).2.2 e hmem (r, t) List.mem_cons_self
      have hlater := hlast e (by rw [hsplit]; exact List.mem_append_left _ hmem)
      have hlt : ¬ e.2.deadline ≤ t.deadline := by omega
      simp only [Function.comp_apply, List.all_map, Bool.not_eq_true', List.all_eq_false,
        decide_eq_true_eq]
      exact ⟨(r, t), harmed, hlt⟩

theorem nextDeadline?_eq (h : q.Lists entries) :
    q.nextDeadline? = (agenda entries).nextDeadline? := by
  rw [Agenda.nextDeadline?_eq, ← h.first?_eq, Option.map_map]
  rfl

/-! ## Calls -/

/-- What is taken out of a queue is what is taken out of its agenda. -/
theorem pop?_eq (h : q.Lists entries) (now : Nat) :
    q.pop? now =
      ((agenda entries).first?.filter (·.2 ≤ now)).map fun e => (e.1, e.2, q.cancel e.1) := by
  rw [← h.first?_eq, pop?]
  cases q.first? with
  | none => rfl
  | some first =>
    obtain ⟨r, t⟩ := first
    by_cases hdue : t.deadline ≤ now <;> simp [hdue, Option.filter]

/-- A call is answered alike by a queue and its agenda, and leaves a queue and its agenda. -/
theorem call (h : q.Lists entries) (c : QueueCall) :
    ∃ entries', (q.call c).2.Lists entries' ∧
      (agenda entries).call c = ((q.call c).1, agenda entries') := by
  cases c with
  | schedule role delay now =>
    refine ⟨_, h.schedule role delay now, ?_⟩
    rw [Agenda.call, agenda_without]
    simp only [agenda, List.map_append]
    rfl
  | cancel role =>
    refine ⟨_, h.cancel role, ?_⟩
    rw [Agenda.call, agenda_without, ← h.isArmed_eq]
    rfl
  | pop now =>
    have hpop := h.pop?_eq now
    cases hfirst : (agenda entries).first?.filter (·.2 ≤ now) with
    | none =>
      rw [hfirst] at hpop
      refine ⟨entries, ?_, ?_⟩
      · simpa only [TimerQueue.call, hpop, Option.map_none] using h
      · simp only [TimerQueue.call, Agenda.call, hpop, hfirst, Option.map_none]
    | some e =>
      rw [hfirst] at hpop
      refine ⟨entries.filter (·.1 != e.1), ?_, ?_⟩
      · simpa only [TimerQueue.call, hpop, Option.map_some] using h.cancel e.1
      · simp only [TimerQueue.call, Agenda.call, hpop, hfirst, Option.map_some, agenda_without]

/-- Calls are answered alike, one after the other. -/
theorem makeAll (h : q.Lists entries) (calls : List QueueCall) :
    ∃ entries', (QueueCall.makeAll TimerQueue.call q calls).2.Lists entries' ∧
      QueueCall.makeAll Agenda.call (agenda entries) calls =
        ((QueueCall.makeAll TimerQueue.call q calls).1, agenda entries') := by
  induction calls generalizing q entries with
  | nil => exact ⟨entries, h, rfl⟩
  | cons c rest ih =>
    obtain ⟨entries₁, h₁, hcall⟩ := h.call c
    obtain ⟨entries', h', hrest⟩ := ih h₁
    refine ⟨entries', h', ?_⟩
    simp only [QueueCall.makeAll, hcall, hrest]

end Lists

/-- Arming draws one serial, and no other call draws any. -/
theorem nextSerial_makeAll (q : TimerQueue) (calls : List QueueCall) :
    (QueueCall.makeAll call q calls).2.nextSerial =
      q.nextSerial + calls.countP QueueCall.arms := by
  induction calls generalizing q with
  | nil => rfl
  | cons c rest ih =>
    have hcall : (q.call c).2.nextSerial = q.nextSerial + if c.arms then 1 else 0 := by
      cases c with
      | schedule | cancel => rfl
      | pop now =>
        simp only [call]
        cases hpop : q.pop? now with
        | none => rfl
        | some popped =>
          obtain ⟨role, deadline, left⟩ := popped
          obtain ⟨-, -, -, -, rfl⟩ := eq_of_pop? hpop
          rfl
    rw [List.countP_cons]
    show (QueueCall.makeAll call (q.call c).2 rest).2.nextSerial = _
    rw [ih, hcall]
    omega

/-! ## Taking out everything that is due -/

namespace Lists

variable {q : TimerQueue} {entries : List (TimerRole × ArmedTimer)}

/-- What is taken out of a queue at one time comes out in the order of its agenda, and the rest
stays in it. -/
theorem popUpTo (h : q.Lists entries) (now limit : Nat) :
    ∃ (out : Agenda) (left : List (TimerRole × ArmedTimer)),
      (popUpTo now limit q).1 = out.map (·.1) ∧ (popUpTo now limit q).2.Lists left ∧
        (agenda left).Sublist (agenda entries) ∧ (out ++ agenda left).Perm (agenda entries) ∧
        (∀ e ∈ out, e.2 ≤ now) ∧ out.Pairwise (agenda entries).Before := by
  induction limit generalizing q entries with
  | zero => exact ⟨[], entries, rfl, h, List.Sublist.refl _, .refl _, nofun, .nil⟩
  | succ limit ih =>
    have hpop := h.pop?_eq now
    cases hfirst : (agenda entries).first?.filter (·.2 ≤ now) with
    | none =>
      rw [hfirst] at hpop
      refine ⟨[], entries, ?_, ?_, List.Sublist.refl _, .refl _, nofun, .nil⟩
      · simp only [TimerQueue.popUpTo, hpop, Option.map_none, List.map_nil]
      · simpa only [TimerQueue.popUpTo, hpop, Option.map_none] using h
    | some e =>
      rw [hfirst] at hpop
      obtain ⟨hsome, hdue⟩ := Option.filter_eq_some_iff.mp hfirst
      have hmem : e ∈ agenda entries := List.mem_of_find?_eq_some hsome
      obtain ⟨out, left, hroles, hleft, hsub, hperm, hout, hbefore⟩ := ih (h.cancel e.1)
      rw [← agenda_without] at hsub hperm hbefore
      have hshorter : ((agenda entries).without e.1).Sublist (agenda entries) :=
        List.filter_sublist
      have honly : (agenda entries).without e.1 = (agenda entries).erase e :=
        Agenda.without_eq_erase h.nodup_roles hmem
      refine ⟨e :: out, left, ?_, ?_, hsub.trans hshorter, ?_, ?_, ?_⟩
      · simp only [TimerQueue.popUpTo, hpop, Option.map_some, List.map_cons, hroles]
      · simpa only [TimerQueue.popUpTo, hpop, Option.map_some] using hleft
      · rw [honly] at hperm
        exact (hperm.cons e).trans (List.perm_cons_erase hmem).symm
      · exact List.forall_mem_cons.mpr ⟨of_decide_eq_true hdue, hout⟩
      · refine List.pairwise_cons.mpr
          ⟨fun other hother => ?_, hbefore.imp fun hb => hb.mono hshorter⟩
        have hin : other ∈ (agenda entries).without e.1 :=
          hperm.subset (List.mem_append_left _ hother)
        refine Agenda.before_of_first? hsome (hshorter.subset hin) ?_
        rintro rfl
        simp [Agenda.without] at hin

/-- A queue that is asked as often as it has timers is asked until nothing is due. -/
theorem pop?_popUpTo (h : q.Lists entries) (now : Nat) {limit : Nat}
    (enough : (agenda entries).length ≤ limit) :
    (TimerQueue.popUpTo now limit q).2.pop? now = none := by
  induction limit generalizing q entries with
  | zero =>
    have hempty : agenda entries = [] := List.eq_nil_of_length_eq_zero (Nat.le_zero.mp enough)
    show q.pop? now = none
    rw [h.pop?_eq, hempty]
    rfl
  | succ limit ih =>
    have hpop := h.pop?_eq now
    cases hfirst : (agenda entries).first?.filter (·.2 ≤ now) with
    | none =>
      rw [hfirst] at hpop
      simp only [TimerQueue.popUpTo, hpop, Option.map_none]
    | some e =>
      rw [hfirst] at hpop
      have hmem : e ∈ agenda entries :=
        List.mem_of_find?_eq_some (Option.filter_eq_some_iff.mp hfirst).1
      have hfewer := (agenda_without entries e.1).symm.trans
        (Agenda.without_eq_erase h.nodup_roles hmem)
      have hlength := List.length_erase_of_mem hmem
      simp only [TimerQueue.popUpTo, hpop, Option.map_some]
      refine ih (h.cancel e.1) ?_
      rw [hfewer, hlength]
      omega

/-- What is taken out until nothing is due is all that is due, and what stays is all that is not. -/
theorem drain (h : q.Lists entries) (now : Nat) :
    (q.drain now).2.pop? now = none ∧
      ∃ out : Agenda, (q.drain now).1 = out.map (·.1) ∧ out.Perm ((agenda entries).due now) ∧
        out.Pairwise (agenda entries).Before ∧
        ∀ role, (q.drain now).2.deadline? role = ((agenda entries).ahead now).deadline? role := by
  have henough : (agenda entries).length ≤ TimerRole.all.length := by
    rw [← h.size_eq]
    exact List.length_filter_le _ _
  have hidle := h.pop?_popUpTo now henough
  obtain ⟨out, left, hroles, hleft, hsub, hperm, hout, hbefore⟩ :=
    h.popUpTo now TimerRole.all.length
  -- What is left is not due any more.
  have hahead : ∀ e ∈ agenda left, now < e.2 := by
    intro e hmem
    obtain ⟨entry, hentry, rfl⟩ := List.mem_map.mp hmem
    refine lt_of_pop?_eq_none hidle (r := entry.1) ?_
    rw [deadline?, hleft.mem.mp hentry]
    rfl
  have hdue : out.Perm ((agenda entries).due now) := by
    have hfiltered := hperm.filter (·.2 ≤ now)
    rw [List.filter_append, List.filter_eq_self.mpr (by simpa using hout),
      List.filter_eq_nil_iff.mpr (by simpa using hahead), List.append_nil] at hfiltered
    exact hfiltered
  have hrest : agenda left = (agenda entries).ahead now := by
    have hfiltered := hperm.filter (now < ·.2)
    have hkept : (agenda left).filter (now < ·.2) = agenda left :=
      List.filter_eq_self.mpr (by simpa using hahead)
    rw [List.filter_append, List.filter_eq_nil_iff.mpr (by simpa using hout), List.nil_append,
      hkept] at hfiltered
    refine List.Sublist.eq_of_length ?_ hfiltered.length_eq
    rw [← hkept]
    exact hsub.filter _
  refine ⟨hidle, out, hroles, hdue, hbefore, fun role => ?_⟩
  rw [← hrest]
  exact hleft.deadline?_eq role

end Lists

/-- Take any calls to a queue that has nothing armed: timers are armed and disarmed and taken out,
with whatever roles, delays and times of the clock. The queue answers them as an agenda does, and
afterwards the same roles are armed in both, for the same deadlines, with the same number of them
and the same earliest one. No role has two entries in the agenda, and the next serial of the queue
is the number of timers that were armed.

If the queue is then asked at one time until nothing comes out any more, each role that is due comes
out once, those that are due earlier first and those that are due at the same time in the order in
which they were last armed. What stays armed is exactly what is not due. -/
theorem agrees_with_agenda (calls : List QueueCall) :
    let (answers, q) := QueueCall.makeAll call {} calls
    let (answers', a) := QueueCall.makeAll Agenda.call [] calls
    answers = answers' ∧ (∀ role, q.isArmed role = a.isArmed role) ∧
      (∀ role, q.deadline? role = a.deadline? role) ∧ q.size = a.length ∧
      q.isEmpty = a.isEmpty ∧ q.nextDeadline? = a.nextDeadline? ∧ (a.map (·.1)).Nodup ∧
      q.nextSerial = calls.countP QueueCall.arms ∧
      ∀ now, (q.drain now).2.pop? now = none ∧ (q.drain now).1.Nodup ∧
        ∃ out : Agenda, (q.drain now).1 = out.map (·.1) ∧ out.Perm (a.due now) ∧
          out.Pairwise a.Before ∧
          ∀ role, (q.drain now).2.deadline? role = (a.ahead now).deadline? role := by
  obtain ⟨entries, hlists, hmade⟩ := lists_empty.makeAll calls
  have hserial := nextSerial_makeAll {} calls
  rw [Nat.zero_add] at hserial
  rw [show ([] : Agenda) = agenda [] from rfl, hmade]
  generalize QueueCall.makeAll call {} calls = made at hlists hserial ⊢
  obtain ⟨answers, q⟩ := made
  have hempty : q.isEmpty = (agenda entries).isEmpty := by
    rw [isEmpty, hlists.size_eq]
    cases agenda entries <;> rfl
  refine ⟨rfl, hlists.isArmed_eq, hlists.deadline?_eq, hlists.size_eq, hempty,
    hlists.nextDeadline?_eq, hlists.nodup_roles, hserial, fun now => ?_⟩
  obtain ⟨hidle, out, hroles, hdue, hbefore, hleft⟩ := hlists.drain now
  refine ⟨hidle, ?_, out, hroles, hdue, hbefore, hleft⟩
  rw [hroles, (hdue.map _).nodup_iff]
  exact hlists.nodup_roles.sublist (List.filter_sublist.map _)

/-- Where deadlines fall together at the end of the clock, a timer that is disarmed and armed again
comes out behind one that was armed meanwhile. -/
example :
    let q := (QueueCall.makeAll call {} [.schedule .resume 7 (clockLimit - 1),
      .schedule .decrease 5000 clockLimit, .cancel .resume, .schedule .resume 9 clockLimit]).2
    (q.drain clockLimit).1 = [.decrease, .resume] := by
  decide +kernel

end TimerQueue

end TankGauge
