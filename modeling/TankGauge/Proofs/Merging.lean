import Mathlib.Data.List.Perm.Basic
import TankGauge.Json.Record

/-!
# Records laid over others

A document gives some of the fields of a record. `Json.RecordForm.Meaning` says what the fields of a
record hold and what a value of a document says that a field holds; and `Meaning.Replaces` says of
two records that the second is the first with the given fields replaced. This does not speak of an
order, and of each field by itself.

Members are taken one after the other, and yet what they give is just that
(`Json.RecordForm.Meaning.read?_eq_some_iff`): an object gives a record exactly if each key is a
text, no field is given twice and every field that is given can be replaced. So members may change
their places, and members that are no field may come and go (`Json.RecordForm.Rearranged`).
-/

namespace TankGauge.Json.RecordForm

variable {φ α : Type} {form : RecordForm φ α}

/-! ## What members give -/

/-- The field that a member gives, if it gives one. -/
def given? (form : RecordForm φ α) (m : Bytes × Json) : Option (φ × Json) :=
  ((Text.read? m.1).bind form.field?).map fun f => (f, m.2)

/-- The fields that members give, with the value for each. -/
def given (form : RecordForm φ α) (members : List (Bytes × Json)) : List (φ × Json) :=
  members.filterMap form.given?

/-- Whether each key is the spelling of a text. -/
def Readable (members : List (Bytes × Json)) : Prop :=
  ∀ m ∈ members, ∃ key, Text.read? m.1 = some key

/-- The fields of a list of fields with values. -/
def named (given : List (φ × Json)) : List φ := given.map Prod.fst

/-! ## What a record holds -/

/-- What the fields of a record hold, and what a value says that a field holds. -/
structure Meaning (form : RecordForm φ α) where
  /-- What a field may hold. -/
  Value : φ → Type
  /-- What a field of a record holds. -/
  value : α → (f : φ) → Value f
  /-- The record with a field replaced. -/
  put : α → (f : φ) → Value f → α
  /-- What a value of a document says that a field holds. -/
  Holds : (f : φ) → Json → Value f → Prop
  ext : ∀ {a b}, (∀ f, value a f = value b f) → a = b
  value_put : ∀ a f x, value (put a f x) f = x
  value_put_of_ne : ∀ a f x {g}, g ≠ f → value (put a f x) g = value a g
  set?_eq_some_iff : ∀ {f v a b}, form.set? f v a = some b ↔ ∃ x, Holds f v x ∧ put a f x = b

namespace Meaning

variable (m : Meaning form)

/-- The second record is the first one with the given fields replaced. -/
structure Replaces (given : List (φ × Json)) (a b : α) : Prop where
  holds : ∀ f v, (f, v) ∈ given → m.Holds f v (m.value b f)
  kept : ∀ f, f ∉ named given → m.value b f = m.value a f

/-- What a document gives over a record: an object gives the fields that its keys name, none of them
twice, and an array gives fields in their order. -/
def Gives (a : α) (document : Json) (b : α) : Prop :=
  match document with
  | .object members =>
    Readable members ∧ (named (form.given members)).Nodup ∧ m.Replaces (form.given members) a b
  | .array items =>
    items.length ≤ form.fields.length ∧ m.Replaces (form.fields.zip items) a b
  | _ => False

variable {m} {given : List (φ × Json)} {a b : α} {f : φ} {v : Json}

/-- A value says one thing of a field. -/
theorem holds_unique (a : α) {x y : m.Value f} (hx : m.Holds f v x) (hy : m.Holds f v y) :
    x = y := by
  have hset : form.set? f v a = some (m.put a f x) := m.set?_eq_some_iff.mpr ⟨x, hx, rfl⟩
  have hset' : form.set? f v a = some (m.put a f y) := m.set?_eq_some_iff.mpr ⟨y, hy, rfl⟩
  have hput : m.put a f x = m.put a f y := Option.some.inj (hset.symm.trans hset')
  rw [← m.value_put a f x, hput, m.value_put]

theorem replaces_nil_iff : m.Replaces [] a b ↔ a = b := by
  constructor
  · exact fun h => m.ext fun f => (h.kept f List.not_mem_nil).symm
  · rintro rfl
    exact ⟨fun _ _ hmem => absurd hmem List.not_mem_nil, fun _ _ => rfl⟩

/-- A field that is given once may be replaced in front of the others. -/
theorem replaces_cons_iff {x : m.Value f} (holds : m.Holds f v x) (new : f ∉ named given) :
    m.Replaces ((f, v) :: given) a b ↔ m.Replaces given (m.put a f x) b := by
  constructor
  · intro h
    refine ⟨fun g w hmem => h.holds g w (List.mem_cons_of_mem _ hmem), fun g hg => ?_⟩
    by_cases heq : g = f
    · subst heq
      rw [m.value_put]
      exact holds_unique a (h.holds g v List.mem_cons_self) holds
    · rw [m.value_put_of_ne a f x heq]
      refine h.kept g fun hmem => ?_
      rcases List.mem_cons.mp hmem with hgf | hmem
      · exact heq hgf
      · exact hg hmem
  · intro h
    refine ⟨fun g w hmem => ?_, fun g hg => ?_⟩
    · rcases List.mem_cons.mp hmem with heq | hmem
      · obtain ⟨rfl, rfl⟩ := Prod.mk.inj heq
        rw [h.kept g new, m.value_put]
        exact holds
      · exact h.holds g w hmem
    · obtain ⟨hne, hrest⟩ := not_or.mp (List.mem_cons.not.mp hg)
      rw [h.kept g hrest, m.value_put_of_ne a f x hne]

/-- Fields that are given once each, and with values that say something, can be replaced. -/
theorem exists_replaces (distinct : (named given).Nodup)
    (typed : ∀ f v, (f, v) ∈ given → ∃ x, m.Holds f v x) (a : α) : ∃ b, m.Replaces given a b := by
  induction given generalizing a with
  | nil => exact ⟨a, replaces_nil_iff.mpr rfl⟩
  | cons gv given ih =>
    obtain ⟨f, v⟩ := gv
    obtain ⟨hnew, hdistinct⟩ := List.nodup_cons.mp distinct
    obtain ⟨x, hx⟩ := typed f v List.mem_cons_self
    obtain ⟨b, hb⟩ :=
      ih hdistinct (fun g w hmem => typed g w (List.mem_cons_of_mem _ hmem)) (m.put a f x)
    exact ⟨b, (replaces_cons_iff hx hnew).mpr hb⟩

/-! ## What a reader makes of it -/

theorem given_cons_of_unknown {k : Bytes} {key : String} {rest : List (Bytes × Json)}
    (read : Text.read? k = some key) (unknown : form.field? key = none) :
    form.given ((k, v) :: rest) = form.given rest := by
  have hnone : form.given? (k, v) = none := by
    rw [given?, read, Option.bind_some, unknown]
    rfl
  exact List.filterMap_cons_none hnone

theorem given_cons_of_found {k : Bytes} {key : String} {rest : List (Bytes × Json)}
    (read : Text.read? k = some key) (found : form.field? key = some f) :
    form.given ((k, v) :: rest) = (f, v) :: form.given rest := by
  have hsome : form.given? (k, v) = some (f, v) := by
    rw [given?, read, Option.bind_some, found]
    rfl
  exact List.filterMap_cons_some hsome

theorem readable_cons {k : Bytes} {rest : List (Bytes × Json)} :
    Readable ((k, v) :: rest) ↔ (∃ key, Text.read? k = some key) ∧ Readable rest :=
  List.forall_mem_cons

variable [BEq φ] [LawfulBEq φ]

/-- Members are taken one after the other, and give what each of them gives by itself. -/
theorem setMembers_eq_some_iff {seen : List φ} {members : List (Bytes × Json)} :
    form.setMembers seen members a = some b ↔
      Readable members ∧ (named (form.given members)).Nodup ∧
        (∀ f ∈ named (form.given members), f ∉ seen) ∧ m.Replaces (form.given members) a b := by
  induction members generalizing seen a with
  | nil =>
    show some a = some b ↔ _ ∧ _ ∧ _ ∧ m.Replaces [] a b
    rw [replaces_nil_iff, Option.some_inj]
    exact ⟨fun h => ⟨nofun, .nil, nofun, h⟩, fun h => h.2.2.2⟩
  | cons member rest ih =>
    obtain ⟨k, v⟩ := member
    rw [setMembers, readable_cons]
    cases hread : Text.read? k with
    | none => simp
    | some key =>
      cases hfield : form.field? key with
      | none =>
        simp only [hfield]
        rw [ih, given_cons_of_unknown hread hfield]
        simp
      | some f =>
        simp only [hfield]
        rw [given_cons_of_found hread hfield]
        show _ ↔ _ ∧ (f :: named (form.given rest)).Nodup ∧
          (∀ g ∈ f :: named (form.given rest), g ∉ seen) ∧ _
        rw [List.nodup_cons, List.forall_mem_cons]
        by_cases hseen : f ∈ seen
        · -- The field was given before.
          rw [if_pos (List.contains_iff_mem.mpr hseen)]
          exact ⟨nofun, fun h => absurd hseen h.2.2.1.1⟩
        · rw [if_neg (fun h => hseen (List.contains_iff_mem.mp h))]
          cases hset : form.set? f v a with
          | none =>
            -- The value does not say what the field holds.
            refine ⟨nofun, fun h => ?_⟩
            have hholds := h.2.2.2.holds f v List.mem_cons_self
            rw [m.set?_eq_some_iff.mpr ⟨_, hholds, rfl⟩] at hset
            cases hset
          | some a' =>
            obtain ⟨x, hx, rfl⟩ := m.set?_eq_some_iff.mp hset
            simp only
            rw [ih]
            constructor
            · rintro ⟨hrest, hdistinct, hunseen, hreplaces⟩
              have hnew : f ∉ named (form.given rest) := fun hmem =>
                hunseen f hmem List.mem_cons_self
              refine ⟨⟨⟨key, rfl⟩, hrest⟩, ⟨hnew, hdistinct⟩, ⟨hseen, fun g hg hmem => ?_⟩, ?_⟩
              · exact hunseen g hg (List.mem_cons_of_mem f hmem)
              · exact (replaces_cons_iff hx hnew).mpr hreplaces
            · rintro ⟨⟨-, hrest⟩, ⟨hnew, hdistinct⟩, ⟨-, hunseen⟩, hreplaces⟩
              refine ⟨hrest, hdistinct, fun g hg hmem => ?_,
                (replaces_cons_iff hx hnew).mp hreplaces⟩
              rcases List.mem_cons.mp hmem with rfl | hmem
              · exact hnew hg
              · exact hunseen g hg hmem

omit [BEq φ] [LawfulBEq φ] in
/-- Items give the fields in their order. -/
theorem setItems_eq_some_iff {fields : List φ} (distinct : fields.Nodup) {items : List Json} :
    form.setItems fields items a = some b ↔
      items.length ≤ fields.length ∧ m.Replaces (fields.zip items) a b := by
  induction items generalizing fields a with
  | nil =>
    rw [List.zip_nil_right, replaces_nil_iff]
    cases fields <;> simp [setItems]
  | cons v rest ih =>
    cases fields with
    | nil => simp [setItems]
    | cons f fields =>
      obtain ⟨hfirst, hdistinct⟩ := List.nodup_cons.mp distinct
      have hnew : f ∉ named (fields.zip rest) := fun hmem => by
        obtain ⟨⟨g, w⟩, hzip, rfl⟩ := List.mem_map.mp hmem
        exact hfirst (List.of_mem_zip hzip).1
      rw [setItems, List.zip_cons_cons, List.length_cons, List.length_cons,
        Nat.add_le_add_iff_right]
      cases hset : form.set? f v a with
      | none =>
        refine ⟨nofun, fun h => ?_⟩
        have hholds := h.2.holds f v List.mem_cons_self
        rw [m.set?_eq_some_iff.mpr ⟨_, hholds, rfl⟩] at hset
        cases hset
      | some a' =>
        obtain ⟨x, hx, rfl⟩ := m.set?_eq_some_iff.mp hset
        simp only
        rw [ih hdistinct, replaces_cons_iff hx hnew]

/-- What a document gives over a record is what a reader makes of it. -/
theorem read?_eq_some_iff (distinct : form.fields.Nodup) {document : Json} :
    form.read? document a = some b ↔ m.Gives a document b := by
  cases document with
  | object members =>
    show form.setMembers [] members a = some b ↔ _ ∧ _ ∧ _
    rw [setMembers_eq_some_iff (m := m)]
    simp
  | array items => exact setItems_eq_some_iff distinct
  | null | bool | number | text => exact ⟨nofun, False.elim⟩

end Meaning

/-! ## Other layouts of members -/

/-- The second members come out of the first ones if members change places, members that are no
field come or go, and the value of a field is written differently. -/
inductive Rearranged (form : RecordForm φ α) (alike : φ → Json → Json → Prop) :
    List (Bytes × Json) → List (Bytes × Json) → Prop
  | perm {l l' : List (Bytes × Json)} (h : l.Perm l') : Rearranged form alike l l'
  | unknown {k : Bytes} {key : String} (read : Text.read? k = some key)
      (unknown : form.field? key = none) (v : Json) (l : List (Bytes × Json)) :
      Rearranged form alike l ((k, v) :: l)
  | within {k : Bytes} {key : String} {f : φ} (read : Text.read? k = some key)
      (found : form.field? key = some f) {v v' : Json} (same : alike f v v')
      (l : List (Bytes × Json)) : Rearranged form alike ((k, v) :: l) ((k, v') :: l)
  | symm {l l' : List (Bytes × Json)} (h : Rearranged form alike l l') : Rearranged form alike l' l
  | trans {l l' l'' : List (Bytes × Json)} (h : Rearranged form alike l l')
      (h' : Rearranged form alike l' l'') : Rearranged form alike l l''

variable [BEq φ] [LawfulBEq φ]

/-- Members that change places give the same. -/
theorem Meaning.setMembers_perm (m : Meaning form) {l l' : List (Bytes × Json)} (h : l.Perm l')
    (a : α) : form.setMembers [] l a = form.setMembers [] l' a := by
  have hgiven : (form.given l).Perm (form.given l') := h.filterMap _
  have hreadable : Readable l ↔ Readable l' :=
    ⟨fun hl x hx => hl x (h.mem_iff.mpr hx), fun hl x hx => hl x (h.mem_iff.mp hx)⟩
  have hnamed : (named (form.given l)).Perm (named (form.given l')) := hgiven.map _
  have hreplaces (b : α) : m.Replaces (form.given l) a b ↔ m.Replaces (form.given l') a b := by
    constructor
    · intro hb
      exact ⟨fun f v hmem => hb.holds f v (hgiven.mem_iff.mpr hmem),
        fun f hf => hb.kept f fun hmem => hf (hnamed.mem_iff.mp hmem)⟩
    · intro hb
      exact ⟨fun f v hmem => hb.holds f v (hgiven.mem_iff.mp hmem),
        fun f hf => hb.kept f fun hmem => hf (hnamed.mem_iff.mpr hmem)⟩
  refine Option.ext fun b => ?_
  rw [setMembers_eq_some_iff (m := m), setMembers_eq_some_iff (m := m), hreadable,
    hnamed.nodup_iff, hreplaces]
  simp

/-- Members give the same however they are arranged. -/
theorem Rearranged.read?_eq (m : Meaning form) {alike : φ → Json → Json → Prop}
    (same : ∀ {f v v'}, alike f v v' → ∀ a, form.set? f v a = form.set? f v' a)
    {l l' : List (Bytes × Json)} (h : form.Rearranged alike l l') (a : α) :
    form.read? (.object l) a = form.read? (.object l') a := by
  show form.setMembers [] l a = form.setMembers [] l' a
  induction h with
  | perm h => exact m.setMembers_perm h a
  | unknown read unknown =>
    rw [setMembers.eq_2, read]
    simp only [unknown]
  | within read found halike =>
    rw [setMembers, setMembers, read]
    simp only [found, same halike]
  | symm _ ih => exact ih.symm
  | trans _ _ ih ih' => exact ih.trans ih'

end TankGauge.Json.RecordForm
