import TankGauge.Json.Text

/-!
# Records in JSON

A record has a fixed set of fields in a fixed order. It is written as an object, and read either
from an object or from an array that gives the fields in their order. Reading starts from a record
that has a value for every field and replaces those that are given: a field may be missing but not
repeated, and a member that is no field is passed over. Whatever is given must be readable as what
the field holds.
-/

namespace TankGauge.Json

/-- How the fields `φ` of a record `α` are named and read. -/
structure RecordForm (φ α : Type) where
  /-- The fields in their order. -/
  fields : List φ
  /-- The key of a field. -/
  key : φ → String
  /-- The record with a field replaced by what a document gives for it. -/
  set? : φ → Json → α → Option α

namespace RecordForm

variable {φ α : Type} [BEq φ]

/-- The field of a key. -/
def field? (form : RecordForm φ α) (key : String) : Option φ :=
  form.fields.find? fun f => form.key f == key

/-- Replaces the fields that members give, none of them twice. -/
def setMembers (form : RecordForm φ α) (seen : List φ) :
    List (Bytes × Json) → α → Option α
  | [], a => some a
  | (k, v) :: rest, a =>
    match Text.read? k with
    | none => none
    | some key =>
      match form.field? key with
      | none => setMembers form seen rest a
      | some f =>
        if seen.contains f then none
        else match form.set? f v a with
          | none => none
          | some a => setMembers form (f :: seen) rest a

omit [BEq φ] in
/-- Replaces fields in their order, as long as items are given; no item may be left over. -/
def setItems (form : RecordForm φ α) : List φ → List Json → α → Option α
  | _, [], a => some a
  | [], _ :: _, _ => none
  | f :: fields, v :: rest, a =>
    match form.set? f v a with
    | none => none
    | some a => setItems form fields rest a

/-- The record that a document gives, over the values that `a` has. -/
def read? (form : RecordForm φ α) (document : Json) (a : α) : Option α :=
  match document with
  | .object members => form.setMembers [] members a
  | .array items => form.setItems form.fields items a
  | _ => none

omit [BEq φ] in
/-- The object of a record, given what it holds in each field. -/
def write (form : RecordForm φ α) (get : φ → Json) : Json :=
  .object (form.fields.map fun f => (Text.spell (form.key f), get f))

end RecordForm

end TankGauge.Json
