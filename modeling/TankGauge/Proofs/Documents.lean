import TankGauge.Config.Document
import TankGauge.Proofs.Printing

/-!
# Configurations survive their documents

A record that is written as an object is read back field by field, since its keys tell its fields
apart (`Json.RecordForm.read?_write`). What the fields of a configuration hold is read back as well:
a text of any characters that fits, a number of any size that fits, and the topics as a record of
their own. So reading the document of a configuration gives the configuration, whatever the defaults
are that it is laid over, and all that can be said against it is what the rules say
(`Config.ofDocument_toDocument`).
-/

namespace TankGauge

namespace Json

/-! ## What a field holds -/

theorem boundedText?_ofText {cap : Nat} (t : BoundedText cap) :
    (ofText t.text).boundedText? cap = some t := by
  rw [ofText, boundedText?, Text.read?_spell, Option.bind_some, BoundedText.ofString?_text]

theorem uint16?_ofNatural (n : UInt16) : (ofNatural n.toNat).uint16? = some n := by
  rw [uint16?, natural?_ofNatural, Option.bind_some, if_pos n.toNat_lt, UInt16.ofNat_toNat]

theorem uint32?_ofNatural (n : UInt32) : (ofNatural n.toNat).uint32? = some n := by
  rw [uint32?, natural?_ofNatural, Option.bind_some, if_pos n.toNat_lt, UInt32.ofNat_toNat]

theorem wellSpelled_ofText (s : String) : (ofText s).WellSpelled :=
  Text.textBody_flatMap (Bytes.utf8 s)

theorem wellSpelled_ofNatural (n : Nat) : (ofNatural n).WellSpelled := numeral_toString n

/-! ## Records -/

namespace RecordForm

variable {φ α : Type} [BEq φ]

/-- Every field is found by its key, and no field is listed twice. -/
structure Distinct (form : RecordForm φ α) : Prop where
  found : ∀ f ∈ form.fields, form.field? (form.key f) = some f
  nodup : form.fields.Nodup

omit [BEq φ] in
theorem wellSpelled_write (form : RecordForm φ α) {get : φ → Json}
    (spelled : ∀ f, (get f).WellSpelled) : (form.write get).WellSpelled := by
  show WellSpelledMembers (form.fields.map fun f => (Text.spell (form.key f), get f))
  induction form.fields with
  | nil => exact trivial
  | cons f fields ih => exact ⟨Text.textBody_flatMap _, spelled f, ih⟩

variable [LawfulBEq φ] {form : RecordForm φ α} {get : φ → Json}

/-- Members that give fields not seen before replace them one after the other. -/
theorem setMembers_map {fields seen : List φ} (nodup : fields.Nodup)
    (found : ∀ f ∈ fields, form.field? (form.key f) = some f) (new : ∀ f ∈ fields, f ∉ seen)
    (a : α) :
    form.setMembers seen (fields.map fun f => (Text.spell (form.key f), get f)) a =
      fields.foldlM (fun a f => form.set? f (get f) a) a := by
  induction fields generalizing seen a with
  | nil => rfl
  | cons f fields ih =>
    obtain ⟨hfirst, hrest⟩ := List.nodup_cons.mp nodup
    have hnew : seen.contains f = false :=
      Bool.eq_false_iff.mpr fun h => new f List.mem_cons_self (List.contains_iff_mem.mp h)
    rw [List.map_cons, setMembers, Text.read?_spell, List.foldlM_cons]
    simp only [found f List.mem_cons_self, hnew, Bool.false_eq_true, if_false]
    cases form.set? f (get f) a with
    | none => rfl
    | some a =>
      refine ih hrest (fun f' hmem => found f' (List.mem_cons_of_mem f hmem)) (fun f' hmem => ?_) a
      rw [List.mem_cons, not_or]
      exact ⟨fun heq => hfirst (heq ▸ hmem), new f' (List.mem_cons_of_mem f hmem)⟩

/-- Reading a record that was written replaces every field by what was written for it. -/
theorem read?_write (distinct : form.Distinct) (a : α) :
    form.read? (form.write get) a =
      form.fields.foldlM (fun a f => form.set? f (get f) a) a :=
  setMembers_map distinct.nodup distinct.found (fun _ _ => List.not_mem_nil) a

end RecordForm

end Json

/-! ## Topics and configurations -/

theorem Topics.distinct_form : Topics.form.Distinct := ⟨by decide, by decide⟩

/-- The topics that a document of topics gives are the ones that it was written for, whatever they
are laid over. -/
theorem Topics.read?_toJson (t base : Topics) : Topics.form.read? t.toJson base = some t := by
  have hset (f : Field) (t' : Topics) : Topics.form.set? f (.ofText (t.get f).text) t' = _ :=
    congrArg (Option.map _) (Json.boundedText?_ofText (t.get f))
  rw [toJson, Json.RecordForm.read?_write distinct_form]
  simp only [hset]
  rfl

namespace Config

theorem distinct_form : form.Distinct := ⟨by decide, by decide⟩

theorem wellSpelled_toJson (c : Config) : c.toJson.WellSpelled := by
  refine form.wellSpelled_write fun f => ?_
  cases f with
  | brokerHost | clientIdPrefix => exact Json.wellSpelled_ofText _
  | topics => exact Topics.form.wellSpelled_write fun _ => Json.wellSpelled_ofText _
  | brokerPort | keepAlive | stepInterval | resumeDelay | reconnectShort | reconnectLong =>
    exact Json.wellSpelled_ofNatural _

theorem form_read?_toJson (c base : Config) : form.read? c.toJson base = some c := by
  rw [toJson, Json.RecordForm.read?_write distinct_form]
  simp only [form, List.foldlM, set?, get, Json.boundedText?_ofText, Json.uint16?_ofNatural,
    Json.uint32?_ofNatural, Topics.read?_toJson]
  rfl

/-- The document of a configuration gives the configuration. -/
theorem read?_toDocument (c : Config) : read? c.toDocument = some c := by
  rw [read?, toDocument, Json.parse?_print c.wellSpelled_toJson, Option.bind_some,
    form_read?_toJson]

/-- The rules complain of values, never of a document. -/
theorem validate_ne_corrupted (c : Config) : c.validate ≠ .error .corrupted := by
  unfold validate
  split
  · exact nofun
  · exact nofun

/-- The document of any configuration gives the configuration if it keeps the rules, and otherwise
the complaint about the first rule that it breaks; it is never taken for a corrupted one. -/
theorem ofDocument_toDocument (c : Config) :
    ofDocument c.toDocument = c.validate.map (fun _ => c) ∧
      ofDocument c.toDocument ≠ .error .corrupted := by
  have hread : ofDocument c.toDocument = c.validate.map (fun _ => c) := by
    rw [ofDocument, read?_toDocument]
    dsimp only
    cases c.validate <;> rfl
  refine ⟨hread, fun hcorrupted => c.validate_ne_corrupted ?_⟩
  rw [hread] at hcorrupted
  cases hvalidate : c.validate with
  | ok => rw [hvalidate] at hcorrupted; cases hcorrupted
  | error e =>
    rw [hvalidate] at hcorrupted
    exact congrArg Except.error (Except.error.inj hcorrupted)

end Config

end TankGauge
