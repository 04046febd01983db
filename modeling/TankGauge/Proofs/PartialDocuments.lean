import TankGauge.Proofs.Documents
import TankGauge.Proofs.Merging

/-!
# Documents that leave something out

A document need not give every setting, and what it leaves out is as deployed. What a value of a
document says that a setting holds is a text that fits, a natural number in range, or topics laid
over the deployed ones (`Config.Holds`, `Topics.Holds`). So a configuration is settled setting by
setting, and topic by topic, by the document alone: neither the places of members, nor members with
other keys, nor blanks matter (`Config.Rearranged`, `Json.Document`).
-/

namespace TankGauge

/-! ## What a value says -/

namespace Json

/-- Whether a value is a text. -/
def IsText (v : Json) (s : String) : Prop := ∃ body, v = .text body ∧ Text.read? body = some s

/-- Whether a value is a natural number: digits, and no sign, fraction or exponent. -/
def IsNatural (v : Json) (n : Nat) : Prop :=
  ∃ digits, v = .number digits ∧ digits.all Ascii.isDigit ∧ naturalOf digits = n

theorem boundedText?_eq_some_iff {cap : Nat} {v : Json} {t : BoundedText cap} :
    v.boundedText? cap = some t ↔ v.IsText t.text := by
  cases v with
  | text body =>
    rw [boundedText?, Option.bind_eq_some_iff]
    constructor
    · rintro ⟨s, hs, ht⟩
      exact ⟨body, rfl, by rw [hs, BoundedText.text_of_ofString? ht]⟩
    · rintro ⟨body, heq, hs⟩
      cases heq
      exact ⟨t.text, hs, t.ofString?_text⟩
  | null | bool | number | array | object =>
    constructor
    · intro h
      cases h
    · rintro ⟨_, heq, -⟩
      cases heq

theorem natural?_eq_some_iff {v : Json} {n : Nat} : v.natural? = some n ↔ v.IsNatural n := by
  cases v with
  | number digits =>
    rw [natural?]
    constructor
    · intro h
      split at h
      · next hall => exact ⟨digits, rfl, hall, Option.some.inj h⟩
      · cases h
    · rintro ⟨_, heq, hall, hn⟩
      cases heq
      rw [if_pos hall, hn]
  | null | bool | text | array | object =>
    constructor
    · intro h
      cases h
    · rintro ⟨_, heq, -⟩
      cases heq

theorem uint16?_eq_some_iff {v : Json} {n : UInt16} :
    v.uint16? = some n ↔ v.IsNatural n.toNat := by
  rw [uint16?, Option.bind_eq_some_iff, ← natural?_eq_some_iff]
  constructor
  · rintro ⟨k, hk, h⟩
    split at h
    · next hlt =>
      rw [hk, ← Option.some.inj h, UInt16.toNat_ofNat_of_lt' hlt]
    · cases h
  · exact fun h => ⟨n.toNat, h, by rw [if_pos n.toNat_lt, UInt16.ofNat_toNat]⟩

theorem uint32?_eq_some_iff {v : Json} {n : UInt32} :
    v.uint32? = some n ↔ v.IsNatural n.toNat := by
  rw [uint32?, Option.bind_eq_some_iff, ← natural?_eq_some_iff]
  constructor
  · rintro ⟨k, hk, h⟩
    split at h
    · next hlt =>
      rw [hk, ← Option.some.inj h, UInt32.toNat_ofNat_of_lt' hlt]
    · cases h
  · exact fun h => ⟨n.toNat, h, by rw [if_pos n.toNat_lt, UInt32.ofNat_toNat]⟩

end Json

/-! ## Topics -/

namespace Topics

/-- The topics with one of them replaced. -/
def put (t : Topics) (f : Field) (topic : Topic) : Topics :=
  match f with
  | .availability => { t with availability := topic }
  | .level => { t with level := topic }
  | .fillState => { t with fillState := topic }
  | .fillRequest => { t with fillRequest := topic }
  | .alarm => { t with alarm := topic }

/-- A topic is a text that fits. -/
def meaning : form.Meaning where
  Value _ := Topic
  value := get
  put := put
  Holds _ v topic := v.IsText topic.text
  ext {t u} h := by
    have havailability := h .availability
    have hlevel := h .level
    have hfillState := h .fillState
    have hfillRequest := h .fillRequest
    have halarm := h .alarm
    cases t
    cases u
    simp only [get] at havailability hlevel hfillState hfillRequest halarm
    simp only [havailability, hlevel, hfillState, hfillRequest, halarm]
  value_put t f topic := by cases f <;> rfl
  value_put_of_ne t f topic g hne := by
    cases f <;> cases g <;> first | rfl | exact absurd rfl hne
  set?_eq_some_iff {f v t u} := by
    show set? f v t = some u ↔ _
    have hput : set? f v t = (v.boundedText? 64).map (t.put f) := by cases f <;> rfl
    rw [hput, Option.map_eq_some_iff]
    simp only [Json.boundedText?_eq_some_iff]

end Topics

/-! ## Configurations -/

namespace Config

/-- What a setting may hold. -/
def Field.Value : Field → Type
  | .brokerHost => BoundedText 64
  | .brokerPort | .keepAlive => UInt16
  | .clientIdPrefix => BoundedText 8
  | .topics => Topics
  | .stepInterval | .resumeDelay | .reconnectShort | .reconnectLong => UInt32

/-- What a setting holds. -/
def value (c : Config) : (f : Field) → f.Value
  | .brokerHost => c.brokerHost
  | .brokerPort => c.brokerPort
  | .keepAlive => c.keepAlive
  | .clientIdPrefix => c.clientIdPrefix
  | .topics => c.topics
  | .stepInterval => c.stepInterval
  | .resumeDelay => c.resumeDelay
  | .reconnectShort => c.reconnectShort
  | .reconnectLong => c.reconnectLong

/-- The configuration with one setting replaced. -/
def put (c : Config) : (f : Field) → f.Value → Config
  | .brokerHost, x => { c with brokerHost := x }
  | .brokerPort, x => { c with brokerPort := x }
  | .keepAlive, x => { c with keepAlive := x }
  | .clientIdPrefix, x => { c with clientIdPrefix := x }
  | .topics, x => { c with topics := x }
  | .stepInterval, x => { c with stepInterval := x }
  | .resumeDelay, x => { c with resumeDelay := x }
  | .reconnectShort, x => { c with reconnectShort := x }
  | .reconnectLong, x => { c with reconnectLong := x }

/-- What a value of a document says that a setting holds. -/
def Holds : (f : Field) → Json → f.Value → Prop
  | .brokerHost, v, x | .clientIdPrefix, v, x => v.IsText x.text
  | .brokerPort, v, x | .keepAlive, v, x => v.IsNatural x.toNat
  | .topics, v, x => Topics.meaning.Gives {} v x
  | .stepInterval, v, x | .resumeDelay, v, x | .reconnectShort, v, x | .reconnectLong, v, x =>
    v.IsNatural x.toNat

theorem set?_eq_map (f : Field) (v : Json) (c : Config) :
    ∃ read? : Option f.Value, set? f v c = read?.map (c.put f) ∧
      ∀ x, read? = some x ↔ Holds f v x := by
  cases f with
  | brokerHost | clientIdPrefix => exact ⟨_, rfl, fun _ => Json.boundedText?_eq_some_iff⟩
  | brokerPort | keepAlive => exact ⟨_, rfl, fun _ => Json.uint16?_eq_some_iff⟩
  | topics =>
    exact ⟨_, rfl, fun _ => Json.RecordForm.Meaning.read?_eq_some_iff (by decide)⟩
  | stepInterval | resumeDelay | reconnectShort | reconnectLong =>
    exact ⟨_, rfl, fun _ => Json.uint32?_eq_some_iff⟩

/-- A setting is a text that fits, a number in range, or topics laid over the deployed ones. -/
def meaning : form.Meaning where
  Value := Field.Value
  value := value
  put := put
  Holds := Holds
  ext {c d} h := by
    have hall := (⟨h .brokerHost, h .brokerPort, h .keepAlive, h .clientIdPrefix, h .topics,
      h .stepInterval, h .resumeDelay, h .reconnectShort, h .reconnectLong⟩ :
      c.brokerHost = d.brokerHost ∧ c.brokerPort = d.brokerPort ∧ c.keepAlive = d.keepAlive ∧
      c.clientIdPrefix = d.clientIdPrefix ∧ c.topics = d.topics ∧
      c.stepInterval = d.stepInterval ∧ c.resumeDelay = d.resumeDelay ∧
      c.reconnectShort = d.reconnectShort ∧ c.reconnectLong = d.reconnectLong)
    cases c
    cases d
    simpa using hall
  value_put c f x := by cases f <;> rfl
  value_put_of_ne c f x g hne := by
    cases f <;> cases g <;> first | rfl | exact absurd rfl hne
  set?_eq_some_iff {f v c d} := by
    obtain ⟨read?, hset, hread⟩ := set?_eq_map f v c
    show set? f v c = some d ↔ _
    rw [hset, Option.map_eq_some_iff]
    simp only [hread]

/-- Two values that give the same setting: of the topics, objects with members that are arranged
differently. -/
def Alike : Field → Json → Json → Prop
  | .topics, v, v' => ∃ members members', v = .object members ∧ v' = .object members' ∧
      Topics.form.Rearranged (fun _ => Eq) members members'
  | _, v, v' => v = v'

/-- Members of a configuration, and of its topics, that are arranged differently. -/
def Rearranged (members members' : List (Bytes × Json)) : Prop :=
  form.Rearranged Alike members members'

theorem set?_eq_of_alike {f : Field} {v v' : Json} (h : Alike f v v') (c : Config) :
    form.set? f v c = form.set? f v' c := by
  have hother (h : v = v') : form.set? f v c = form.set? f v' c := by rw [h]
  cases f with
  | topics =>
    obtain ⟨members, members', rfl, rfl, hrearranged⟩ := h
    have hread := hrearranged.read?_eq Topics.meaning
      (fun heq t => congrArg (Topics.form.set? _ · t) heq) ({} : Topics)
    show (Topics.form.read? _ {}).map _ = (Topics.form.read? _ {}).map _
    rw [hread]
  | brokerHost | brokerPort | keepAlive | clientIdPrefix | stepInterval | resumeDelay
  | reconnectShort | reconnectLong => exact hother h

/-- A document is read from each of its layouts, and then held to the rules. -/
theorem ofDocument_of_document {v : Json} {s : Bytes} (laid : Json.Document v s) :
    ofDocument s =
      match form.read? v {} with
      | none => .error .corrupted
      | some c => c.validate.map fun _ => c := by
  rw [ofDocument, read?, Json.parse?_of_document laid, Option.bind_some]
  cases form.read? v {} with
  | none => rfl
  | some c => dsimp only; cases c.validate <;> rfl

/-- A document gives the deployed configuration with exactly those settings replaced that its
members give, held to the rules, if no setting is given twice and each value says what its setting
holds; otherwise it is corrupted. However the members are arranged and laid out, the outcome is the
same. -/
theorem ofDocument_of_members {members members' : List (Bytes × Json)} {s s' : Bytes}
    (laid : Json.Document (.object members) s) (laid' : Json.Document (.object members') s')
    (rearranged : Rearranged members members') :
    let given := form.given members
    let named := Json.RecordForm.named given
    let typed := ∀ f v, (f, v) ∈ given → ∃ x, Holds f v x
    ofDocument s' = ofDocument s ∧
      (Json.RecordForm.Readable members → named.Nodup → typed →
        ∃ c : Config, (∀ f v, (f, v) ∈ given → Holds f v (c.value f)) ∧
          (∀ f, f ∉ named → c.value f = ({} : Config).value f) ∧
          ofDocument s = c.validate.map fun _ => c) ∧
      (¬ (named.Nodup ∧ typed) → ofDocument s = .error .corrupted) := by
  intro given named typed
  have hread := rearranged.read?_eq meaning set?_eq_of_alike ({} : Config)
  have hiff (c : Config) : form.read? (.object members) {} = some c ↔ _ :=
    Json.RecordForm.Meaning.read?_eq_some_iff (m := meaning) (by decide)
  rw [ofDocument_of_document laid, ofDocument_of_document laid', ← hread]
  refine ⟨rfl, fun readable distinct htyped => ?_, fun hbad => ?_⟩
  · obtain ⟨c, hc⟩ := Json.RecordForm.Meaning.exists_replaces (m := meaning) distinct htyped {}
    refine ⟨c, hc.holds, hc.kept, ?_⟩
    rw [(hiff c).mpr ⟨readable, distinct, hc⟩]
  · cases h : form.read? (.object members) {} with
    | none => rfl
    | some c =>
      obtain ⟨-, hdistinct, hreplaces⟩ := (hiff c).mp h
      exact absurd ⟨hdistinct, fun f v hmem => ⟨_, hreplaces.holds f v hmem⟩⟩ hbad

/-- A port and a topic are taken from a document that gives them in the other order, with blanks
around it and a note among the topics. -/
theorem ofDocument_of_annotated_members :
    let port : Bytes × Json := (Json.Text.spell "broker_port", .ofNatural 80)
    let alarm : Bytes × Json := (Json.Text.spell "alarm", .ofText "a")
    let note : Bytes × Json := (Json.Text.spell "note", .array [.null, .object []])
    let key := Json.Text.spell "topics"
    ∃ c : Config, c.brokerPort = 80 ∧ c.topics.alarm.text = "a" ∧ c.stepInterval = 10 ∧
      ofDocument (Ascii.space ::
        (Json.object [(key, .object [note, alarm]), port]).print ++ [Ascii.newline]) =
          c.validate.map fun _ => c := by
  intro port alarm note key
  let members := [port, (key, .object [alarm])]
  let members' := [(key, .object [note, alarm]), port]
  have hspelled (text : String) : Json.TextBody (Json.Text.spell text) :=
    Json.Text.textBody_flatMap (Bytes.utf8 text)
  have hlaid : Json.Document (.object members) (Json.object members).print :=
    ⟨_, Json.spells_print _ ⟨hspelled _, Json.wellSpelled_ofNatural 80, hspelled _,
      ⟨hspelled _, Json.wellSpelled_ofText "a", trivial⟩, trivial⟩, Json.padded_refl _⟩
  have hlaid' : Json.Document (.object members')
      (Ascii.space :: (Json.object members').print ++ [Ascii.newline]) :=
    ⟨_, Json.spells_print _ ⟨hspelled _, ⟨hspelled _, ⟨trivial, trivial, trivial⟩, hspelled _,
      Json.wellSpelled_ofText "a", trivial⟩, hspelled _, Json.wellSpelled_ofNatural 80, trivial⟩,
      .mk (w := [Ascii.space]) (List.forall_mem_singleton.mpr rfl)
        (List.forall_mem_singleton.mpr rfl)⟩
  have htopics : Topics.form.Rearranged (fun _ => Eq) [alarm] [note, alarm] :=
    .unknown (Json.Text.read?_spell "note") (by decide) _ _
  have hrearranged : Rearranged members members' :=
    .trans (.perm (.swap _ _ [])) (.within (Json.Text.read?_spell "topics") (by decide)
      (f := .topics) ⟨_, _, rfl, rfl, htopics⟩ [port])
  have hgiven : form.given members =
      [(.brokerPort, .ofNatural 80), (.topics, .object [alarm])] := by
    rw [Json.RecordForm.Meaning.given_cons_of_found (f := .brokerPort)
      (Json.Text.read?_spell "broker_port") (by decide),
      Json.RecordForm.Meaning.given_cons_of_found (f := .topics)
      (Json.Text.read?_spell "topics") (by decide)]
    rfl
  have hport : Holds .brokerPort (.ofNatural 80) (80 : UInt16) :=
    Json.natural?_eq_some_iff.mp (Json.natural?_ofNatural 80)
  let deployed : Topics := { alarm := ⟨"a", by decide⟩ }
  have halarm : Holds .topics (.object [alarm]) deployed := by
    have hset : Topics.form.set? .alarm (.ofText "a") {} = some deployed :=
      congrArg (Option.map _) (Json.boundedText?_ofText deployed.alarm)
    show Topics.meaning.Gives {} (.object [alarm]) deployed
    refine (Json.RecordForm.Meaning.read?_eq_some_iff (by decide)).mp ?_
    show Topics.form.setMembers [] [(Json.Text.spell "alarm", .ofText "a")] {} = some deployed
    rw [Json.RecordForm.setMembers, Json.Text.read?_spell]
    exact congrArg (Option.bind · some) hset
  obtain ⟨hsame, hgives, -⟩ := ofDocument_of_members hlaid hlaid' hrearranged
  rw [hgiven] at hgives
  obtain ⟨c, hholds, hkept, hread⟩ := hgives
    (List.forall_mem_cons.mpr ⟨⟨_, Json.Text.read?_spell _⟩,
      List.forall_mem_singleton.mpr ⟨_, Json.Text.read?_spell _⟩⟩)
    (by decide) (fun f v hmem => by
      simp only [List.mem_cons, Prod.mk.injEq, List.not_mem_nil, or_false] at hmem
      rcases hmem with ⟨rfl, rfl⟩ | ⟨rfl, rfl⟩
      · exact ⟨_, hport⟩
      · exact ⟨_, halarm⟩)
  have hc (f : Field) {v : Json} {x : f.Value} (hmem : (f, v) ∈ _) (h : Holds f v x) :
      c.value f = x :=
    Json.RecordForm.Meaning.holds_unique (m := meaning) {} (hholds f v hmem) h
  refine ⟨c, hc .brokerPort List.mem_cons_self hport, ?_, hkept .stepInterval (by decide),
    hsame.trans hread⟩
  have htopics : c.topics = deployed := hc .topics (by simp) halarm
  rw [htopics]

end Config

end TankGauge
