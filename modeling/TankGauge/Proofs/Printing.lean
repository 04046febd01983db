import TankGauge.Proofs.Layout

/-!
# Documents are read back as they are printed

The print of a document whose texts and numbers are spelled by the rules (`Json.WellSpelled`) is the
one of its layouts that has no blanks (`Json.spells_print`). So it is read back as the document
(`Json.parse?_print`), and printing loses nothing.
-/

namespace TankGauge

namespace Json

mutual

/-- All texts, keys and numbers of a document are spelled by the rules. -/
def WellSpelled : Json → Prop
  | null | bool _ => True
  | number spelling => Numeral spelling
  | text spelling => TextBody spelling
  | array items => WellSpelledItems items
  | object members => WellSpelledMembers members

/-- So are those of all items. -/
def WellSpelledItems : List Json → Prop
  | [] => True
  | v :: rest => v.WellSpelled ∧ WellSpelledItems rest

/-- So are those of all members. -/
def WellSpelledMembers : List (Bytes × Json) → Prop
  | [] => True
  | (k, v) :: rest => TextBody k ∧ v.WellSpelled ∧ WellSpelledMembers rest

end

mutual

/-- A value is spelled as it is printed. -/
theorem spells_print : ∀ (v : Json), v.WellSpelled → Spells v v.print
  | null, _ => .null
  | bool true, _ => .true
  | bool false, _ => .false
  | number _, h => .number h
  | text _, h => .text h
  | array [], _ => .noItems nofun
  | array (v :: items), h => .items (spellsItems_print (v :: items) nofun h)
  | object [], _ => .noMembers nofun
  | object (m :: members), h => .members (spellsMembers_print (m :: members) nofun h)

/-- Items are spelled as they are printed. -/
theorem spellsItems_print : ∀ (items : List Json), items ≠ [] → WellSpelledItems items →
    SpellsItems items (printItems items)
  | [], nonempty, _ => absurd rfl nonempty
  | [v], _, h => .last (spells_print v h.1) (padded_refl _)
  | v :: w :: items, _, h =>
    .more (spells_print v h.1) (padded_refl _) (spellsItems_print (w :: items) nofun h.2)

/-- Members are spelled as they are printed. -/
theorem spellsMembers_print : ∀ (members : List (Bytes × Json)), members ≠ [] →
    WellSpelledMembers members → SpellsMembers members (printMembers members)
  | [], nonempty, _ => absurd rfl nonempty
  | [(_, v)], _, h => .last h.1 (padded_refl _) (spells_print v h.2.1) (padded_refl _)
  | (_, v) :: m :: members, _, h =>
    .more h.1 (padded_refl _) (spells_print v h.2.1) (padded_refl _)
      (spellsMembers_print (m :: members) nofun h.2.2)

end

/-- A document is read back from its print. -/
theorem parse?_print {v : Json} (h : v.WellSpelled) : parse? v.print = some v :=
  parse?_of_document ⟨v.print, spells_print v h, padded_refl _⟩

end Json

end TankGauge
