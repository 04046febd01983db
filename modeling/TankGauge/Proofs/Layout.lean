import TankGauge.Proofs.Spelling

/-!
# The layouts of a document

A document may be laid out in many ways: blanks may stand around every value, key and mark.
`Json.Spells` says of a document and bytes that the bytes are one of its layouts. It is given by
rules that know of no reader, with one rule for each kind of value, and `Json.Padded` for the blanks
around a part.

A reader takes every layout (`Json.parse?_of_document`), whatever values are nested in each other
and however deep. Behind a value stand blanks, a comma, a closing mark or nothing, none of which a
number goes on with, so that each value is read up to its own end. The fuel is measured by the
bytes: a reader that is given twice the length of what it is to take never runs out, since each call
either takes a byte or goes from a list to its first value.
-/

namespace TankGauge

namespace Json

/-! ## Layouts -/

/-- Blanks and nothing else. -/
def Blanks (w : Bytes) : Prop := ∀ b ∈ w, isBlank b

/-- A part with blanks around it. -/
inductive Padded (s : Bytes) : Bytes → Prop
  | mk {w w' : Bytes} (front : Blanks w) (back : Blanks w') : Padded s (w ++ (s ++ w'))

mutual

/-- How a value may be spelled. -/
inductive Spells : Json → Bytes → Prop
  | null : Spells null nullWord
  | true : Spells (bool true) trueWord
  | false : Spells (bool false) falseWord
  | number {s : Bytes} (h : Numeral s) : Spells (number s) s
  | text {body : Bytes} (h : TextBody body) : Spells (text body) (printText body)
  | noItems {w : Bytes} (blanks : Blanks w) :
      Spells (array []) (Ascii.openBracket :: w ++ [Ascii.closeBracket])
  | items {items : List Json} {s : Bytes} (h : SpellsItems items s) :
      Spells (array items) (Ascii.openBracket :: s ++ [Ascii.closeBracket])
  | noMembers {w : Bytes} (blanks : Blanks w) :
      Spells (object []) (Ascii.openBrace :: w ++ [Ascii.closeBrace])
  | members {members : List (Bytes × Json)} {s : Bytes} (h : SpellsMembers members s) :
      Spells (object members) (Ascii.openBrace :: s ++ [Ascii.closeBrace])

/-- How items may be spelled, one at least. -/
inductive SpellsItems : List Json → Bytes → Prop
  | last {v : Json} {s t : Bytes} (value : Spells v s) (padded : Padded s t) : SpellsItems [v] t
  | more {v : Json} {items : List Json} {s t rest : Bytes} (value : Spells v s)
      (padded : Padded s t) (h : SpellsItems items rest) :
      SpellsItems (v :: items) (t ++ Ascii.comma :: rest)

/-- How members may be spelled, one at least. -/
inductive SpellsMembers : List (Bytes × Json) → Bytes → Prop
  | last {k t : Bytes} {v : Json} {s t' : Bytes} (body : TextBody k)
      (key : Padded (printText k) t) (value : Spells v s) (padded : Padded s t') :
      SpellsMembers [(k, v)] (t ++ Ascii.colon :: t')
  | more {k t : Bytes} {v : Json} {members : List (Bytes × Json)} {s t' rest : Bytes}
      (body : TextBody k) (key : Padded (printText k) t) (value : Spells v s)
      (padded : Padded s t') (h : SpellsMembers members rest) :
      SpellsMembers ((k, v) :: members) (t ++ Ascii.colon :: (t' ++ Ascii.comma :: rest))

end

/-- How a document may be spelled: a value with blanks around it. -/
def Document (v : Json) (t : Bytes) : Prop := ∃ s, Spells v s ∧ Padded s t

/-! ## Blanks -/

theorem skipBlanks_cons {b : UInt8} (h : isBlank b = false) (rest : Bytes) :
    skipBlanks (b :: rest) = b :: rest :=
  List.dropWhile_cons_of_neg (Bool.eq_false_iff.mp h)

theorem skipBlanks_append {w : Bytes} (h : Blanks w) (rest : Bytes) :
    skipBlanks (w ++ rest) = skipBlanks rest :=
  List.dropWhile_append_of_pos h

/-- Blanks end a number. -/
theorem EndsNumber.blanks {w rest : Bytes} (h : Blanks w) (ends : EndsNumber rest) :
    EndsNumber (w ++ rest) := by
  cases w with
  | nil => exact ends
  | cons b w =>
    refine endsNumber_cons ?_ (w ++ rest)
    have hblank := h b List.mem_cons_self
    simp only [isBlank, Bool.or_eq_true, beq_iff_eq] at hblank
    rcases hblank with ((rfl | rfl) | rfl) | rfl <;> rfl

theorem Padded.length_le {s t : Bytes} (h : Padded s t) : s.length ≤ t.length := by
  cases h
  simp only [List.length_append]
  omega

/-- No blanks are blanks. -/
theorem padded_refl (s : Bytes) : Padded s s := by
  have h : Padded s ([] ++ (s ++ [])) := .mk nofun nofun
  rwa [List.nil_append, List.append_nil] at h

/-! ## How a value begins -/

/-- A byte that a value may begin with: no blank, and not the mark that ends the items. -/
def beginsValue (b : UInt8) : Bool := !isBlank b && b != Ascii.closeBracket

theorem ne_of_beginsNumber {b m : UInt8} (h : beginsNumber b) (hm : beginsNumber m = false) :
    b ≠ m := by
  rintro rfl
  rw [h] at hm
  cases hm

theorem isBlank_of_beginsNumber {b : UInt8} (h : beginsNumber b) : isBlank b = false := by
  simp only [isBlank, Bool.or_eq_false_iff, beq_eq_false_iff_ne]
  exact ⟨⟨⟨ne_of_beginsNumber h rfl, ne_of_beginsNumber h rfl⟩, ne_of_beginsNumber h rfl⟩,
    ne_of_beginsNumber h rfl⟩

theorem beginsValue_of_beginsNumber {b : UInt8} (h : beginsNumber b) : beginsValue b := by
  rw [beginsValue, isBlank_of_beginsNumber h, bne_iff_ne.mpr (ne_of_beginsNumber h rfl)]
  rfl

theorem readScalar_of_beginsNumber {b : UInt8} (h : beginsNumber b) (rest : Bytes) :
    readScalar (b :: rest) =
      (readNumber (b :: rest)).map fun (spelling, left) => (number spelling, left) := by
  unfold readScalar
  split
  · next heq => exact absurd (List.cons.inj heq).1 (ne_of_beginsNumber h rfl)
  · next heq => exact absurd (List.cons.inj heq).1 (ne_of_beginsNumber h rfl)
  · next heq => exact absurd (List.cons.inj heq).1 (ne_of_beginsNumber h rfl)
  · next heq => exact absurd (List.cons.inj heq).1 (ne_of_beginsNumber h rfl)
  · rfl

theorem Spells.exists_first {v : Json} {s : Bytes} (h : Spells v s) :
    ∃ b rest, s = b :: rest ∧ beginsValue b := by
  cases h with
  | number hnumeral =>
    obtain ⟨b, rest, rfl, hfirst⟩ := hnumeral.exists_first
    exact ⟨b, rest, rfl, beginsValue_of_beginsNumber hfirst⟩
  | null | true | false | text | noItems | items | noMembers | members => exact ⟨_, _, rfl, rfl⟩

/-- Behind the blanks in front of it, a value begins. -/
theorem Padded.exists_first {v : Json} {s t : Bytes} (h : Spells v s) (padded : Padded s t)
    (rest : Bytes) : ∃ b tail, skipBlanks (t ++ rest) = b :: tail ∧ beginsValue b := by
  obtain @⟨w, w', front, -⟩ := padded
  obtain ⟨b, tail, rfl, hbegins⟩ := h.exists_first
  obtain ⟨hblank, -⟩ := Bool.and_eq_true_iff.mp hbegins
  refine ⟨b, tail ++ w' ++ rest, ?_, hbegins⟩
  rw [List.append_assoc, skipBlanks_append front]
  exact skipBlanks_cons (Bool.not_eq_true' _ ▸ hblank) _

theorem SpellsItems.exists_first {items : List Json} {s : Bytes} (h : SpellsItems items s)
    (rest : Bytes) : ∃ b tail, skipBlanks (s ++ rest) = b :: tail ∧ beginsValue b := by
  cases h with
  | last value padded => exact padded.exists_first value rest
  | more value padded =>
    rw [List.append_assoc]
    exact padded.exists_first value _

/-- Behind the blanks in front of them, members begin with the quote of a key. -/
theorem SpellsMembers.exists_quote {members : List (Bytes × Json)} {s : Bytes}
    (h : SpellsMembers members s) (rest : Bytes) :
    ∃ tail, skipBlanks (s ++ rest) = Ascii.quote :: tail := by
  have hkey {k t : Bytes} (key : Padded (printText k) t) (rest : Bytes) :
      ∃ tail, skipBlanks (t ++ rest) = Ascii.quote :: tail := by
    obtain @⟨w, w', front, -⟩ := key
    rw [List.append_assoc, skipBlanks_append front]
    exact ⟨_, skipBlanks_cons rfl _⟩
  cases h with
  | last _ key => rw [List.append_assoc]; exact hkey key _
  | more _ key => rw [List.append_assoc]; exact hkey key _

/-! ## What each reader takes -/

/-- A key is read with the blanks around it and the colon. -/
theorem readKey_append {k t : Bytes} (body : TextBody k) (key : Padded (printText k) t)
    (rest : Bytes) : readKey (t ++ Ascii.colon :: rest) = some (k, rest) := by
  obtain @⟨w, w', front, back⟩ := key
  have hread := body.readText_append (w' ++ Ascii.colon :: rest)
  have hsplit : printText k ++ (w' ++ Ascii.colon :: rest) =
      Ascii.quote :: (k ++ Ascii.quote :: (w' ++ Ascii.colon :: rest)) := by
    rw [printText, List.append_assoc]
    rfl
  have hfront : skipBlanks (w ++ (printText k ++ w') ++ Ascii.colon :: rest) =
      Ascii.quote :: (k ++ Ascii.quote :: (w' ++ Ascii.colon :: rest)) := by
    rw [List.append_assoc, skipBlanks_append front, List.append_assoc, hsplit]
    exact skipBlanks_cons rfl _
  have hback : skipBlanks (w' ++ Ascii.colon :: rest) = Ascii.colon :: rest := by
    rw [skipBlanks_append back]
    exact skipBlanks_cons rfl _
  unfold readKey
  rw [hfront]
  conv_lhs => whnf
  rw [hread]
  conv_lhs => whnf
  rw [hback]
  rfl

section

variable {fuel : Nat} {s s' left : Bytes} {k : Bytes} {v : Json}

theorem readItems_last (h : readValue fuel s = some (v, s'))
    (last : skipBlanks s' = Ascii.closeBracket :: left) :
    readItems (fuel + 1) s = some ([v], left) := by
  rw [readItems, h]
  dsimp only
  rw [last]
  rfl

theorem readItems_more (h : readValue fuel s = some (v, s'))
    (more : skipBlanks s' = Ascii.comma :: left) :
    readItems (fuel + 1) s =
      (readItems fuel left).map fun (items, left) => (v :: items, left) := by
  rw [readItems, h]
  dsimp only
  rw [more]
  rfl

theorem readMembers_last {behind : Bytes} (key : readKey s = some (k, behind))
    (h : readValue fuel behind = some (v, s'))
    (last : skipBlanks s' = Ascii.closeBrace :: left) :
    readMembers (fuel + 1) s = some ([(k, v)], left) := by
  rw [readMembers, key]
  dsimp only
  rw [h]
  dsimp only
  rw [last]
  rfl

theorem readMembers_more {behind : Bytes} (key : readKey s = some (k, behind))
    (h : readValue fuel behind = some (v, s')) (more : skipBlanks s' = Ascii.comma :: left) :
    readMembers (fuel + 1) s =
      (readMembers fuel left).map fun (members, left) => ((k, v) :: members, left) := by
  rw [readMembers, key]
  dsimp only
  rw [h]
  dsimp only
  rw [more]
  rfl

theorem readValue_blanks {w : Bytes} (h : Blanks w) (s : Bytes) :
    readValue fuel (w ++ s) = readValue fuel s := by
  cases fuel with
  | zero => rfl
  | succ fuel => rw [readValue, readValue, skipBlanks_append h]

theorem readValue_scalar {b : UInt8} (blank : isBlank b = false) (array : b ≠ Ascii.openBracket)
    (object : b ≠ Ascii.openBrace) (rest : Bytes) :
    readValue (fuel + 1) (b :: rest) = readScalar (b :: rest) := by
  unfold readValue
  rw [skipBlanks_cons blank]
  split
  · next heq => exact absurd (List.cons.inj heq).1 array
  · next heq => exact absurd (List.cons.inj heq).1 object
  · rfl

theorem readValue_noItems (empty : skipBlanks s = Ascii.closeBracket :: left) :
    readValue (fuel + 1) (Ascii.openBracket :: s) = some (array [], left) := by
  rw [readValue, skipBlanks_cons rfl]
  conv_lhs => whnf
  rw [empty]
  rfl

theorem readValue_array {b : UInt8} (first : skipBlanks s = b :: left)
    (closed : b ≠ Ascii.closeBracket) :
    readValue (fuel + 1) (Ascii.openBracket :: s) =
      (readItems fuel s).map fun (items, left) => (array items, left) := by
  rw [readValue, skipBlanks_cons rfl]
  conv_lhs => whnf
  rw [first]
  split
  · next heq => exact absurd (List.cons.inj heq).1 closed
  · rfl

theorem readValue_noMembers (empty : skipBlanks s = Ascii.closeBrace :: left) :
    readValue (fuel + 1) (Ascii.openBrace :: s) = some (object [], left) := by
  rw [readValue, skipBlanks_cons rfl]
  conv_lhs => whnf
  rw [empty]
  rfl

theorem readValue_object (first : skipBlanks s = Ascii.quote :: left) :
    readValue (fuel + 1) (Ascii.openBrace :: s) =
      (readMembers fuel s).map fun (members, left) => (object members, left) := by
  rw [readValue, skipBlanks_cons rfl]
  conv_lhs => whnf
  rw [first]
  rfl

end

/-! ## The three readers on layouts -/

/-- What stands behind an opening mark up to its closing one. -/
theorem bracket_append (mark mark' : UInt8) (s rest : Bytes) :
    mark :: s ++ [mark'] ++ rest = mark :: (s ++ mark' :: rest) := by
  rw [List.append_assoc]
  rfl

theorem skipBlanks_mark {w : Bytes} (h : Blanks w) {mark : UInt8} (blank : isBlank mark = false)
    (rest : Bytes) : skipBlanks (w ++ mark :: rest) = mark :: rest := by
  rw [skipBlanks_append h]
  exact skipBlanks_cons blank rest

/-- A value that is read off the front of whatever ends it is read with the blanks around it. -/
theorem readValue_padded {v : Json} {s t : Bytes} {fuel : Nat} (padded : Padded s t)
    (h : ∀ {rest : Bytes}, EndsNumber rest → readValue fuel (s ++ rest) = some (v, rest))
    (mark : UInt8) (ends : goesOn mark = false) (blank : isBlank mark = false) (rest : Bytes) :
    ∃ s', readValue fuel (t ++ mark :: rest) = some (v, s') ∧ skipBlanks s' = mark :: rest := by
  obtain @⟨w, w', front, back⟩ := padded
  refine ⟨w' ++ mark :: rest, ?_, skipBlanks_mark back blank rest⟩
  rw [List.append_assoc, readValue_blanks front, List.append_assoc]
  exact h (.blanks back (endsNumber_cons ends rest))

mutual

/-- A value is read as it is spelled, if no number goes on behind it. -/
theorem readValue_append : ∀ {v : Json} {s : Bytes}, Spells v s → ∀ {rest : Bytes},
    EndsNumber rest → ∀ fuel, 2 * s.length ≤ fuel + 1 →
    readValue fuel (s ++ rest) = some (v, rest)
  | v, s, h, _, _, 0, enough => by
    obtain ⟨b, tail, rfl, -⟩ := h.exists_first
    rw [List.length_cons] at enough
    omega
  | _, _, .null, _, _, _ + 1, _ => rfl
  | _, _, .true, _, _, _ + 1, _ => rfl
  | _, _, .false, _, _, _ + 1, _ => rfl
  | _, _, .number h, rest, ends, fuel + 1, _ => by
    have hread := h.readNumber_append ends
    obtain ⟨b, tail, rfl, hfirst⟩ := h.exists_first
    rw [List.cons_append, readValue_scalar (isBlank_of_beginsNumber hfirst)
      (ne_of_beginsNumber hfirst rfl) (ne_of_beginsNumber hfirst rfl),
      readScalar_of_beginsNumber hfirst, ← List.cons_append, hread]
    rfl
  | _, _, .text h, rest, _, fuel + 1, _ => by
    rw [printText, bracket_append, readValue_scalar rfl (by decide) (by decide)]
    show (readText _).map _ = _
    rw [h.readText_append]
    rfl
  | _, _, .noItems blanks, rest, _, fuel + 1, _ => by
    rw [bracket_append]
    exact readValue_noItems (skipBlanks_mark blanks rfl rest)
  | _, _, .items h, rest, _, fuel + 1, enough => by
    obtain ⟨b, tail, hfirst, hbegins⟩ := h.exists_first (Ascii.closeBracket :: rest)
    simp only [List.length_append, List.length_cons] at enough
    rw [bracket_append, readValue_array hfirst (bne_iff_ne.mp (Bool.and_eq_true_iff.mp hbegins).2),
      readItems_append h rest fuel (by omega)]
    rfl
  | _, _, .noMembers blanks, rest, _, fuel + 1, _ => by
    rw [bracket_append]
    exact readValue_noMembers (skipBlanks_mark blanks rfl rest)
  | _, _, .members h, rest, _, fuel + 1, enough => by
    obtain ⟨tail, hfirst⟩ := h.exists_quote (Ascii.closeBrace :: rest)
    simp only [List.length_append, List.length_cons] at enough
    rw [bracket_append, readValue_object hfirst, readMembers_append h rest fuel (by omega)]
    rfl

/-- Items are read as they are spelled, up to the closing bracket. -/
theorem readItems_append : ∀ {items : List Json} {s : Bytes}, SpellsItems items s →
    ∀ (rest : Bytes) (fuel : Nat), 2 * s.length ≤ fuel →
    readItems fuel (s ++ Ascii.closeBracket :: rest) = some (items, rest)
  | _, _, .last value padded, rest, 0, enough => by
    obtain ⟨b, tail, rfl, -⟩ := value.exists_first
    have hle := padded.length_le
    rw [List.length_cons] at hle
    omega
  | _, _, .last value padded, rest, fuel + 1, enough => by
    have hle := padded.length_le
    obtain ⟨s', hvalue, hlast⟩ := readValue_padded padded
      (fun ends => readValue_append value ends fuel (by omega)) Ascii.closeBracket rfl rfl rest
    exact readItems_last hvalue hlast
  | _, _, .more value padded h, rest, 0, enough => by
    simp only [List.length_append, List.length_cons] at enough
    omega
  | _, _, @SpellsItems.more _ _ _ _ s value padded h, rest, fuel + 1, enough => by
    have hle := padded.length_le
    simp only [List.length_append, List.length_cons] at enough
    obtain ⟨s', hvalue, hmore⟩ := readValue_padded padded
      (fun ends => readValue_append value ends fuel (by omega)) Ascii.comma rfl rfl
      (s ++ Ascii.closeBracket :: rest)
    rw [List.append_assoc, List.cons_append, readItems_more hvalue hmore,
      readItems_append h rest fuel (by omega)]
    rfl

/-- Members are read as they are spelled, up to the closing brace. -/
theorem readMembers_append : ∀ {members : List (Bytes × Json)} {s : Bytes},
    SpellsMembers members s → ∀ (rest : Bytes) (fuel : Nat), 2 * s.length ≤ fuel →
    readMembers fuel (s ++ Ascii.closeBrace :: rest) = some (members, rest)
  | _, _, .last body key value padded, rest, 0, enough => by
    simp only [List.length_append, List.length_cons] at enough
    omega
  | _, _, .last body key value padded, rest, fuel + 1, enough => by
    have hle := padded.length_le
    simp only [List.length_append, List.length_cons] at enough
    obtain ⟨s', hvalue, hlast⟩ := readValue_padded padded
      (fun ends => readValue_append value ends fuel (by omega)) Ascii.closeBrace rfl rfl rest
    rw [List.append_assoc, List.cons_append]
    exact readMembers_last (readKey_append body key _) hvalue hlast
  | _, _, .more body key value padded h, rest, 0, enough => by
    simp only [List.length_append, List.length_cons] at enough
    omega
  | _, _, @SpellsMembers.more _ _ _ _ _ _ s body key value padded h, rest, fuel + 1, enough => by
    have hle := padded.length_le
    simp only [List.length_append, List.length_cons] at enough
    obtain ⟨s', hvalue, hmore⟩ := readValue_padded padded
      (fun ends => readValue_append value ends fuel (by omega)) Ascii.comma rfl rfl
      (s ++ Ascii.closeBrace :: rest)
    rw [List.append_assoc, List.cons_append, List.append_assoc, List.cons_append,
      readMembers_more (readKey_append body key _) hvalue hmore,
      readMembers_append h rest fuel (by omega)]
    rfl

end

/-- A document is read from each of its layouts. -/
theorem parse?_of_document {v : Json} {t : Bytes} (h : Document v t) : parse? t = some v := by
  obtain ⟨s, hs, padded⟩ := h
  have hle := padded.length_le
  obtain @⟨w, w', front, back⟩ := padded
  have hends : EndsNumber w' := by
    have h := EndsNumber.blanks back endsNumber_nil
    rwa [List.append_nil] at h
  have hread : readValue (2 * (w ++ (s ++ w')).length + 2) (w ++ (s ++ w')) = some (v, w') := by
    rw [readValue_blanks front]
    exact readValue_append hs hends _ (by omega)
  have hrest : skipBlanks w' = [] := by
    have h := skipBlanks_append back []
    rwa [List.append_nil] at h
  unfold parse?
  rw [hread]
  dsimp only
  rw [hrest]
  rfl

end Json

end TankGauge
