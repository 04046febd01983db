import TankGauge.Text.Bytes

/-!
# Text and lists of bounded size

A `BoundedText cap` takes at most `cap` bytes of UTF-8, a `BoundedList α cap` holds at most `cap`
items. Writing into either is all or nothing: what does not fit whole is left out, and what is
there already stays.

Cutting a text down to size goes character by character (`BoundedText.truncate`), so the cut never
falls inside a character.
-/

namespace TankGauge

/-- A text whose UTF-8 form takes at most `cap` bytes. -/
structure BoundedText (cap : Nat) where
  /-- The text itself. -/
  text : String
  fits : text.utf8ByteSize ≤ cap
deriving DecidableEq, Repr

namespace BoundedText

variable {cap : Nat}

/-- The text of no characters. -/
def empty : BoundedText cap := ⟨"", by simp⟩

instance : Inhabited (BoundedText cap) := ⟨empty⟩

/-- The whole of `s`, when it fits. -/
def ofString? (s : String) : Option (BoundedText cap) :=
  if h : s.utf8ByteSize ≤ cap then some ⟨s, h⟩ else none

/-- `t` with `s` behind it, when both fit. -/
def append? (t : BoundedText cap) (s : String) : Option (BoundedText cap) :=
  ofString? (t.text ++ s)

/-- Writes `s` behind `t`; an `s` that does not fit is dropped whole. -/
def write (t : BoundedText cap) (s : String) : BoundedText cap :=
  (t.append? s).getD t

/-- Writes characters behind `t` up to the first one that does not fit. -/
def writeWhileFits (t : BoundedText cap) : List Char → BoundedText cap
  | [] => t
  | c :: rest =>
    match t.append? (String.singleton c) with
    | some longer => longer.writeWhileFits rest
    | none => t

/-- As many leading characters of `s` as fit. -/
def truncate (s : String) : BoundedText cap := empty.writeWhileFits s.toList

/-- A text of no characters. -/
def isEmpty (t : BoundedText cap) : Bool := t.text.isEmpty

@[ext] theorem ext {s t : BoundedText cap} (h : s.text = t.text) : s = t := by
  cases s; cases t; simp_all

theorem ofString?_text (t : BoundedText cap) : ofString? t.text = some t := by
  simp [ofString?, t.fits]

theorem text_of_ofString? {s : String} {t : BoundedText cap} (h : ofString? s = some t) :
    t.text = s := by
  unfold ofString? at h
  split at h
  · cases h; rfl
  · cases h

theorem text_write_of_fits {t : BoundedText cap} {s : String}
    (h : t.text.utf8ByteSize + s.utf8ByteSize ≤ cap) : (t.write s).text = t.text ++ s := by
  simp [write, append?, ofString?, String.utf8ByteSize_append, h]

theorem write_of_not_fits {t : BoundedText cap} {s : String}
    (h : ¬ t.text.utf8ByteSize + s.utf8ByteSize ≤ cap) : t.write s = t := by
  simp [write, append?, ofString?, String.utf8ByteSize_append, h]

end BoundedText

/-- A list of at most `cap` items. -/
structure BoundedList (α : Type) (cap : Nat) where
  /-- The items, oldest first. -/
  items : List α
  fits : items.length ≤ cap
deriving DecidableEq, Repr

namespace BoundedList

variable {α : Type} {cap : Nat}

/-- The list of no items. -/
def empty : BoundedList α cap := ⟨[], Nat.zero_le _⟩

instance : Inhabited (BoundedList α cap) := ⟨empty⟩

/-- The list with `a` at its end, when there is room. -/
def push? (l : BoundedList α cap) (a : α) : Option (BoundedList α cap) :=
  if h : l.items.length < cap then
    some ⟨l.items ++ [a], by simpa using Nat.succ_le_of_lt h⟩
  else none

/-- Puts `a` at the end; without room for it the list stays as it is. -/
def push (l : BoundedList α cap) (a : α) : BoundedList α cap := (l.push? a).getD l

/-- The first `cap` items of a list. -/
def truncate (items : List α) : BoundedList α cap := ⟨items.take cap, List.length_take_le ..⟩

theorem items_push_of_room {l : BoundedList α cap} {a : α} (h : l.items.length < cap) :
    (l.push a).items = l.items ++ [a] := by
  simp [push, push?, h]

theorem push_of_full {l : BoundedList α cap} {a : α} (h : ¬ l.items.length < cap) :
    l.push a = l := by
  simp [push, push?, h]

@[ext] theorem ext {l l' : BoundedList α cap} (h : l.items = l'.items) : l = l' := by
  cases l; cases l'; simp_all

theorem truncate_of_fits {items : List α} (h : items.length ≤ cap) :
    (truncate items : BoundedList α cap) = ⟨items, h⟩ :=
  ext (List.take_of_length_le h)

@[simp] theorem truncate_items (l : BoundedList α cap) : truncate l.items = l :=
  truncate_of_fits l.fits

/-- To put an item at the end is to cut the list with it behind down to size. -/
theorem push_eq_truncate (l : BoundedList α cap) (a : α) : l.push a = truncate (l.items ++ [a]) := by
  by_cases h : l.items.length < cap
  · rw [truncate_of_fits (by rw [List.length_append]; exact h)]
    exact ext (items_push_of_room h)
  · rw [push_of_full h]
    have hfull : cap = l.items.length := Nat.le_antisymm (Nat.le_of_not_lt h) l.fits
    exact ext (List.take_left' hfull.symm).symm

/-- What is put behind a list leaves the list at the beginning. -/
theorem prefix_truncate (l : BoundedList α cap) (more : List α) :
    l.items <+: (truncate (l.items ++ more) : BoundedList α cap).items := by
  show l.items <+: (l.items ++ more).take cap
  rw [List.take_append, List.take_of_length_le l.fits]
  exact List.prefix_append _ _

/-- What is put behind a list that has been cut is cut as if the list were whole. -/
theorem truncate_append (items more : List α) :
    (truncate ((truncate items : BoundedList α cap).items ++ more) : BoundedList α cap) =
      truncate (items ++ more) := by
  refine ext ?_
  simp only [truncate, List.take_append, List.take_take, Nat.min_self, List.length_take]
  congr 2
  omega

end BoundedList

end TankGauge
