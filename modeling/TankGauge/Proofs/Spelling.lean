import Mathlib.Data.List.TakeDrop
import TankGauge.Json.Parser
import TankGauge.Json.Text

/-!
# How texts and numbers may be spelled

What may stand between the quotes of a text (`Json.TextBody`) and what may be a number
(`Json.Numeral`) is given by rules that know of no reader. A text body is taken off the front of its
closing quote as it is (`Json.TextBody.readText_append`), and a number off the front of anything
that does not go on with it (`Json.Numeral.readNumber_append`).

What `Json.Text.spell` and `Json.ofNatural` write is of this kind, and it reads as the text and the
number that it was written for. Both are settled piece by piece: a text by its bytes, of which each
is spelled by itself, and a number by its last digit, since `n` is written as `n / 10` with one
digit behind it.
-/

namespace TankGauge

namespace Json

/-! ## Texts -/

/-- What may stand between the quotes of a text: bytes that are no control characters, and escapes
by a mark or by four hexadecimal digits. -/
inductive TextBody : Bytes → Prop
  | nil : TextBody []
  | plain {b : UInt8} {rest : Bytes} (quote : b ≠ Ascii.quote) (backslash : b ≠ Ascii.backslash)
      (printable : ¬ b < 0x20) (h : TextBody rest) : TextBody (b :: rest)
  | mark {m : UInt8} {rest : Bytes} (mark : isMark m) (h : TextBody rest) :
      TextBody (Ascii.backslash :: m :: rest)
  | unit {a b c d : UInt8} {rest : Bytes} (ha : isHexDigit a) (hb : isHexDigit b)
      (hc : isHexDigit c) (hd : isHexDigit d) (h : TextBody rest) :
      TextBody (Ascii.backslash :: Ascii.lowerU :: a :: b :: c :: d :: rest)

/-- Puts bytes in front of the spelling that was read behind them. -/
def behind (front : Bytes) : Bytes × Bytes → Bytes × Bytes
  | (spelling, left) => (front ++ spelling, left)

theorem readText_mark {m : UInt8} (mark : isMark m) (rest : Bytes) :
    readText (Ascii.backslash :: m :: rest) =
      (readText rest).map (behind [Ascii.backslash, m]) := by
  have hne : m ≠ Ascii.lowerU := by rintro rfl; cases mark
  exact (readText.eq_4 m rest (fun _ _ _ _ _ heq => absurd heq hne)).trans (if_pos mark)

theorem readText_unit {a b c d : UInt8} (ha : isHexDigit a) (hb : isHexDigit b)
    (hc : isHexDigit c) (hd : isHexDigit d) (rest : Bytes) :
    readText (Ascii.backslash :: Ascii.lowerU :: a :: b :: c :: d :: rest) =
      (readText rest).map (behind [Ascii.backslash, Ascii.lowerU, a, b, c, d]) := by
  refine (readText.eq_3 a b c d rest).trans (if_pos ?_)
  rw [ha, hb, hc, hd]
  rfl

theorem readText_plain {b : UInt8} (quote : b ≠ Ascii.quote) (backslash : b ≠ Ascii.backslash)
    (printable : ¬ b < 0x20) (rest : Bytes) :
    readText (b :: rest) = (readText rest).map (behind [b]) :=
  (readText.eq_5 b rest quote (fun _ _ _ _ _ heq => absurd heq backslash)
    (fun _ _ heq => absurd heq backslash)).trans (if_neg printable)

/-- A text body is read up to its closing quote. -/
theorem TextBody.readText_append {body : Bytes} (h : TextBody body) (rest : Bytes) :
    readText (body ++ Ascii.quote :: rest) = some (body, rest) := by
  induction h with
  | nil => rfl
  | plain quote backslash printable _ ih =>
    rw [List.cons_append, readText_plain quote backslash printable, ih]
    rfl
  | mark mark _ ih =>
    rw [List.cons_append, List.cons_append, readText_mark mark, ih]
    rfl
  | unit ha hb hc hd _ ih =>
    simp only [List.cons_append, readText_unit ha hb hc hd, ih]
    rfl

namespace Text

/-- The digits of the two halves of a control character are hexadecimal, and stand for it. -/
theorem unit_of_control : ∀ n < 0x20,
    isHexDigit (hexDigit (n / 16)) ∧ isHexDigit (hexDigit (n % 16)) ∧
      unit? Ascii.zero Ascii.zero (hexDigit (n / 16)) (hexDigit (n % 16)) = some n ∧
      isTrailing n = false ∧ isLeading n = false ∧
      String.utf8EncodeChar (Char.ofNat n) = [UInt8.ofNat n] := by
  decide

/-- How a byte may be spelled: by a mark, by its number, or as it is. -/
theorem spellByte_cases (b : UInt8) :
    (∃ m, isMark m ∧ marked? m = some b ∧ spellByte b = [Ascii.backslash, m]) ∨
      (b < 0x20 ∧ spellByte b = [Ascii.backslash, Ascii.lowerU, Ascii.zero, Ascii.zero,
        hexDigit (b.toNat / 16), hexDigit (b.toNat % 16)]) ∨
      (b ≠ Ascii.quote ∧ b ≠ Ascii.backslash ∧ ¬ b < 0x20 ∧ spellByte b = [b]) := by
  unfold spellByte
  -- Seven bytes have a mark of their own.
  iterate 7
    split
    · next h => exact .inl ⟨_, rfl, by rw [h]; rfl, rfl⟩
  split
  · next hcontrol => exact .inr (.inl ⟨hcontrol, rfl⟩)
  · next hquote hbackslash _ _ _ _ _ hprintable =>
    exact .inr (.inr ⟨hquote, hbackslash, hprintable, rfl⟩)

/-- What a text is spelled as may stand between quotes. -/
theorem textBody_flatMap (bytes : Bytes) : TextBody (bytes.flatMap spellByte) := by
  induction bytes with
  | nil => exact .nil
  | cons b bytes ih =>
    rw [List.flatMap_cons]
    rcases spellByte_cases b with ⟨m, hmark, -, hspell⟩ | ⟨hcontrol, hspell⟩ |
      ⟨hquote, hbackslash, hprintable, hspell⟩ <;> rw [hspell]
    · exact .mark hmark ih
    · obtain ⟨hhigh, hlow, -⟩ := unit_of_control b.toNat hcontrol
      exact .unit rfl rfl hhigh hlow ih
    · exact .plain hquote hbackslash hprintable ih

theorem unescape_mark {m b : UInt8} (marked : marked? m = some b) (rest : Bytes) :
    unescape (Ascii.backslash :: m :: rest) = (unescape rest).map (b :: ·) := by
  have hne : m ≠ Ascii.lowerU := by rintro rfl; cases marked
  refine (unescape.eq_3 m rest (fun _ _ _ _ _ heq => absurd heq hne)).trans ?_
  rw [marked]

theorem unescape_unit {a b c d : UInt8} {u : Nat} (unit : unit? a b c d = some u)
    (trailing : isTrailing u = false) (leading : isLeading u = false) (rest : Bytes) :
    unescape (Ascii.backslash :: Ascii.lowerU :: a :: b :: c :: d :: rest) =
      (unescape rest).map (String.utf8EncodeChar (Char.ofNat u) ++ ·) := by
  refine (unescape.eq_2 a b c d rest).trans ?_
  simp only [unit, trailing, leading, Bool.false_eq_true, if_false]

theorem unescape_plain {b : UInt8} (backslash : b ≠ Ascii.backslash) (rest : Bytes) :
    unescape (b :: rest) = (unescape rest).map (b :: ·) :=
  unescape.eq_5 b rest (fun _ _ _ _ _ heq => absurd heq backslash)
    (fun _ _ heq => absurd heq backslash) (fun heq => absurd heq backslash)

theorem unescape_spellByte (b : UInt8) (rest : Bytes) :
    unescape (spellByte b ++ rest) = (unescape rest).map (b :: ·) := by
  rcases spellByte_cases b with ⟨m, -, hmarked, hspell⟩ | ⟨hcontrol, hspell⟩ |
    ⟨-, hbackslash, -, hspell⟩ <;> rw [hspell]
  · exact unescape_mark hmarked rest
  · obtain ⟨-, -, hunit, htrailing, hleading, hencode⟩ := unit_of_control b.toNat hcontrol
    refine (unescape_unit hunit htrailing hleading rest).trans ?_
    rw [hencode, UInt8.ofNat_toNat]
    rfl
  · exact unescape_plain hbackslash rest

/-- What a text is spelled as stands for the text. -/
theorem read?_spell (s : String) : read? (spell s) = some s := by
  have hbytes (bytes : Bytes) : unescape (bytes.flatMap spellByte) = some bytes := by
    induction bytes with
    | nil => rfl
    | cons b bytes ih =>
      rw [List.flatMap_cons, unescape_spellByte, ih]
      rfl
  rw [read?, spell, hbytes, Option.bind_some, Bytes.ofUtf8?_utf8]

end Text

/-! ## Numbers -/

theorem naturalOf_append_digit (digits : Bytes) (d : UInt8) :
    naturalOf (digits ++ [d]) = naturalOf digits * 10 + Ascii.digitValue d := by
  rw [naturalOf, List.foldl_append]
  rfl

end Json

/-! ### How a number is written -/

namespace Bytes

theorem utf8_append (s t : String) : utf8 (s ++ t) = utf8 s ++ utf8 t := by
  simp only [utf8, String.toUTF8, String.toByteArray_append, ByteArray.data_append,
    Array.toList_append]

theorem utf8_digit : ∀ n < 10, utf8 (toString n) = [UInt8.ofNat (0x30 + n)] := by
  decide

/-- A number of more than one digit has its last digit behind the others. -/
theorem utf8_toString_of_le {n : Nat} (h : 10 ≤ n) :
    utf8 (toString n) = utf8 (toString (n / 10)) ++ utf8 (toString (n % 10)) := by
  have hdigits : Nat.toDigits 10 n = Nat.toDigits 10 (n / 10) ++ Nat.toDigits 10 (n % 10) := by
    rw [Nat.toDigits_of_base_le (by decide) h,
      Nat.toDigits_of_lt_base (Nat.mod_lt n (by decide))]
  rw [← utf8_append]
  show utf8 (String.ofList (Nat.toDigits 10 n)) =
    utf8 (String.ofList (Nat.toDigits 10 (n / 10)) ++ String.ofList (Nat.toDigits 10 (n % 10)))
  rw [hdigits, String.ofList_append]

/-- What holds of numbers of one digit, and goes over to a number from all digits but the last and
from the last digit, holds of all numbers. -/
theorem decimal_induction {P : Nat → Prop} (digit : ∀ n < 10, P n)
    (longer : ∀ n, 10 ≤ n → P (n / 10) → P (n % 10) → P n) (n : Nat) : P n := by
  induction n using Nat.strongRecOn with
  | ind n ih =>
    by_cases h : n < 10
    · exact digit n h
    · have hle : 10 ≤ n := Nat.le_of_not_lt h
      exact longer n hle (ih _ (Nat.div_lt_self (by omega) (by decide)))
        (digit _ (Nat.mod_lt n (by decide)))

theorem isDigit_utf8_toString (n : Nat) : (utf8 (toString n)).all Ascii.isDigit := by
  induction n using decimal_induction with
  | digit n h =>
    have hall : ∀ n < 10, (utf8 (toString n)).all Ascii.isDigit := by decide
    exact hall n h
  | longer n h front last =>
    rw [utf8_toString_of_le h, List.all_append, front, last]
    rfl

theorem naturalOf_utf8_toString (n : Nat) : Json.naturalOf (utf8 (toString n)) = n := by
  induction n using decimal_induction with
  | digit n h =>
    have hall : ∀ n < 10, Json.naturalOf (utf8 (toString n)) = n := by decide
    exact hall n h
  | longer n h front _ =>
    have hlast : n % 10 < 10 := Nat.mod_lt n (by decide)
    have hvalue : ∀ d < 10, Ascii.digitValue (UInt8.ofNat (0x30 + d)) = d := by decide
    rw [utf8_toString_of_le h, utf8_digit _ hlast, Json.naturalOf_append_digit, front,
      hvalue _ hlast]
    omega

/-- Only zero begins with a zero. -/
theorem exists_leading_digit (n : Nat) :
    ∃ b rest, utf8 (toString n) = b :: rest ∧ (b = Ascii.zero → rest = []) := by
  -- All digits but the last may begin with a zero only if there are none, so the induction is on
  -- what the number is.
  suffices h : ∃ b rest, utf8 (toString n) = b :: rest ∧ (b = Ascii.zero → n = 0) by
    obtain ⟨b, rest, heq, hzero⟩ := h
    refine ⟨b, rest, heq, fun hb => ?_⟩
    obtain rfl := hzero hb
    exact (List.cons.inj heq).2.symm
  induction n using decimal_induction with
  | digit n h =>
    refine ⟨_, [], utf8_digit n h, ?_⟩
    have hall : ∀ n < 10, UInt8.ofNat (0x30 + n) = Ascii.zero → n = 0 := by decide
    exact hall n h
  | longer n h front last =>
    obtain ⟨b, rest, heq, hzero⟩ := front
    refine ⟨b, rest ++ utf8 (toString (n % 10)), ?_, fun hb => ?_⟩
    · rw [utf8_toString_of_le h, heq]
      rfl
    · have := hzero hb
      omega

end Bytes

/-! ### How a number is read -/

namespace Json

/-- Digits, one at least. -/
structure Digits (s : Bytes) : Prop where
  nonempty : s ≠ []
  all : s.all Ascii.isDigit

/-- The part of a number before the point: a lone zero, or digits that do not begin with one. -/
structure Whole (s : Bytes) : Prop extends Digits s where
  leading : ∀ rest, s = Ascii.zero :: rest → rest = []

/-- The fraction of a number, or nothing. -/
inductive Fraction : Bytes → Prop
  | none : Fraction []
  | digits {s : Bytes} (h : Digits s) : Fraction (Ascii.point :: s)

/-- The exponent of a number, or nothing. -/
inductive Exponent : Bytes → Prop
  | none : Exponent []
  | digits {e : UInt8} {sign s : Bytes} (letter : e = Ascii.lowerE ∨ e = Ascii.upperE)
      (signed : sign ∈ [[], [Ascii.plus], [Ascii.minus]]) (h : Digits s) :
      Exponent (e :: sign ++ s)

/-- What may be a number. -/
inductive Numeral : Bytes → Prop
  | positive {w f e : Bytes} (whole : Whole w) (fraction : Fraction f) (exponent : Exponent e) :
      Numeral (w ++ f ++ e)
  | negative {w f e : Bytes} (whole : Whole w) (fraction : Fraction f) (exponent : Exponent e) :
      Numeral (Ascii.minus :: (w ++ f ++ e))

/-- Whether a number may go on with a byte. -/
def goesOn (b : UInt8) : Bool :=
  Ascii.isDigit b || b == Ascii.point || b == Ascii.lowerE || b == Ascii.upperE

/-- Bytes that no number goes on with. -/
def EndsNumber (rest : Bytes) : Prop := ∀ b, rest.head? = some b → goesOn b = false

theorem endsNumber_nil : EndsNumber [] := nofun

theorem endsNumber_cons {b : UInt8} (h : goesOn b = false) (rest : Bytes) :
    EndsNumber (b :: rest) := by
  intro b' hb
  obtain rfl := Option.some.inj hb
  exact h

theorem isDigit_of_not_goesOn {b : UInt8} (h : goesOn b = false) : Ascii.isDigit b = false := by
  simp only [goesOn, Bool.or_eq_false_iff] at h
  exact h.1.1.1

theorem Digits.exists_first {s : Bytes} (h : Digits s) :
    ∃ b rest, s = b :: rest ∧ Ascii.isDigit b := by
  cases s with
  | nil => exact absurd rfl h.nonempty
  | cons b rest => exact ⟨b, rest, rfl, List.all_eq_true.mp h.all b List.mem_cons_self⟩

theorem ne_of_isDigit {b m : UInt8} (h : Ascii.isDigit b) (hm : Ascii.isDigit m = false) :
    b ≠ m := by
  rintro rfl
  rw [h] at hm
  cases hm

/-- Digits are read up to anything that is none. -/
theorem readDigits_append {digits rest : Bytes} (h : Digits digits)
    (ends : ∀ b, rest.head? = some b → Ascii.isDigit b = false) :
    readDigits (digits ++ rest) = some (digits, rest) := by
  have hall : ∀ b ∈ digits, Ascii.isDigit b := List.all_eq_true.mp h.all
  have hstop : rest.takeWhile Ascii.isDigit = [] ∧ rest.dropWhile Ascii.isDigit = rest := by
    cases rest with
    | nil => exact ⟨rfl, rfl⟩
    | cons b rest =>
      have hdigit : ¬ Ascii.isDigit b := Bool.eq_false_iff.mp (ends b rfl)
      exact ⟨List.takeWhile_cons_of_neg hdigit, List.dropWhile_cons_of_neg hdigit⟩
  have hempty : digits.isEmpty = false := List.isEmpty_eq_false_iff.mpr h.nonempty
  simp only [readDigits, List.span_eq_takeWhile_dropWhile, List.takeWhile_append_of_pos hall,
    List.dropWhile_append_of_pos hall, hstop, List.append_nil, hempty, Bool.false_eq_true, if_false]

theorem readWhole_append {w rest : Bytes} (h : Whole w)
    (ends : ∀ b, rest.head? = some b → Ascii.isDigit b = false) :
    readWhole (w ++ rest) = some (w, rest) := by
  unfold readWhole
  rw [readDigits_append h.toDigits ends]
  split
  · next heq =>
    have hlist := congrArg Prod.fst (Option.some.inj heq)
    cases h.leading _ hlist
  · rfl

/-- Behind a fraction stands no digit, and no point if there is none. -/
theorem readFraction_append {f rest : Bytes} (h : Fraction f)
    (ends : ∀ b, rest.head? = some b → Ascii.isDigit b = false ∧ b ≠ Ascii.point) :
    readFraction (f ++ rest) = some (f, rest) := by
  cases h with
  | none =>
    rw [List.nil_append]
    unfold readFraction
    split
    · exact absurd rfl (ends _ rfl).2
    · rfl
  | digits hdigits =>
    show (readDigits (_ ++ rest)).map _ = _
    rw [readDigits_append hdigits fun b hb => (ends b hb).1]
    rfl

theorem readSign_append {sign rest : Bytes} (h : sign ∈ [[], [Ascii.plus], [Ascii.minus]])
    (unsigned : ∀ b, rest.head? = some b → b ≠ Ascii.plus ∧ b ≠ Ascii.minus) :
    readSign (sign ++ rest) = (sign, rest) := by
  simp only [List.mem_cons, List.not_mem_nil, or_false] at h
  rcases h with rfl | rfl | rfl
  · rw [List.nil_append]
    unfold readSign
    split
    · exact absurd rfl (unsigned _ rfl).1
    · exact absurd rfl (unsigned _ rfl).2
    · rfl
  · rfl
  · rfl

theorem readExponent_append {e rest : Bytes} (h : Exponent e) (ends : EndsNumber rest) :
    readExponent (e ++ rest) = some (e, rest) := by
  cases h with
  | none =>
    rw [List.nil_append]
    unfold readExponent
    split
    · rfl
    · next b rest =>
      have hgoesOn : goesOn b = false := ends b rfl
      refine if_neg ?_
      rintro (rfl | rfl) <;> cases hgoesOn
  | @digits e sign s letter signed hdigits =>
    have hread := readDigits_append hdigits fun b hb => isDigit_of_not_goesOn (ends b hb)
    have hsign : readSign (sign ++ (s ++ rest)) = (sign, s ++ rest) := by
      refine readSign_append signed fun b hb => ?_
      obtain ⟨b', tail, rfl, hdigit⟩ := hdigits.exists_first
      obtain rfl : b' = b := Option.some.inj hb
      exact ⟨ne_of_isDigit hdigit rfl, ne_of_isDigit hdigit rfl⟩
    rw [show e :: sign ++ s ++ rest = e :: (sign ++ (s ++ rest)) by simp]
    simp only [readExponent, if_pos letter, hsign, hread, Option.map_some]

/-- Behind the fraction stand the exponent and what no number goes on with. -/
theorem ends_of_exponent {e rest : Bytes} (h : Exponent e) (ends : EndsNumber rest) :
    ∀ b, (e ++ rest).head? = some b → Ascii.isDigit b = false ∧ b ≠ Ascii.point := by
  intro b hb
  cases h with
  | none =>
    have hgoesOn := ends b hb
    refine ⟨isDigit_of_not_goesOn hgoesOn, ?_⟩
    rintro rfl
    cases hgoesOn
  | digits letter =>
    obtain rfl := Option.some.inj hb
    rcases letter with rfl | rfl <;> exact ⟨rfl, by decide⟩

/-- Behind the digits in front stand the fraction and what it ends with. -/
theorem ends_of_fraction {f rest : Bytes} (h : Fraction f)
    (ends : ∀ b, rest.head? = some b → Ascii.isDigit b = false ∧ b ≠ Ascii.point) :
    ∀ b, (f ++ rest).head? = some b → Ascii.isDigit b = false := by
  intro b hb
  cases h with
  | none => exact (ends b hb).1
  | digits =>
    obtain rfl := Option.some.inj hb
    rfl

/-- A number without its sign is read up to what no number goes on with. -/
theorem readUnsigned_append {w f e rest : Bytes} (whole : Whole w) (fraction : Fraction f)
    (exponent : Exponent e) (ends : EndsNumber rest) :
    readUnsigned (w ++ f ++ e ++ rest) = some (w ++ f ++ e, rest) := by
  have hexponent := ends_of_exponent exponent ends
  have hfraction := ends_of_fraction fraction hexponent
  rw [show w ++ f ++ e ++ rest = w ++ (f ++ (e ++ rest)) by simp]
  simp only [readUnsigned, readWhole_append whole hfraction,
    readFraction_append fraction hexponent, readExponent_append exponent ends,
    Option.bind_eq_bind, Option.bind_some, Option.pure_def]

/-- A byte that a number may begin with. -/
def beginsNumber (b : UInt8) : Bool := b == Ascii.minus || Ascii.isDigit b

namespace Numeral

variable {s : Bytes}

theorem exists_first (h : Numeral s) : ∃ b rest, s = b :: rest ∧ beginsNumber b := by
  cases h with
  | positive whole =>
    obtain ⟨b, tail, rfl, hdigit⟩ := whole.exists_first
    exact ⟨b, _, rfl, by rw [beginsNumber, hdigit, Bool.or_true]⟩
  | negative => exact ⟨_, _, rfl, rfl⟩

/-- A number is read up to what no number goes on with. -/
theorem readNumber_append (h : Numeral s) {rest : Bytes} (ends : EndsNumber rest) :
    readNumber (s ++ rest) = some (s, rest) := by
  cases h with
  | positive whole fraction exponent =>
    have hread := readUnsigned_append whole fraction exponent ends
    obtain ⟨b, tail, rfl, hdigit⟩ := whole.exists_first
    unfold readNumber
    split
    · next heq => exact absurd (List.cons.inj heq).1 (ne_of_isDigit hdigit rfl)
    · exact hread
  | negative whole fraction exponent =>
    show (readUnsigned (_ ++ rest)).map _ = _
    rw [readUnsigned_append whole fraction exponent ends]
    rfl

end Numeral

theorem numeral_toString (n : Nat) : Numeral (Bytes.utf8 (toString n)) := by
  obtain ⟨b, digits, heq, hleading⟩ := Bytes.exists_leading_digit n
  have hall := Bytes.isDigit_utf8_toString n
  rw [heq] at hall ⊢
  have hwhole : Whole (b :: digits) :=
    ⟨⟨List.cons_ne_nil b digits, hall⟩, fun rest hrest => by
      obtain ⟨hb, rfl⟩ := List.cons.inj hrest
      exact hleading hb⟩
  have hnumeral := Numeral.positive hwhole .none .none
  rwa [List.append_nil, List.append_nil] at hnumeral

/-- What a natural number is written as stands for the number. -/
theorem natural?_ofNatural (n : Nat) : (ofNatural n).natural? = some n := by
  rw [ofNatural, natural?, if_pos (Bytes.isDigit_utf8_toString n), Bytes.naturalOf_utf8_toString]

end Json

end TankGauge
