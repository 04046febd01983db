import TankGauge.Text.Bytes

/-!
# JSON documents

A document is kept as it is spelled: a number is its characters, a text is what stands between its
quotes, escapes and all, and members keep their order and their repetitions. So a reader decides
for itself what a number or a text may be, and what it skips is held to the syntax alone.

`Json.print` writes a document without any blanks.
-/

namespace TankGauge

/-- A JSON value as it is spelled. -/
inductive Json
  | null
  | bool (b : Bool)
  /-- A number, by its characters. -/
  | number (spelling : Bytes)
  /-- A text, by what stands between the quotes. -/
  | text (spelling : Bytes)
  | array (items : List Json)
  /-- Members, each by its key between the quotes and its value. -/
  | object (members : List (Bytes × Json))
deriving Repr

namespace Json

instance : Inhabited Json := ⟨null⟩

/-! ## Printing -/

/-- The bytes of `null`. -/
def nullWord : Bytes := [Ascii.lowerN, Ascii.lowerU, Ascii.lowerL, Ascii.lowerL]

/-- The bytes of `true`. -/
def trueWord : Bytes := [Ascii.lowerT, Ascii.lowerR, Ascii.lowerU, Ascii.lowerE]

/-- The bytes of `false`. -/
def falseWord : Bytes := [Ascii.lowerF, Ascii.lowerA, Ascii.lowerL, Ascii.lowerS, Ascii.lowerE]

/-- A text with its quotes. -/
def printText (spelling : Bytes) : Bytes := Ascii.quote :: spelling ++ [Ascii.quote]

mutual

/-- The bytes of a document, without blanks. -/
def print : Json → Bytes
  | null => nullWord
  | bool true => trueWord
  | bool false => falseWord
  | number spelling => spelling
  | text spelling => printText spelling
  | array items => Ascii.openBracket :: printItems items ++ [Ascii.closeBracket]
  | object members => Ascii.openBrace :: printMembers members ++ [Ascii.closeBrace]

/-- Items with commas between them. -/
def printItems : List Json → Bytes
  | [] => []
  | [v] => print v
  | v :: rest => print v ++ Ascii.comma :: printItems rest

/-- Members with commas between them. -/
def printMembers : List (Bytes × Json) → Bytes
  | [] => []
  | [(k, v)] => printText k ++ Ascii.colon :: print v
  | (k, v) :: rest => printText k ++ Ascii.colon :: (print v ++ Ascii.comma :: printMembers rest)

end

/-! ## Numbers -/

/-- The natural number that digits stand for. -/
def naturalOf (digits : Bytes) : Nat := digits.foldl (fun n d => n * 10 + Ascii.digitValue d) 0

/-- The natural number that a document is: digits and nothing else, so no sign, no fraction and no
exponent. -/
def natural? : Json → Option Nat
  | number spelling => if spelling.all Ascii.isDigit then some (naturalOf spelling) else none
  | _ => none

/-- The document that a natural number is. -/
def ofNatural (n : Nat) : Json := number (Bytes.utf8 (toString n))

end Json

end TankGauge
