import TankGauge.Json.Basic

/-!
# Reading JSON documents

A reader takes a value off the front of a byte string and gives what is left. Blanks may stand
around every value and every mark. A comma stands between two items or members and nowhere else,
a number has no needless zero in front, and a text holds no bare control character.

The three readers for values, items and members call each other with one unit less of fuel each
time. Each call either takes a byte or goes from a list to its first value, so twice the length of
the input is enough, and `Json.parse?` shows no fuel.
-/

namespace TankGauge.Json

/-- A blank. -/
def isBlank (b : UInt8) : Bool :=
  b == Ascii.space || b == Ascii.tab || b == Ascii.newline || b == Ascii.carriageReturn

/-- What is left behind leading blanks. -/
def skipBlanks (s : Bytes) : Bytes := s.dropWhile isBlank

/-! ## Texts -/

/-- A mark that may stand behind a backslash, `u` apart. -/
def isMark (b : UInt8) : Bool :=
  [Ascii.quote, Ascii.backslash, Ascii.slash, Ascii.lowerB, Ascii.lowerF, Ascii.lowerN,
    Ascii.lowerR, Ascii.lowerT].contains b

/-- A hexadecimal digit. -/
def isHexDigit (b : UInt8) : Bool := (Ascii.hexValue? b).isSome

/-- Behind an opening quote: the spelling up to the closing quote, and what is left behind it. -/
def readText : Bytes → Option (Bytes × Bytes)
  | [] => none
  | Ascii.quote :: rest => some ([], rest)
  | Ascii.backslash :: Ascii.lowerU :: a :: b :: c :: d :: rest =>
    if isHexDigit a && isHexDigit b && isHexDigit c && isHexDigit d then
      (readText rest).map fun (spelling, left) =>
        (Ascii.backslash :: Ascii.lowerU :: a :: b :: c :: d :: spelling, left)
    else none
  | Ascii.backslash :: m :: rest =>
    if isMark m then
      (readText rest).map fun (spelling, left) => (Ascii.backslash :: m :: spelling, left)
    else none
  | b :: rest =>
    if b < 0x20 then none
    else (readText rest).map fun (spelling, left) => (b :: spelling, left)

/-! ## Numbers -/

/-- One digit or more. -/
def readDigits (s : Bytes) : Option (Bytes × Bytes) :=
  let (digits, left) := s.span Ascii.isDigit
  if digits.isEmpty then none else some (digits, left)

/-- A number before the point: a lone zero, or digits that do not begin with one. -/
def readWhole (s : Bytes) : Option (Bytes × Bytes) :=
  match readDigits s with
  | some (Ascii.zero :: _ :: _, _) => none
  | other => other

/-- A point with digits behind it, or nothing. -/
def readFraction : Bytes → Option (Bytes × Bytes)
  | Ascii.point :: s => (readDigits s).map fun (digits, left) => (Ascii.point :: digits, left)
  | s => some ([], s)

/-- The sign of an exponent, or nothing. -/
def readSign : Bytes → Bytes × Bytes
  | Ascii.plus :: s => ([Ascii.plus], s)
  | Ascii.minus :: s => ([Ascii.minus], s)
  | s => ([], s)

/-- An exponent, or nothing. -/
def readExponent (s : Bytes) : Option (Bytes × Bytes) :=
  match s with
  | [] => some ([], s)
  | e :: rest =>
    if e = Ascii.lowerE ∨ e = Ascii.upperE then
      let (sign, rest) := readSign rest
      (readDigits rest).map fun (digits, left) => (e :: sign ++ digits, left)
    else some ([], s)

/-- A number without its sign. -/
def readUnsigned (s : Bytes) : Option (Bytes × Bytes) := do
  let (whole, s) ← readWhole s
  let (fraction, s) ← readFraction s
  let (exponent, s) ← readExponent s
  return (whole ++ fraction ++ exponent, s)

/-- A number. -/
def readNumber : Bytes → Option (Bytes × Bytes)
  | Ascii.minus :: s => (readUnsigned s).map fun (spelling, left) => (Ascii.minus :: spelling, left)
  | s => readUnsigned s

/-! ## Values -/

/-- A value that is a single word, text or number. -/
def readScalar : Bytes → Option (Json × Bytes)
  | Ascii.lowerN :: Ascii.lowerU :: Ascii.lowerL :: Ascii.lowerL :: s => some (null, s)
  | Ascii.lowerT :: Ascii.lowerR :: Ascii.lowerU :: Ascii.lowerE :: s => some (bool true, s)
  | Ascii.lowerF :: Ascii.lowerA :: Ascii.lowerL :: Ascii.lowerS :: Ascii.lowerE :: s =>
    some (bool false, s)
  | Ascii.quote :: s => (readText s).map fun (spelling, left) => (text spelling, left)
  | s => (readNumber s).map fun (spelling, left) => (number spelling, left)

/-- The key of a member and the colon behind it. -/
def readKey (s : Bytes) : Option (Bytes × Bytes) :=
  match skipBlanks s with
  | Ascii.quote :: s =>
    match readText s with
    | none => none
    | some (key, left) =>
      match skipBlanks left with
      | Ascii.colon :: left => some (key, left)
      | _ => none
  | _ => none

mutual

/-- A value. -/
def readValue : Nat → Bytes → Option (Json × Bytes)
  | 0, _ => none
  | fuel + 1, s =>
    match skipBlanks s with
    | Ascii.openBracket :: s =>
      match skipBlanks s with
      | Ascii.closeBracket :: left => some (array [], left)
      | _ => (readItems fuel s).map fun (items, left) => (array items, left)
    | Ascii.openBrace :: s =>
      match skipBlanks s with
      | Ascii.closeBrace :: left => some (object [], left)
      | _ => (readMembers fuel s).map fun (members, left) => (object members, left)
    | s => readScalar s

/-- Items up to the closing bracket, one at least. -/
def readItems : Nat → Bytes → Option (List Json × Bytes)
  | 0, _ => none
  | fuel + 1, s =>
    match readValue fuel s with
    | none => none
    | some (v, s) =>
      match skipBlanks s with
      | Ascii.closeBracket :: left => some ([v], left)
      | Ascii.comma :: s => (readItems fuel s).map fun (items, left) => (v :: items, left)
      | _ => none

/-- Members up to the closing brace, one at least. -/
def readMembers : Nat → Bytes → Option (List (Bytes × Json) × Bytes)
  | 0, _ => none
  | fuel + 1, s =>
    match readKey s with
    | none => none
    | some (k, s) =>
      match readValue fuel s with
      | none => none
      | some (v, s) =>
        match skipBlanks s with
        | Ascii.closeBrace :: left => some ([(k, v)], left)
        | Ascii.comma :: s =>
          (readMembers fuel s).map fun (members, left) => ((k, v) :: members, left)
        | _ => none

end

/-- The document that a byte string spells, with nothing but blanks around it. -/
def parse? (s : Bytes) : Option Json :=
  match readValue (2 * s.length + 2) s with
  | some (v, left) => if (skipBlanks left).isEmpty then some v else none
  | none => none

end TankGauge.Json
