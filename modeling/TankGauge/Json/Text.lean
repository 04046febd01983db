import TankGauge.Json.Basic

/-!
# Texts of a JSON document

Between the quotes of a text, a backslash introduces an escape: one of eight letters and marks, or
`u` with four hexadecimal digits for a UTF-16 unit. A character beyond the basic plane is spelled
by two such escapes, a leading surrogate and a trailing one. `spell` escapes only what has to be
escaped; `read?` takes every spelling, and refuses what is no text: a lone surrogate, or bytes that
are not UTF-8.
-/

namespace TankGauge.Json.Text

/-- What the mark behind a backslash stands for, unless it is a `u`. -/
def marked? : UInt8 → Option UInt8
  | Ascii.quote => some Ascii.quote
  | Ascii.backslash => some Ascii.backslash
  | Ascii.slash => some Ascii.slash
  | Ascii.lowerB => some 0x08
  | Ascii.lowerF => some 0x0c
  | Ascii.lowerN => some Ascii.newline
  | Ascii.lowerR => some Ascii.carriageReturn
  | Ascii.lowerT => some Ascii.tab
  | _ => none

/-- The number of four hexadecimal digits. -/
def unit? (a b c d : UInt8) : Option Nat := do
  let a ← Ascii.hexValue? a
  let b ← Ascii.hexValue? b
  let c ← Ascii.hexValue? c
  let d ← Ascii.hexValue? d
  return ((a * 16 + b) * 16 + c) * 16 + d

/-- A unit that needs a trailing one behind it. -/
def isLeading (u : Nat) : Bool := 0xd800 ≤ u && u ≤ 0xdbff

/-- A unit that needs a leading one in front of it. -/
def isTrailing (u : Nat) : Bool := 0xdc00 ≤ u && u ≤ 0xdfff

/-- The character of two surrogates. -/
def pair (leading trailing : Nat) : Char :=
  Char.ofNat ((leading - 0xd800) * 0x400 + (trailing - 0xdc00) + 0x10000)

/-- Replaces every escape by the UTF-8 form of what it stands for. -/
def unescape : Bytes → Option Bytes
  | [] => some []
  | Ascii.backslash :: Ascii.lowerU :: a :: b :: c :: d :: rest =>
    match unit? a b c d with
    | none => none
    | some u =>
      if isTrailing u then none
      else if isLeading u then
        match rest with
        | Ascii.backslash :: Ascii.lowerU :: a' :: b' :: c' :: d' :: rest =>
          match unit? a' b' c' d' with
          | none => none
          | some v =>
            if isTrailing v then
              (unescape rest).map (String.utf8EncodeChar (pair u v) ++ ·)
            else none
        | _ => none
      else (unescape rest).map (String.utf8EncodeChar (Char.ofNat u) ++ ·)
  | Ascii.backslash :: m :: rest =>
    match marked? m with
    | none => none
    | some b => (unescape rest).map (b :: ·)
  | [Ascii.backslash] => none
  | b :: rest => (unescape rest).map (b :: ·)

/-- The text of a spelling. -/
def read? (spelling : Bytes) : Option String := (unescape spelling).bind Bytes.ofUtf8?

/-- The lower-case hexadecimal digit of a number below sixteen, as a byte. -/
def hexDigit (n : Nat) : UInt8 := UInt8.ofNat (if n < 10 then 0x30 + n else 0x57 + n)

/-- The spelling of one byte of a text: quote, backslash and control characters are escaped. -/
def spellByte (b : UInt8) : Bytes :=
  if b = Ascii.quote then [Ascii.backslash, Ascii.quote]
  else if b = Ascii.backslash then [Ascii.backslash, Ascii.backslash]
  else if b = 0x08 then [Ascii.backslash, Ascii.lowerB]
  else if b = 0x0c then [Ascii.backslash, Ascii.lowerF]
  else if b = Ascii.newline then [Ascii.backslash, Ascii.lowerN]
  else if b = Ascii.carriageReturn then [Ascii.backslash, Ascii.lowerR]
  else if b = Ascii.tab then [Ascii.backslash, Ascii.lowerT]
  else if b < 0x20 then
    [Ascii.backslash, Ascii.lowerU, Ascii.zero, Ascii.zero, hexDigit (b.toNat / 16),
      hexDigit (b.toNat % 16)]
  else [b]

/-- The spelling of a text. -/
def spell (s : String) : Bytes := (Bytes.utf8 s).flatMap spellByte

end TankGauge.Json.Text
