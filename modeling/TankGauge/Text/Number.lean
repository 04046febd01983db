import TankGauge.Text.Bytes

/-!
# Sixteen-bit numbers in text

A number is read from the left. A plus sign may stand in front. The first character that is no
digit, or that makes the number too large, decides what is wrong; of the two, being no digit comes
first.
-/

namespace TankGauge

/-- Why a text is no number. -/
inductive NumberFault
  | empty
  | invalidDigit
  | tooLarge
deriving DecidableEq, Repr

/-- The wording of a fault. -/
def NumberFault.message : NumberFault → String
  | .empty => "cannot parse integer from empty string"
  | .invalidDigit => "invalid digit found in string"
  | .tooLarge => "number too large to fit in target type"

namespace Number16

/-- Reads digits behind a number read so far. -/
def readOnto (n : Nat) : List Char → Except NumberFault Nat
  | [] => .ok n
  | c :: rest =>
    if !c.isDigit then .error .invalidDigit
    else
      let n := n * 10 + (c.toNat - 0x30)
      if n < UInt16.size then readOnto n rest else .error .tooLarge

/-- The number that a text stands for. -/
def read (s : String) : Except NumberFault UInt16 :=
  match s.toList with
  | [] => .error .empty
  | ['+'] => .error .invalidDigit
  | '+' :: digits => (readOnto 0 digits).map UInt16.ofNat
  | digits => (readOnto 0 digits).map UInt16.ofNat

end Number16

end TankGauge
