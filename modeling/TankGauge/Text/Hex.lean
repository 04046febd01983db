import TankGauge.Text.Bytes

/-!
# Hexadecimal digits

Numbers are written in lower case and without leading zeros. Reading takes digits of either case.
-/

namespace TankGauge.Hex

/-- The lower-case digit of a number below sixteen. -/
def digit (n : Nat) : Char :=
  if n < 10 then Char.ofNat (0x30 + n) else Char.ofNat (0x57 + n)

/-- The digits of a number, most significant first, in front of what is already written. -/
def digitsOnto (n : Nat) (written : List Char) : List Char :=
  if n < 16 then digit n :: written
  else digitsOnto (n / 16) (digit (n % 16) :: written)
termination_by n

/-- A number in hexadecimal. -/
def ofNat (n : Nat) : String := String.ofList (digitsOnto n [])

/-- What a digit counts. -/
def value? (c : Char) : Option Nat :=
  if '0' ≤ c ∧ c ≤ '9' then some (c.toNat - 0x30)
  else if 'a' ≤ c ∧ c ≤ 'f' then some (c.toNat - 0x57)
  else if 'A' ≤ c ∧ c ≤ 'F' then some (c.toNat - 0x37)
  else none

end TankGauge.Hex
