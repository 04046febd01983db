import TankGauge.Text.Hex

/-!
# Internet addresses

The literal forms of IPv4 and IPv6 addresses, read and written.

Reading is strict: an IPv4 part is a decimal number without leading zeros, an IPv6 group has one to
four hexadecimal digits, one run of zero groups may be left out as a double colon, and the last two
groups may be written as an IPv4 address. Writing an IPv6 address leaves out the first of its
longest runs of zero groups, if that run has two groups or more; an IPv4 address that is embedded
in the range set aside for it keeps its dotted form. Behind an IPv6 address a percent sign and a
number tell the zone that the address is meant in.
-/

namespace TankGauge

/-- An IPv4 address. -/
structure IPv4 where
  a : UInt8
  b : UInt8
  c : UInt8
  d : UInt8
deriving DecidableEq, Repr

/-- An IPv6 address: eight groups of sixteen bits. -/
structure IPv6 where
  groups : List UInt16
  eight : groups.length = 8
deriving DecidableEq, Repr

/-- An address of either family. An IPv6 address comes with the number of its zone, which is zero
where none is meant. -/
inductive Address
  | v4 (address : IPv4)
  | v6 (address : IPv6) (zone : UInt32)
deriving DecidableEq, Repr

/-- Where a broker listens: an address and a TCP port number. -/
structure Endpoint where
  address : Address
  tcpPort : UInt16
deriving DecidableEq, Repr

/-- The two IPv6 groups that an IPv4 address fills. -/
def IPv4.groups (v : IPv4) : List UInt16 :=
  [v.a.toUInt16 <<< 8 ||| v.b.toUInt16, v.c.toUInt16 <<< 8 ||| v.d.toUInt16]

/-- Whether an address is valid on one link only, be it of one receiver or of many. -/
def IPv6.isLinkLocal (v : IPv6) : Bool :=
  match v.groups with
  | g :: _ => g &&& 0xffc0 == 0xfe80 || g &&& 0xff0f == 0xff02
  | [] => false

/-! ## Reading -/

namespace Address

/-- Splits the leading decimal digits off a text. -/
def takeDecimal (s : List Char) : List Char × List Char := s.span Char.isDigit

/-- The number that decimal digits stand for. -/
def decimalValue (digits : List Char) : Nat :=
  digits.foldl (fun n c => n * 10 + (c.toNat - 0x30)) 0

/-- Reads one part of an IPv4 address: at most three digits, no leading zero, at most 255. -/
def readOctet (s : List Char) : Option (UInt8 × List Char) :=
  let (digits, rest) := takeDecimal s
  if digits.isEmpty || 3 < digits.length then none
  else if digits.head? = some '0' && 1 < digits.length then none
  else if decimalValue digits ≤ 255 then some (UInt8.ofNat (decimalValue digits), rest)
  else none

/-- Reads a point and one part of an IPv4 address. -/
def readPointOctet : List Char → Option (UInt8 × List Char)
  | '.' :: s => readOctet s
  | _ => none

/-- Reads an IPv4 address off the front of a text. -/
def readIPv4 (s : List Char) : Option (IPv4 × List Char) := do
  let (a, s) ← readOctet s
  let (b, s) ← readPointOctet s
  let (c, s) ← readPointOctet s
  let (d, s) ← readPointOctet s
  return (⟨a, b, c, d⟩, s)

/-- Reads one IPv6 group: one to four hexadecimal digits. -/
def readGroup (s : List Char) : Option (UInt16 × List Char) :=
  let (digits, rest) := s.span fun c => (Hex.value? c).isSome
  if digits.isEmpty || 4 < digits.length then none
  else some (UInt16.ofNat (digits.foldl (fun n c => n * 16 + (Hex.value? c).getD 0) 0), rest)

/-- Skips the colon in front of every group but the first. -/
def skipSeparator (first : Bool) (s : List Char) : Option (List Char) :=
  if first then some s
  else match s with
    | ':' :: rest => some rest
    | _ => none

/-- Reads up to `room` groups, and says whether the last two came as an IPv4 address. A separator
that no group follows is left unread. -/
def readGroups (first : Bool) : Nat → List Char → List UInt16 × Bool × List Char
  | 0, s => ([], false, s)
  | room + 1, s =>
    let embedded := if 1 ≤ room then (skipSeparator first s).bind readIPv4 else none
    match embedded with
    | some (v, rest) => (v.groups, true, rest)
    | none =>
      match (skipSeparator first s).bind readGroup with
      | none => ([], false, s)
      | some (g, rest) =>
        let (groups, dotted, rest) := readGroups false room rest
        (g :: groups, dotted, rest)

/-- The address of eight groups. -/
def ofGroups? (groups : List UInt16) : Option IPv6 :=
  if h : groups.length = 8 then some ⟨groups, h⟩ else none

/-- Reads an IPv6 address off the front of a text. A double colon stands for at least one group,
and no IPv4 part stands before it. -/
def readIPv6 (s : List Char) : Option (IPv6 × List Char) :=
  let (head, dotted, rest) := readGroups true 8 s
  if head.length = 8 then (ofGroups? head).map (·, rest)
  else if dotted then none
  else match rest with
    | ':' :: ':' :: rest =>
      let (tail, _, rest) := readGroups true (8 - (head.length + 1)) rest
      let zeros := List.replicate (8 - head.length - tail.length) 0
      (ofGroups? (head ++ zeros ++ tail)).map (·, rest)
    | _ => none

/-- The value read, if nothing is left over. -/
def whole {α : Type} : Option (α × List Char) → Option α
  | some (a, []) => some a
  | _ => none

/-- The address that a text is a literal form of, without a zone. -/
def ofString? (s : String) : Option Address :=
  match whole (readIPv4 s.toList) with
  | some v => some (.v4 v)
  | none => (whole (readIPv6 s.toList)).map (.v6 · 0)

/-! ### Zones

The zone is told by its number. An address that is valid on one link only may name an interface in
place of it; the loopback interface, which is always the first, is the only one known by name.
-/

/-- The number that a text of decimal digits stands for, if 32 bits hold it. -/
def zoneNumber? (s : List Char) : Option UInt32 :=
  if !s.isEmpty && s.all Char.isDigit && decimalValue s < UInt32.size then
    some (.ofNat (decimalValue s))
  else none

/-- The zone that a text tells for an address. -/
def zone? (v : IPv6) (s : List Char) : Option UInt32 :=
  if v.isLinkLocal && s == ['l', 'o'] then some 1 else zoneNumber? s

/-- The IPv6 address and the zone that a text tells with a percent sign between them. -/
def ofZoned? (s : String) : Option Address :=
  match s.toList.span (· != '%') with
  | (front, _ :: behind) => do
    let v ← whole (readIPv6 front)
    let zone ← zone? v behind
    return .v6 v zone
  | (_, []) => none

/-! ### Numbers and dots

An older form of IPv4 has one to four numbers, each decimal, octal behind a leading zero or
hexadecimal behind `0x`. The last number fills all the bytes that the others leave.
-/

/-- The number that digits of a base stand for, if they all are digits of it. -/
def numberInBase? (base : Nat) (digits : List Char) : Option Nat :=
  digits.foldl (fun n? c => do
    let n ← n?
    let d ← Hex.value? c
    if d < base then some (n * base + d) else none) (some 0)

/-- One number of the older form. -/
def olderNumber? : List Char → Option Nat
  | '0' :: x :: rest =>
    if x = 'x' ∨ x = 'X' then if rest.isEmpty then none else numberInBase? 16 rest
    else numberInBase? 8 (x :: rest)
  | [] => none
  | digits => numberInBase? 10 digits

/-- The address that numbers of the older form stand for. -/
def ofNumbers? : List Nat → Option IPv4
  | [n] =>
    if n < UInt32.size then some ⟨.ofNat (n >>> 24), .ofNat (n >>> 16), .ofNat (n >>> 8), .ofNat n⟩
    else none
  | [a, n] =>
    if a < 256 ∧ n < 0x1000000 then some ⟨.ofNat a, .ofNat (n >>> 16), .ofNat (n >>> 8), .ofNat n⟩
    else none
  | [a, b, n] =>
    if a < 256 ∧ b < 256 ∧ n < UInt16.size then
      some ⟨.ofNat a, .ofNat b, .ofNat (n >>> 8), .ofNat n⟩
    else none
  | [a, b, c, d] =>
    if a < 256 ∧ b < 256 ∧ c < 256 ∧ d < 256 then some ⟨.ofNat a, .ofNat b, .ofNat c, .ofNat d⟩
    else none
  | _ => none

/-- The IPv4 address that a text names in the older form. -/
def ofOlderForm? (s : String) : Option IPv4 :=
  ((s.splitOn ".").mapM fun part => olderNumber? part.toList).bind ofNumbers?

/-- The address that a host name stands for without asking a name service. -/
def ofHost? (host : String) : Option Address :=
  ofString? host <|> ofZoned? host <|> (ofOlderForm? host).map .v4

/-! ## Writing -/

/-- A run of zero groups: where it starts and how long it is. -/
structure ZeroRun where
  start : Nat
  length : Nat

/-- The first of the longest runs of zero groups, given the run that ends just before `index` and
the longest one so far. -/
def longestRun (current best : ZeroRun) (index : Nat) : List UInt16 → ZeroRun
  | [] => best
  | g :: rest =>
    if g = 0 then
      let current := if current.length = 0 then ⟨index, 1⟩ else ⟨current.start, current.length + 1⟩
      longestRun current (if best.length < current.length then current else best) (index + 1) rest
    else longestRun ⟨0, 0⟩ best (index + 1) rest

/-- Groups in hexadecimal with colons between them. -/
def joinGroups (groups : List UInt16) : String :=
  ":".intercalate (groups.map fun g => Hex.ofNat g.toNat)

end Address

/-- The dotted form of an IPv4 address. -/
def IPv4.text (v : IPv4) : String :=
  ".".intercalate ([v.a, v.b, v.c, v.d].map fun part => toString part.toNat)

/-- The IPv4 address embedded in the range `::ffff:0:0`. -/
def IPv6.embedded? (v : IPv6) : Option IPv4 :=
  match v.groups with
  | [0, 0, 0, 0, 0, 0xffff, high, low] =>
    some ⟨(high >>> 8).toUInt8, high.toUInt8, (low >>> 8).toUInt8, low.toUInt8⟩
  | _ => none

/-- The shortened form of an IPv6 address. -/
def IPv6.text (v : IPv6) : String :=
  match v.embedded? with
  | some v4 => "::ffff:" ++ v4.text
  | none =>
    let run := Address.longestRun ⟨0, 0⟩ ⟨0, 0⟩ 0 v.groups
    if 1 < run.length then
      Address.joinGroups (v.groups.take run.start) ++ "::" ++
        Address.joinGroups (v.groups.drop (run.start + run.length))
    else Address.joinGroups v.groups

/-- A zone as it stands behind an address: zone zero leaves no text. -/
def Address.zoneText (zone : UInt32) : String :=
  if zone = 0 then "" else "%" ++ toString zone.toNat

/-- The address and the TCP port number; the brackets keep the colons of an IPv6 address apart from
the one in front of the number. -/
def Endpoint.text (e : Endpoint) : String :=
  match e.address with
  | .v4 v => v.text ++ ":" ++ toString e.tcpPort.toNat
  | .v6 v zone => "[" ++ v.text ++ Address.zoneText zone ++ "]:" ++ toString e.tcpPort.toNat

end TankGauge
