import TankGauge.Identity

/-!
# A client identifier tells the hardware

Every byte of a hardware identifier is put down in one stroke or in two, and either way as the same
two digits (`Hex.pair`). If the prefix leaves room for two digits a byte, no stroke is left out
(`ClientId.text_make_of_fits`), so that the hardware identifier can be read back from behind the
prefix (`ClientId.readBehind?`). Without that room digits may be missing, but what is put down first
stays, and that is the prefix.
-/

namespace TankGauge

/-! ## Two digits a byte -/

namespace Hex

/-- The two digits of a byte. -/
def pair (b : UInt8) : List Char := [digit (b.toNat / 16), digit (b.toNat % 16)]

/-- The bytes that digits stand for, two digits each. -/
def ofPairs? : List Char → Option Bytes
  | [] => some []
  | [_] => none
  | high :: low :: rest => do
    let h ← value? high
    let l ← value? low
    let bytes ← ofPairs? rest
    return UInt8.ofNat (16 * h + l) :: bytes

theorem value?_digit : ∀ n < 16, value? (digit n) = some n := by decide

/-- Digits are lower-case ones, one byte each. -/
theorem digit_mem_digits : ∀ n < 16, digit n ∈ "0123456789abcdef".toList := by decide

theorem utf8Size_digit : ∀ n < 16, (digit n).utf8Size = 1 := by decide

theorem div_lt_sixteen (b : UInt8) : b.toNat / 16 < 16 := by
  have hbyte := b.toNat_lt
  omega

theorem mod_lt_sixteen (b : UInt8) : b.toNat % 16 < 16 := Nat.mod_lt _ (by decide)

/-- A number below sixteen has one digit. -/
theorem toList_ofNat_of_lt {n : Nat} (h : n < 16) : (ofNat n).toList = [digit n] := by
  rw [ofNat, String.toList_ofList, digitsOnto, if_pos h]

/-- A byte that is not below sixteen has two digits. -/
theorem toList_ofNat_of_not_lt {b : UInt8} (h : ¬ b.toNat < 16) :
    (ofNat b.toNat).toList = pair b := by
  rw [ofNat, String.toList_ofList, digitsOnto, if_neg h, digitsOnto, if_pos (div_lt_sixteen b)]
  rfl

theorem mem_digits_of_mem_pair {b : UInt8} {c : Char} (h : c ∈ pair b) :
    c ∈ "0123456789abcdef".toList := by
  rcases List.mem_cons.mp h with rfl | h
  · exact digit_mem_digits _ (div_lt_sixteen b)
  · rw [List.mem_singleton.mp h]
    exact digit_mem_digits _ (mod_lt_sixteen b)

/-- Two digits a byte are read back. -/
theorem ofPairs?_flatMap_pair (bytes : Bytes) : ofPairs? (bytes.flatMap pair) = some bytes := by
  induction bytes with
  | nil => rfl
  | cons b rest ih =>
    have hbyte : UInt8.ofNat (16 * (b.toNat / 16) + b.toNat % 16) = b := by
      rw [Nat.div_add_mod, UInt8.ofNat_toNat]
    show ofPairs? (digit (b.toNat / 16) :: digit (b.toNat % 16) :: rest.flatMap pair) = _
    simp only [ofPairs?, value?_digit _ (div_lt_sixteen b), value?_digit _ (mod_lt_sixteen b), ih,
      Option.bind_eq_bind, Option.bind_some, hbyte]
    rfl

end Hex

/-! ## Strokes -/

namespace BoundedText

variable {cap : Nat} {t : BoundedText cap} {strokes : List String}

/-- Strokes that fit all together are all put down. -/
theorem text_foldl_write_of_fits
    (fits : t.text.utf8ByteSize + (String.join strokes).utf8ByteSize ≤ cap) :
    (strokes.foldl write t).text = t.text ++ String.join strokes := by
  induction strokes generalizing t with
  | nil => exact String.append_empty.symm
  | cons s rest ih =>
    rw [String.join_cons, String.utf8ByteSize_append] at fits
    have hwrite : (t.write s).text = t.text ++ s := text_write_of_fits (by omega)
    rw [List.foldl_cons, ih (by rw [hwrite, String.utf8ByteSize_append]; omega), hwrite,
      String.append_assoc, String.join_cons]

/-- What is put down stays, whether or not further strokes fit. -/
theorem prefix_foldl_write (t : BoundedText cap) (strokes : List String) :
    t.text.toList <+: (strokes.foldl write t).text.toList := by
  induction strokes generalizing t with
  | nil => exact List.prefix_refl _
  | cons s rest ih =>
    refine List.IsPrefix.trans ?_ (ih (t.write s))
    by_cases h : t.text.utf8ByteSize + s.utf8ByteSize ≤ cap
    · rw [text_write_of_fits h, String.toList_append]
      exact List.prefix_append _ _
    · have hsame : t.write s = t := write_of_not_fits h
      exact ⟨[], by rw [hsame, List.append_nil]⟩

end BoundedText

/-- The strokes of a byte are its two digits. -/
theorem join_hexStrokes (b : UInt8) : String.join (hexStrokes b) = String.ofList (Hex.pair b) := by
  rw [← String.toList_inj, String.toList_join, String.toList_ofList]
  unfold hexStrokes
  by_cases h : b < 16
  · have hlow : b.toNat < 16 := h
    rw [if_pos h, List.flatMap_cons, List.flatMap_singleton, Hex.toList_ofNat_of_lt hlow, Hex.pair,
      Nat.div_eq_of_lt hlow, Nat.mod_eq_of_lt hlow]
    rfl
  · rw [if_neg h, List.flatMap_singleton]
    exact Hex.toList_ofNat_of_not_lt h

theorem utf8ByteSize_pair (b : UInt8) : (String.ofList (Hex.pair b)).utf8ByteSize = 2 := by
  have hpair : String.ofList (Hex.pair b) = String.singleton (Hex.digit (b.toNat / 16)) ++
      String.singleton (Hex.digit (b.toNat % 16)) := by
    rw [← String.toList_inj, String.toList_append, String.toList_ofList, String.toList_singleton,
      String.toList_singleton]
    rfl
  rw [hpair, String.utf8ByteSize_append, String.utf8ByteSize_singleton,
    String.utf8ByteSize_singleton, Hex.utf8Size_digit _ (Hex.div_lt_sixteen b),
    Hex.utf8Size_digit _ (Hex.mod_lt_sixteen b)]

/-- The strokes of bytes are two digits a byte. -/
theorem join_flatMap_hexStrokes (bytes : Bytes) :
    String.join (bytes.flatMap hexStrokes) = String.ofList (bytes.flatMap Hex.pair) := by
  induction bytes with
  | nil => rfl
  | cons b rest ih =>
    rw [List.flatMap_cons, String.join_append, join_hexStrokes, ih, List.flatMap_cons,
      String.ofList_append]

theorem utf8ByteSize_flatMap_pair (bytes : Bytes) :
    (String.ofList (bytes.flatMap Hex.pair)).utf8ByteSize = 2 * bytes.length := by
  induction bytes with
  | nil => rfl
  | cons b rest ih =>
    rw [List.flatMap_cons, String.ofList_append, String.utf8ByteSize_append, utf8ByteSize_pair, ih,
      List.length_cons]
    omega

namespace ClientId

variable {lead : String} {id id' : Bytes}

/-- A prefix is put down if it fits. -/
theorem text_empty_write (fits : lead.utf8ByteSize ≤ 48) :
    (BoundedText.empty.write lead : ClientId).text = lead := by
  rw [BoundedText.text_write_of_fits (by simpa [BoundedText.empty] using fits)]
  exact String.empty_append

/-- A prefix and a hardware identifier are put down in full if there is room for two digits a
byte. -/
theorem text_make_of_fits (fits : lead.utf8ByteSize + 2 * id.length ≤ 48) :
    (make lead id).text = lead ++ String.ofList (id.reverse.flatMap Hex.pair) := by
  have hlead := text_empty_write (Nat.le_of_add_right_le fits)
  have hsize : (String.join (id.reverse.flatMap hexStrokes)).utf8ByteSize = 2 * id.length := by
    rw [join_flatMap_hexStrokes, utf8ByteSize_flatMap_pair, List.length_reverse]
  rw [make, BoundedText.text_foldl_write_of_fits (by rw [hlead, hsize]; exact fits), hlead,
    join_flatMap_hexStrokes]

/-- Reads the hardware identifier behind a prefix. -/
def readBehind? (lead : String) (c : ClientId) : Option Bytes :=
  (Hex.ofPairs? (c.text.toList.drop lead.length)).map List.reverse

theorem readBehind?_make (fits : lead.utf8ByteSize + 2 * id.length ≤ 48) :
    readBehind? lead (make lead id) = some id := by
  rw [readBehind?, text_make_of_fits fits, String.toList_append, String.toList_ofList,
    List.drop_left' String.length_toList, Hex.ofPairs?_flatMap_pair, Option.map_some,
    List.reverse_reverse]

/-- A prefix and a hardware identifier that leave room for each other make a client identifier of
the prefix and two lower-case digits a byte, last byte first. The hardware identifier can be read
back from it, so that under one prefix no two of them make the same, of whatever lengths they are.
There is always room for them in a session that a configuration asks for. Without room for the
hardware identifier, the client identifier takes no more than its 48 bytes and still begins with the
prefix. -/
theorem identifies_hardware (lead : String) :
    (∀ id : Bytes, lead.utf8ByteSize + 2 * id.length ≤ 48 →
      (make lead id).text = lead ++ String.ofList (id.reverse.flatMap Hex.pair) ∧
        (∀ c ∈ id.reverse.flatMap Hex.pair, c ∈ "0123456789abcdef".toList) ∧
        readBehind? lead (make lead id) = some id) ∧
      (∀ id id' : Bytes, lead.utf8ByteSize + 2 * id.length ≤ 48 →
        lead.utf8ByteSize + 2 * id'.length ≤ 48 → make lead id = make lead id' → id = id') ∧
      (∀ (c : Config) (id : Bytes) (broker : Endpoint), id.length ≤ 16 →
        (SessionParams.ofConfig c id broker).clientId.text =
          c.clientIdPrefix.text ++ String.ofList (id.reverse.flatMap Hex.pair)) ∧
      (lead.utf8ByteSize ≤ 48 → ∀ id : Bytes, ∃ rest : String,
        (make lead id).text = lead ++ rest ∧ lead.utf8ByteSize + rest.utf8ByteSize ≤ 48) := by
  refine ⟨fun id fits => ⟨text_make_of_fits fits, ?_, readBehind?_make fits⟩, ?_, ?_, ?_⟩
  · intro c hmem
    obtain ⟨b, -, hc⟩ := List.mem_flatMap.mp hmem
    exact Hex.mem_digits_of_mem_pair hc
  · intro id id' fits fits' same
    have hread := readBehind?_make fits
    rw [same, readBehind?_make fits'] at hread
    exact (Option.some.inj hread).symm
  · intro c id broker hlength
    have hprefix := c.clientIdPrefix.fits
    exact text_make_of_fits (by omega)
  · intro fits id
    obtain ⟨rest, hrest⟩ := BoundedText.prefix_foldl_write
      (BoundedText.empty.write lead : ClientId) (id.reverse.flatMap hexStrokes)
    rw [text_empty_write fits] at hrest
    have htext : (make lead id).text = lead ++ String.ofList rest := by
      rw [← String.toList_inj, String.toList_append, String.toList_ofList]
      exact hrest.symm
    refine ⟨String.ofList rest, htext, ?_⟩
    rw [← String.utf8ByteSize_append, ← htext]
    exact (make lead id).fits

/-- Two bytes below sixteen are padded, and come last byte first. -/
theorem identifies_small_bytes :
    "nxp_".utf8ByteSize + 2 * [(0x0f : UInt8), 0x00].length ≤ 48 ∧
      (make "nxp_" [0x0f, 0x00]).text = "nxp_000f" ∧
      readBehind? "nxp_" (make "nxp_" [0x0f, 0x00]) = some [0x0f, 0x00] := by
  have hfits : "nxp_".utf8ByteSize + 2 * [(0x0f : UInt8), 0x00].length ≤ 48 := by decide
  obtain ⟨htext, -, hread⟩ := (identifies_hardware "nxp_").1 [0x0f, 0x00] hfits
  exact ⟨hfits, htext.trans (by decide), hread⟩

end ClientId

end TankGauge
