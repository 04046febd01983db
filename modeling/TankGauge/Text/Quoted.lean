import TankGauge.Text.Bytes
import TankGauge.Text.Hex
import TankGauge.Text.Unseen

/-!
# Quoted text

A log line shows a foreign text in double quotes. The quote and the backslash stand behind a
backslash, as do the letters for tab, line feed, carriage return and NUL; any other character that
leaves no mark of its own is written by its code point in braces.
-/

namespace TankGauge.Text

/-- A character as its code point in braces. -/
def byNumber (c : Char) : String := "\\u\x7b" ++ Hex.ofNat c.toNat ++ "\x7d"

/-- A character as it stands between the quotes. -/
def quotedChar (c : Char) : String :=
  match c with
  | '\x00' => "\\0"
  | '\t' => "\\t"
  | '\n' => "\\n"
  | '\r' => "\\r"
  | '"' => "\\\""
  | '\\' => "\\\\"
  | c =>
    if c.toNat < 0x20 || c.toNat = 0x7f || (0x7f < c.toNat && isUnseen c.toNat) then byNumber c
    else String.singleton c

/-- A text in quotes. -/
def quoted (s : String) : String := "\"" ++ String.join (s.toList.map quotedChar) ++ "\""

/-- Bytes as decimal numbers in brackets. -/
def byteList (bytes : Bytes) : String :=
  "[" ++ ", ".intercalate (bytes.map fun b => toString b.toNat) ++ "]"

end TankGauge.Text
