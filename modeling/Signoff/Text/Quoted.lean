import Signoff.Bytes

namespace Signoff.Text

def isPrintableLatin (char : Char) : Bool :=
  let code := char.toNat
  (0x20 ≤ code && code < 0x7f) || (0xa1 ≤ code && code != 0xad)

def escapeChar (char : Char) : String :=
  if char = '\x00' then "\\0"
  else if char = '\t' then "\\t"
  else if char = '\r' then "\\r"
  else if char = '\n' then "\\n"
  else if char = '\'' then "\\'"
  else if char = '\\' then "\\\\"
  else if isPrintableLatin char then char.toString
  else "\\u\x7b" ++ String.ofList (Nat.toDigits 16 char.toNat) ++ "\x7d"

/-- The Latin-1 reading of a byte between single quotes; a character without a glyph is
written as its code in hexadecimal. -/
def quoteByte (byte : UInt8) : String :=
  "'" ++ escapeChar (Char.ofNat byte.toNat) ++ "'"

end Signoff.Text
