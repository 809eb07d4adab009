import Signoff.Hex

namespace Signoff.Url.Percent

def digit (nibble : Nat) : Char :=
  if nibble < 10 then Char.ofNat (48 + nibble) else Char.ofNat (55 + nibble)

def escape (byte : UInt8) : List Char :=
  ['%', digit (byte.toNat / 16), digit (byte.toNat % 16)]

def isReserved (reserved : List Char) (char : Char) : Bool :=
  char.toNat < 32 || 126 < char.toNat || reserved.contains char

def encode (reserved : List Char) (text : List Char) : String :=
  String.ofList (text.flatMap fun char =>
    if isReserved reserved char then (Text.bytes (String.singleton char)).flatMap escape
    else [char])

/-- A percent sign before anything but two digits stands for itself. -/
def decode : List UInt8 → List UInt8
  | [] => []
  | [byte] => [byte]
  | [first, second] => [first, second]
  | first :: second :: third :: rest =>
    match Hex.nibble? second, Hex.nibble? third with
    | some high, some low =>
      if first = 37 then UInt8.ofNat (16 * high + low) :: decode rest
      else first :: decode (second :: third :: rest)
    | _, _ => first :: decode (second :: third :: rest)

end Signoff.Url.Percent
