import Signoff.Octets
import Signoff.Text.Quoted

namespace Signoff.Hex

def digit (nibble : Nat) : Char :=
  if nibble < 10 then Char.ofNat (48 + nibble) else Char.ofNat (87 + nibble)

def digitsOf : List UInt8 → List Char
  | [] => []
  | byte :: rest => digit (byte.toNat / 16) :: digit (byte.toNat % 16) :: digitsOf rest

def encode (bytes : List UInt8) : String :=
  String.ofList (digitsOf bytes)

def nibble? (byte : UInt8) : Option Nat :=
  let code := byte.toNat
  if 48 ≤ code && code ≤ 57 then some (code - 48)
  else if 65 ≤ code && code ≤ 70 then some (code - 55)
  else if 97 ≤ code && code ≤ 102 then some (code - 87)
  else none

inductive Fault where
  | oddLength
  | wrongLength
  | badDigit (byte : UInt8) (position : Nat)
deriving DecidableEq, Repr

def Fault.message : Fault → String
  | .oddLength => "Odd number of digits"
  | .wrongLength => "Invalid string length"
  | .badDigit byte position =>
    "Invalid character " ++ Text.quoteByte byte ++ " at position " ++ toString position

def nibble (byte : UInt8) (position : Nat) : Except Fault Nat :=
  match nibble? byte with
  | some value => .ok value
  | none => .error (.badDigit byte position)

def decodeFrom (position : Nat) : List UInt8 → Except Fault (List UInt8)
  | high :: low :: rest => do
    let high ← nibble high position
    let low ← nibble low (position + 1)
    let rest ← decodeFrom (position + 2) rest
    return UInt8.ofNat (16 * high + low) :: rest
  | [_] => .error .oddLength
  | [] => .ok []

def decodeBytes (text : String) : Except Fault (List UInt8) :=
  let digits := Text.bytes text
  if digits.length % 2 ≠ 0 then .error .oddLength else decodeFrom 0 digits

/-- Reads a text of exactly `length` bytes. An odd number of digits is reported before a
wrong number, and a wrong number before a character that is no digit. -/
def decode (length : Nat) (text : String) : Except Fault (Octets length) :=
  let digits := Text.bytes text
  if digits.length % 2 ≠ 0 then .error .oddLength
  else if digits.length / 2 ≠ length then .error .wrongLength
  else do
    let bytes ← decodeFrom 0 digits
    match Octets.ofList? length bytes with
    | some octets => .ok octets
    | none => .error .wrongLength

end Signoff.Hex

namespace Signoff.Octets

def hex {length : Nat} (octets : Octets length) : String :=
  Hex.encode octets.bytes

def abridged {length : Nat} (count : Nat) (octets : Octets length) : String :=
  Hex.encode (octets.bytes.take count) ++ "..."

end Signoff.Octets
