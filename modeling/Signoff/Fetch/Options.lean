import Signoff.Checksum
import Signoff.Fetch.ContentType

namespace Signoff

structure FetchOptions where
  maxBytes : UInt64
  /-- Deadline for the whole computation, in milliseconds. -/
  timeout : UInt64
  maxRedirects : Nat
  allowedTypes : List String
  algorithm : Algorithm
  skipGuard : Bool
  skipCertificates : Bool
deriving DecidableEq

namespace FetchOptions

def allows (options : FetchOptions) (header : Option String) : Bool :=
  ContentType.allowed options.allowedTypes header

end FetchOptions

namespace Duration

def withFraction (whole thousandths : Nat) : String :=
  let digits := Nat.toDigits 10 (1000 + thousandths)
  let fraction := (digits.drop 1).reverse.dropWhile (· == '0') |>.reverse
  let point := if fraction.isEmpty then "" else "."
  String.ofList (Nat.toDigits 10 whole) ++ point ++ String.ofList fraction

def ofMilliseconds (milliseconds : Nat) : String :=
  if 1000 ≤ milliseconds then withFraction (milliseconds / 1000) (milliseconds % 1000) ++ "s"
  else if 0 < milliseconds then withFraction milliseconds 0 ++ "ms"
  else "0ns"

end Duration

end Signoff
