import Signoff.Address

namespace Signoff

namespace Address

/-! Addresses as text. Writing shortens the first of the longest runs of zero segments and
shows an IPv4-mapped address with its inner one; reading takes the strict forms only, with no
zero in front of an octet, no brackets and no zone. -/

def decimal (number : Nat) : String := String.ofList (Nat.toDigits 10 number)

def hexadecimal (number : Nat) : String := String.ofList (Nat.toDigits 16 number)

def dotted (bits : BitVec 32) : String :=
  ".".intercalate ((octets bits).map decimal)

def zerosFrom (segments : List Nat) (start : Nat) : Nat :=
  ((segments.drop start).takeWhile (· == 0)).length

def longestZeros (segments : List Nat) : Nat × Nat :=
  (List.range segments.length).foldl (fun best start =>
    let found := zerosFrom segments start
    if best.2 < found then (start, found) else best) (0, 0)

def colonSeparated (segments : List Nat) : String :=
  ":".intercalate (segments.map hexadecimal)

def compressed (segments : List Nat) : String :=
  let (start, count) := longestZeros segments
  if 1 < count then
    colonSeparated (segments.take start) ++ "::" ++
      colonSeparated (segments.drop (start + count))
  else
    colonSeparated segments

def text : Address → String
  | v4 bits => dotted bits
  | v6 bits =>
    match mapped? bits with
    | some inner => "::ffff:" ++ dotted inner
    | none => compressed (segments bits)

def digitValue? (radix : Nat) (char : Char) : Option Nat :=
  let value :=
    if '0' ≤ char ∧ char ≤ '9' then char.toNat - 48
    else if 'a' ≤ char ∧ char ≤ 'z' then char.toNat - 87
    else if 'A' ≤ char ∧ char ≤ 'Z' then char.toNat - 55
    else radix
  if value < radix then some value else none

/-- One to `maximum` digits below `limit`; a number of several digits may start with a zero
only where `zeroFirst` allows it. -/
def readNumber (radix maximum limit : Nat) (zeroFirst : Bool) (chars : List Char) :
    Option (Nat × List Char) :=
  let digits := chars.takeWhile fun char => (digitValue? radix char).isSome
  let value := ofDigits radix (digits.filterMap (digitValue? radix))
  if digits.isEmpty || maximum < digits.length then none
  else if !zeroFirst && 1 < digits.length && digits.head? == some '0' then none
  else if limit ≤ value then none
  else some (value, chars.drop digits.length)

def readOctet (chars : List Char) : Option (Nat × List Char) :=
  readNumber 10 3 256 false chars

def readChar (expected : Char) : List Char → Option (List Char)
  | char :: rest => if char = expected then some rest else none
  | [] => none

def readV4 (chars : List Char) : Option (BitVec 32 × List Char) := do
  let (a, rest) ← readOctet chars
  let (b, rest) ← readOctet (← readChar '.' rest)
  let (c, rest) ← readOctet (← readChar '.' rest)
  let (d, rest) ← readOctet (← readChar '.' rest)
  return (ofOctets [a, b, c, d], rest)

/-- Segments read from the front of a text, and whether the last two came from an address in
dotted form. -/
structure Segments where
  values : List Nat
  dotted : Bool
  rest : List Char

def readSegments : (room : Nat) → (separated : Bool) → List Char → Segments
  | 0, _, chars => ⟨[], false, chars⟩
  | room + 1, separated, chars =>
    let next? := if separated then readChar ':' chars else some chars
    match next? with
    | none => ⟨[], false, chars⟩
    | some next =>
      match if room = 0 then none else readV4 next with
      | some (inner, rest) =>
        ⟨[inner.toNat / 65536, inner.toNat % 65536], true, rest⟩
      | none =>
        match readNumber 16 4 65536 true next with
        | none => ⟨[], false, chars⟩
        | some (value, rest) =>
          let more := readSegments room true rest
          { more with values := value :: more.values }

def readV6 (chars : List Char) : Option (BitVec 128 × List Char) :=
  let front := readSegments 8 false chars
  if front.values.length = 8 then some (ofSegments front.values, front.rest)
  else if front.dotted then none
  else do
    let rest ← readChar ':' (← readChar ':' front.rest)
    let back := readSegments (7 - front.values.length) false rest
    let zeros := List.replicate (8 - front.values.length - back.values.length) 0
    return (ofSegments (front.values ++ zeros ++ back.values), back.rest)

def parse? (source : String) : Option Address :=
  match readV4 source.toList with
  | some (bits, []) => some (v4 bits)
  | _ =>
    match readV6 source.toList with
    | some (bits, []) => some (v6 bits)
    | _ => none

end Address

namespace Endpoint

def text (endpoint : Endpoint) : String :=
  let address := endpoint.address.text
  let address := if endpoint.address.isV6 then "[" ++ address ++ "]" else address
  address ++ ":" ++ Address.decimal endpoint.port.toNat

end Endpoint

end Signoff
