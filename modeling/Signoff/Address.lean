namespace Signoff

/-! Network addresses as numbers, and which of them lie outside the public network. -/

inductive Address where
  | v4 (bits : BitVec 32)
  | v6 (bits : BitVec 128)
deriving DecidableEq, Repr

structure Endpoint where
  address : Address
  port : UInt16
deriving DecidableEq, Repr

namespace Address

def isV6 : Address → Bool
  | v4 _ => false
  | v6 _ => true

def octet (bits : BitVec 32) (index : Nat) : Nat :=
  (bits.toNat >>> (8 * (3 - index))) % 256

def segment (bits : BitVec 128) (index : Nat) : Nat :=
  (bits.toNat >>> (16 * (7 - index))) % 65536

def octets (bits : BitVec 32) : List Nat := (List.range 4).map (octet bits)

def segments (bits : BitVec 128) : List Nat := (List.range 8).map (segment bits)

def ofDigits (radix : Nat) (digits : List Nat) : Nat :=
  digits.foldl (fun value digit => value * radix + digit) 0

def ofOctets (octets : List Nat) : BitVec 32 := BitVec.ofNat 32 (ofDigits 256 octets)

def ofSegments (segments : List Nat) : BitVec 128 := BitVec.ofNat 128 (ofDigits 65536 segments)

/-- The IPv4 address inside an IPv4-mapped one. -/
def mapped? (bits : BitVec 128) : Option (BitVec 32) :=
  if bits.toNat >>> 32 = 0xffff then some (bits.setWidth 32) else none

def isForbiddenV4 (bits : BitVec 32) : Bool :=
  let a := octet bits 0
  let b := octet bits 1
  a == 0 || a == 10 || a == 127 ||
  (a == 100 && b &&& 0xc0 == 64) ||
  (a == 169 && b == 254) ||
  (a == 172 && 16 ≤ b && b ≤ 31) ||
  (a == 192 && b == 168) ||
  (224 ≤ a && a ≤ 239) ||
  bits == BitVec.allOnes 32

/-- Loopback, private, link-local, shared, multicast, broadcast and unspecified addresses.
An IPv4-mapped address is judged by the address inside. -/
def isForbidden : Address → Bool
  | v4 bits => isForbiddenV4 bits
  | v6 bits =>
    match mapped? bits with
    | some inner => isForbiddenV4 inner
    | none =>
      let first := segment bits 0
      bits == 0 || bits == 1 ||
      first &&& 0xff00 == 0xff00 || first &&& 0xfe00 == 0xfc00 || first &&& 0xffc0 == 0xfe80

end Address

end Signoff
