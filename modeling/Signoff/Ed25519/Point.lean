import Signoff.Octets
import Signoff.Ed25519.Field

namespace Signoff.Ed25519

/-! Points of the twisted Edwards curve `-x² + y² = 1 + d x² y²` in extended coordinates:
`x / z`, `y / z` and `t / z = (x / z) (y / z)`. -/

structure Point where
  x : Nat
  y : Nat
  z : Nat
  t : Nat
deriving DecidableEq

namespace Point

open Ed25519.Field

def coefficient : Nat := mul (neg 121665) (inverse 121666)

def ofAffine (x y : Nat) : Point := ⟨x, y, 1, mul x y⟩

def identity : Point := ofAffine 0 1

def add (coefficient : Nat) (left right : Point) : Point :=
  let a := mul (sub left.y left.x) (sub right.y right.x)
  let b := mul (Field.add left.y left.x) (Field.add right.y right.x)
  let c := mul (mul (mul 2 coefficient) left.t) right.t
  let d := mul (mul 2 left.z) right.z
  let e := sub b a
  let f := sub d c
  let g := Field.add d c
  let h := Field.add b a
  ⟨mul e f, mul g h, mul f g, mul e h⟩

def negate (point : Point) : Point := ⟨neg point.x, point.y, point.z, neg point.t⟩

def multiply (scalar : Nat) (point : Point) : Point :=
  let d := coefficient
  (List.range 256).reverse.foldl (fun sum index =>
    let double := add d sum sum
    if scalar.testBit index then add d double point else double) identity

def encode (point : Point) : Octets 32 :=
  let scale := inverse point.z
  let x := mul point.x scale
  let y := mul point.y scale
  Octets.littleEndian 32 (y + (x % 2) <<< 255)

/-- Reads any number below 2²⁵⁵ as a `y` coordinate; a zero `x` may carry either parity. -/
def decode? (octets : Octets 32) : Option Point :=
  let value := Bytes.ofLittleEndian octets.bytes
  let y := value % (1 <<< 255) % prime
  let square := mul y y
  match rootOfQuotient? (sub square 1) (Field.add (mul coefficient square) 1) with
  | none => none
  | some x => some (ofAffine (if value.testBit 255 then neg x else x) y)

def base : Point :=
  ofAffine 0x216936d3cd6e53fec0a4e231fdd6dc5c692cc7609525a7b2c9562d608f25d51a
    0x6666666666666666666666666666666666666666666666666666666666666658

end Point

end Signoff.Ed25519
