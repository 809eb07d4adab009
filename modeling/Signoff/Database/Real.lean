namespace Signoff.Database

/-! Floating point numbers, and how decimal digits lead to one. Digits are scaled with more
precision than a number has in the end, so that a number is rounded several times on the way. -/

structure Dyadic where
  significand : Nat
  exponent : Int
deriving DecidableEq, Repr

namespace Dyadic

def bitLength (number : Nat) : Nat := if number = 0 then 0 else number.log2 + 1

/-- `number / 2 ^ places`, rounded to the nearest, and to the even one of two. -/
def halfEven (number places : Nat) : Nat :=
  let whole := number >>> places
  let twice := 2 * (number - whole <<< places)
  let one := 1 <<< places
  if one < twice ∨ (one = twice ∧ whole % 2 = 1) then whole + 1 else whole

def dropBits (places : Nat) (number : Dyadic) : Dyadic :=
  ⟨halfEven number.significand places, number.exponent + places⟩

def roundTo (bits : Nat) (number : Dyadic) : Dyadic :=
  number.dropBits (bitLength number.significand - bits)

/-- The nearest number of `bits` bits to one over `denominator`. The last bit of the quotient
tells whether something is left over. -/
def inverse (bits denominator : Nat) : Dyadic :=
  let places := bits + 2 + bitLength denominator
  let one := 1 <<< places
  let rest := if one % denominator = 0 then 0 else 1
  roundTo bits ⟨2 * (one / denominator) + rest, -(places + 1 : Int)⟩

def normal (number : Dyadic) : Nat → Dyadic
  | 0 => number
  | steps + 1 =>
    if number.significand % 2 = 0 then
      normal ⟨number.significand / 2, number.exponent + 1⟩ steps
    else number

def normalized (number : Dyadic) : Dyadic :=
  if number.significand = 0 then ⟨0, 0⟩
  else number.normal (bitLength number.significand)

def precision : Nat := 64

def powerOfTen : Nat → Nat
  | 0 => 1
  | exponent + 1 => 10 * powerOfTen exponent

def times (left right : Dyadic) : Dyadic :=
  roundTo precision ⟨left.significand * right.significand, left.exponent + right.exponent⟩

def scaleSteps (exponent : Nat) : List Nat :=
  List.replicate (exponent / 100) 100 ++ List.replicate (exponent % 100 / 10) 10 ++
    List.replicate (exponent % 10) 1

def scaleUp (number : Dyadic) (exponent : Nat) : Dyadic :=
  (scaleSteps exponent).foldl
    (fun number step => number.times (roundTo precision ⟨powerOfTen step, 0⟩)) number

def scaleDown (number : Dyadic) (exponent : Nat) : Dyadic :=
  (scaleSteps exponent).foldl
    (fun number step => number.times (inverse precision (powerOfTen step))) number

end Dyadic

/-- A floating point number. The significand of a finite one is odd, or zero with exponent zero. -/
inductive Real where
  | finite (significand exponent : Int)
  | infinite (negative : Bool)
deriving DecidableEq, Repr

namespace Real

def precision : Nat := 53
def lastPlace : Int := -1074

def largest : Nat := (1 <<< precision - 1) <<< 971

def exceedsLargest (number : Dyadic) : Bool :=
  0 ≤ number.exponent && largest < number.significand <<< number.exponent.toNat

def ofMagnitude (negative : Bool) (magnitude : Dyadic) : Real :=
  let magnitude := magnitude.normalized
  let significand : Int := magnitude.significand
  finite (if negative then -significand else significand) magnitude.exponent

def ofDyadic (negative : Bool) (number : Dyadic) : Real :=
  let places := max (Dyadic.bitLength number.significand - precision)
    (lastPlace - number.exponent).toNat
  if exceedsLargest number then infinite negative
  else ofMagnitude negative (number.dropBits places)

def ofInt (value : Int) : Real := ofMagnitude (value < 0) ⟨value.natAbs, 0⟩

def toInt? : Real → Option Int
  | finite significand exponent =>
    if 0 ≤ exponent then some (significand * (1 <<< exponent.toNat : Nat)) else none
  | infinite _ => none

def le : Real → Real → Bool
  | infinite negative, right => negative || right = infinite false
  | _, infinite negative => !negative
  | finite left leftExponent, finite right rightExponent =>
    let exponent := min leftExponent rightExponent
    decide (left * (1 <<< (leftExponent - exponent).toNat : Nat) ≤
      right * (1 <<< (rightExponent - exponent).toNat : Nat))

end Real

end Signoff.Database
