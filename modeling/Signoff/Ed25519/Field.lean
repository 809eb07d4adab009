namespace Signoff.Ed25519

/-! Arithmetic modulo the prime 2²⁵⁵ - 19, on the numbers below it. -/

namespace Field

def prime : Nat := (1 <<< 255) - 19

def add (left right : Nat) : Nat := (left + right) % prime

def sub (left right : Nat) : Nat := (left + (prime - right)) % prime

def mul (left right : Nat) : Nat := left * right % prime

def neg (value : Nat) : Nat := (prime - value) % prime

def pow (base exponent : Nat) : Nat :=
  (List.range 255).reverse.foldl (fun power index =>
    let square := mul power power
    if exponent.testBit index then mul square base else square) 1

def inverse (value : Nat) : Nat := pow value (prime - 2)

def rootMinusOne : Nat := pow 2 ((prime - 1) / 4)

/-- The even square root of the quotient `numerator / denominator`, if there is one. -/
def rootOfQuotient? (numerator denominator : Nat) : Option Nat :=
  let cube := mul (mul denominator denominator) denominator
  let seventh := mul (mul cube cube) denominator
  let root := mul (mul numerator cube) (pow (mul numerator seventh) ((prime - 5) / 8))
  let check := mul denominator (mul root root)
  let even := fun root => if root % 2 = 1 then neg root else root
  if check = numerator then some (even root)
  else if check = neg numerator then some (even (mul root rootMinusOne))
  else none

end Field

end Signoff.Ed25519
