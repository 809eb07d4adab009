import Signoff.Database.Real

namespace Signoff.Database

/-! Texts of floating point numbers. A number is scaled until all of its digits that count stand
before the point, and fifteen of them are printed. -/

namespace Dyadic

def truncated (number : Dyadic) : Nat :=
  if 0 ≤ number.exponent then number.significand <<< number.exponent.toNat
  else number.significand >>> (-number.exponent).toNat

def less (left right : Dyadic) : Bool :=
  let exponent := min left.exponent right.exponent
  left.significand <<< (left.exponent - exponent).toNat <
    right.significand <<< (right.exponent - exponent).toNat

def tenTo (exponent : Int) : Dyadic :=
  if 0 ≤ exponent then roundTo precision ⟨powerOfTen exponent.toNat, 0⟩
  else inverse precision (powerOfTen (-exponent).toNat)

def lower (bound : Int) (step : Nat) : (fuel : Nat) → Dyadic × Int → Dyadic × Int
  | 0, scaled => scaled
  | fuel + 1, (number, exponent) =>
    if number.less (tenTo bound) then (number, exponent)
    else lower bound step fuel (number.times (tenTo (-step)), exponent + step)

def raise (bound : Int) (step : Nat) : (fuel : Nat) → Dyadic × Int → Dyadic × Int
  | 0, scaled => scaled
  | fuel + 1, (number, exponent) =>
    if number.less (tenTo bound) then
      raise bound step fuel (number.times (tenTo step), exponent - step)
    else (number, exponent)

/-- No number is so far from one that more steps of one size are needed. -/
def mostSteps : Nat := 12

/-- Brings a number that is not zero between `10 ^ 17` and `10 ^ 19`. -/
def scaled (number : Dyadic) : Dyadic × Int :=
  if number.less (tenTo 19) then
    raise 17 1 mostSteps (raise 7 10 mostSteps (raise (-97) 100 mostSteps (number, 0)))
  else lower 19 1 mostSteps (lower 29 10 mostSteps (lower 119 100 mostSteps (number, 0)))

def printedDigits : Nat := 15

def digits (number : Dyadic) : List Char × Int :=
  let (scaled, exponent) := number.scaled
  let excess := (Nat.toDigits 10 scaled.truncated).length - printedDigits
  let half := powerOfTen excess / 2
  let rounded := Nat.toDigits 10 ((scaled.truncated + half) / powerOfTen excess)
  ((rounded.reverse.dropWhile (· = '0')).reverse, rounded.length + excess + exponent)

end Dyadic

namespace Real

def behindPoint (digits : List Char) : List Char :=
  '.' :: if digits.isEmpty then ['0'] else digits

def exponentText (exponent : Int) : List Char :=
  let digits := Nat.toDigits 10 exponent.natAbs
  'e' :: (if exponent < 0 then '-' else '+') :: List.replicate (2 - digits.length) '0' ++ digits

def magnitudeText (magnitude : Dyadic) : List Char :=
  let (digits, place) := magnitude.digits
  if place < -3 ∨ Dyadic.printedDigits < place then
    digits.take 1 ++ behindPoint (digits.drop 1) ++ exponentText (place - 1)
  else if place ≤ 0 then
    '0' :: behindPoint (List.replicate (-place).toNat '0' ++ digits)
  else
    let whole := place.toNat
    digits.take whole ++ List.replicate (whole - digits.length) '0' ++
      behindPoint (digits.drop whole)

def text : Real → String
  | infinite negative => if negative then "-Inf" else "Inf"
  | finite significand exponent =>
    if significand = 0 then "0.0"
    else
      let sign := if significand < 0 then ['-'] else []
      String.ofList (sign ++ magnitudeText ⟨significand.natAbs, exponent⟩)

end Real

end Signoff.Database
