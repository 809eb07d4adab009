import Signoff.Database.Real

namespace Signoff.Database

/-! Numbers in text: a sign, digits with or without a point, and an exponent, with blanks on
either side. -/

structure Numeral where
  negative : Bool
  whole : List Char
  fraction : Option (List Char)
  exponent : Option Int

namespace Numeral

def isBlank (char : Char) : Bool := char = ' ' || (9 ≤ char.toNat && char.toNat ≤ 13)

def digitValue (digit : Char) : Nat := digit.toNat - 48

def digits (chars : List Char) : List Char × List Char :=
  (chars.takeWhile Char.isDigit, chars.dropWhile Char.isDigit)

def sign : List Char → Bool × List Char
  | '-' :: rest => (true, rest)
  | '+' :: rest => (false, rest)
  | chars => (false, chars)

/-- From here on further digits make an exponent no larger. -/
def largestExponent : Nat := 10000

def exponentOf (digits : List Char) : Nat :=
  digits.foldl (fun value digit =>
    if value < largestExponent then 10 * value + digitValue digit else largestExponent) 0

def point : List Char → Option (List Char) × List Char
  | '.' :: rest => ((digits rest).map some id)
  | chars => (none, chars)

def scale : List Char → Option Int × List Char
  | [] => (none, [])
  | mark :: rest =>
    let (negative, signed) := sign rest
    let (found, after) := digits signed
    if (mark = 'e' ∨ mark = 'E') ∧ !found.isEmpty then
      let value : Int := exponentOf found
      (some (if negative then -value else value), after)
    else (none, mark :: rest)

def hasDigits (numeral : Numeral) : Bool :=
  !(numeral.whole.isEmpty && (numeral.fraction.getD []).isEmpty)

def leading (chars : List Char) : Numeral × List Char :=
  let (negative, rest) := sign (chars.dropWhile isBlank)
  let (whole, rest) := digits rest
  let (fraction, rest) := point rest
  let (exponent, rest) := scale rest
  ({ negative, whole, fraction, exponent }, rest)

def parse? (source : String) : Option Numeral :=
  let (numeral, rest) := leading source.toList
  if numeral.hasDigits && rest.all isBlank then some numeral else none

def isWhole (numeral : Numeral) : Bool :=
  numeral.fraction.isNone && numeral.exponent.isNone

def wholeValue (numeral : Numeral) : Int :=
  let value : Int := numeral.whole.foldl (fun value digit => 10 * value + digitValue digit) 0
  if numeral.negative then -value else value

structure Decimal where
  significand : Nat
  exponent : Int

/-- No digit is taken once a significand has come this far. -/
def fullSignificand : Nat := 1844674407370955160

namespace Decimal

def takeWhole (number : Decimal) (digit : Char) : Decimal :=
  if number.significand < fullSignificand then
    { number with significand := 10 * number.significand + digitValue digit }
  else { number with exponent := number.exponent + 1 }

def takeFraction (number : Decimal) (digit : Char) : Decimal :=
  if number.significand < fullSignificand then
    ⟨10 * number.significand + digitValue digit, number.exponent - 1⟩
  else number

def fill : Nat → Nat → Nat × Nat
  | 0, significand => (significand, 0)
  | exponent + 1, significand =>
    if significand ≤ fullSignificand then fill exponent (10 * significand)
    else (significand, exponent + 1)

def strip : Nat → Nat → Nat × Nat
  | 0, significand => (significand, 0)
  | places + 1, significand =>
    if significand % 10 = 0 then strip places (significand / 10) else (significand, places + 1)

def toDyadic (number : Decimal) : Dyadic :=
  if 0 ≤ number.exponent then
    let (significand, exponent) := fill number.exponent.toNat number.significand
    Dyadic.scaleUp ⟨significand, 0⟩ exponent
  else
    let (significand, places) := strip (-number.exponent).toNat number.significand
    Dyadic.scaleDown ⟨significand, 0⟩ places

end Decimal

def decimal (numeral : Numeral) : Decimal :=
  let number := numeral.whole.foldl Decimal.takeWhole ⟨0, 0⟩
  let number := (numeral.fraction.getD []).foldl Decimal.takeFraction number
  { number with exponent := number.exponent + numeral.exponent.getD 0 }

def toReal (numeral : Numeral) : Real :=
  let decimal := numeral.decimal
  if decimal.significand = 0 then .ofInt 0
  else .ofDyadic numeral.negative decimal.toDyadic

/-- What a text is worth where a number is asked for: no more than the number at its start, or zero
without any. -/
def worth (chars : List Char) : Real :=
  let numeral := (leading chars).1
  if numeral.hasDigits then numeral.toReal else .ofInt 0

end Numeral

end Signoff.Database
