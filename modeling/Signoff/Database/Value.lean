import Signoff.Bytes
import Signoff.Database.Numeral
import Signoff.Database.Printing
import Signoff.Store.Error

namespace Signoff.Database

/-! Values as a database keeps them. A column has a storage class that it prefers; a value
that cannot take it is kept as it is. -/

structure Garble where
  bytes : List UInt8
  untextual : String.fromUTF8? bytes.toByteArray = none
deriving DecidableEq, Repr

inductive Value where
  | null
  | integer (value : Int64)
  | real (value : Real)
  | text (value : String)
  /-- A text to the database, which does not look at its bytes, and to nobody else. -/
  | garbled (value : Garble)
  | blob (value : List UInt8)
deriving DecidableEq, Repr

inductive Affinity where
  | integer
  | text
  | blob
deriving DecidableEq, Repr

namespace Value

def storageClass : Value → StorageClass
  | null => .null
  | integer _ => .integer
  | real _ => .real
  | text _ => .text
  | garbled _ => .text
  | blob _ => .blob

/-- A whole number between the smallest and the largest integer becomes an integer. -/
def ofReal (value : Real) : Value :=
  match value.toInt? with
  | some whole =>
    if Int64.minValue.toInt < whole ∧ whole < Int64.maxValue.toInt then
      integer (Int64.ofInt whole)
    else real value
  | none => real value

def ofLiteral (numeral : Numeral) : Value :=
  let whole := numeral.wholeValue
  if numeral.isWhole ∧ Int64.minValue.toInt ≤ whole ∧ whole ≤ Int64.maxValue.toInt then
    integer (Int64.ofInt whole)
  else real numeral.toReal

def reduced : Value → Value
  | real value => ofReal value
  | value => value

end Value

namespace Affinity

def convert : Affinity → Value → Value
  | .integer, .text value =>
    match Numeral.parse? value with
    | some numeral => (Value.ofLiteral numeral).reduced
    | none => .text value
  | .integer, value => value.reduced
  | .text, .integer value => .text (toString value.toInt)
  | .text, .real value => .text value.text
  | _, value => value

end Affinity

namespace Value

def rank : Value → Nat
  | null => 0
  | integer _ => 1
  | real _ => 1
  | text _ => 2
  | garbled _ => 2
  | blob _ => 3

def toReal : Value → Real
  | integer value => .ofInt value.toInt
  | real value => value
  | _ => .ofInt 0

def bytes? : Value → Option (List UInt8)
  | text value => some (Text.bytes value)
  | garbled value => some value.bytes
  | blob value => some value
  | _ => none

def le (left right : Value) : Bool :=
  if left.rank = right.rank then
    match left.bytes?, right.bytes? with
    | some left, some right => decide (left ≤ right)
    | _, _ => left.toReal.le right.toReal
  else left.rank < right.rank

/-- Whether a comparison finds no difference. Integers and floating point numbers are the same if
they are worth the same. -/
def same (left right : Value) : Bool := left.le right && right.le left

end Value

end Signoff.Database
