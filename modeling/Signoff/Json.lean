import Signoff.Hex

namespace Signoff

/-! Serialized values. A number written with a point or an exponent is no integer, whatever
its value. -/

inductive Json where
  | null
  | bool (value : Bool)
  | integer (value : Int)
  | decimal (literal : String)
  | text (value : String)
  | array (items : List Json)
  | object (fields : List (String × Json))
deriving Inhabited

namespace Json

def field? (name : String) : Json → Option Json
  | object fields => fields.lookup name
  | _ => none

def text? : Json → Option String
  | text value => some value
  | _ => none

def bool? : Json → Option Bool
  | bool value => some value
  | _ => none

def integer? : Json → Option Int
  | integer value => some value
  | _ => none

def int64? (json : Json) : Option Int64 := do
  let value ← json.integer?
  if Int64.minValue.toInt ≤ value ∧ value ≤ Int64.maxValue.toInt then some (Int64.ofInt value)
  else none

def uint16? (json : Json) : Option UInt16 := do
  let value ← json.integer?
  if 0 ≤ value ∧ value < UInt16.size then some (UInt16.ofNat value.toNat) else none

def uint64? (json : Json) : Option UInt64 := do
  let value ← json.integer?
  if 0 ≤ value ∧ value < UInt64.size then some (UInt64.ofNat value.toNat) else none

def octets? (length : Nat) (json : Json) : Option (Octets length) := do
  let text ← json.text?
  (Hex.decode length text).toOption

def optional? {α : Type} (read : Json → Option α) : Option Json → Option (Option α)
  | none => some none
  | some null => some none
  | some json => (read json).map some

def ofOption {α : Type} (write : α → Json) : Option α → Json
  | none => null
  | some value => write value

def ofOctets {length : Nat} (octets : Octets length) : Json := text octets.hex

def ofInt64 (value : Int64) : Json := integer value.toInt

/-- An object may also be written as the list of its values, in the order of its names. -/
def named (names : List String) : Json → Json
  | array items => if items.length = names.length then object (names.zip items) else array items
  | json => json

@[simp] theorem named_object (names : List String) (fields : List (String × Json)) :
    (object fields).named names = object fields := rfl

variable {α : Type}

def required? (json : Json) (name : String) (read : Json → Option α) : Option α :=
  (json.field? name).bind read

def optionalField? (json : Json) (name : String) (read : Json → Option α) :
    Option (Option α) :=
  optional? read (json.field? name)

end Json

end Signoff
