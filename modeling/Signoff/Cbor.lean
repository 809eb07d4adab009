import Signoff.Bytes

namespace Signoff

/-! The concise binary object representation in its deterministic form: definite lengths, the
shortest head for each number, map entries in the order of their encoded keys. -/

inductive Cbor where
  | integer (value : Int)
  | bytes (value : List UInt8)
  | text (value : String)
  | null
  | map (entries : List (Cbor × Cbor))

namespace Cbor

/-- A major type and a number below 2⁶⁴ in one, two, three, five or nine bytes. -/
def head (major number : Nat) : List UInt8 :=
  let initial := fun low => UInt8.ofNat (32 * major + low)
  if number < 24 then [initial number]
  else if number < 0x100 then initial 24 :: Bytes.bigEndian 1 number
  else if number < 0x10000 then initial 25 :: Bytes.bigEndian 2 number
  else if number < 0x100000000 then initial 26 :: Bytes.bigEndian 4 number
  else initial 27 :: Bytes.bigEndian 8 number

def encodeInteger (value : Int) : List UInt8 :=
  if 0 ≤ value then head 0 value.toNat else head 1 (-1 - value).toNat

abbrev Entry := List UInt8 × List UInt8

def keyBefore (left right : Entry) : Bool := decide (left.1 ≤ right.1)

def sortEntries (entries : List Entry) : List Entry :=
  entries.mergeSort keyBefore

mutual

def encode : Cbor → List UInt8
  | integer value => encodeInteger value
  | bytes value => head 2 value.length ++ value
  | text value => head 3 (Text.bytes value).length ++ Text.bytes value
  | null => [0xf6]
  | map entries =>
    head 5 entries.length ++
      (sortEntries (encodeEntries entries)).flatMap fun entry => entry.1 ++ entry.2

def encodeEntries : List (Cbor × Cbor) → List Entry
  | [] => []
  | (key, value) :: rest => (encode key, encode value) :: encodeEntries rest

end

end Cbor

end Signoff
