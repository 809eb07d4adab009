import Signoff.Address.Text
import Signoff.Url.Name

namespace Signoff

/-! The hosts of web addresses. A name that ends in a number has to be an IPv4 address, whose
numbers may be written in octal and hexadecimal and may cover several octets. -/

inductive UrlError where
  | emptyHost
  | badName
  | badPort
  | badV4
  | badV6
  | badCharacter
  | noBase
deriving DecidableEq, Repr

def UrlError.message : UrlError → String
  | .emptyHost => "empty host"
  | .badName => "invalid international domain name"
  | .badPort => "invalid port number"
  | .badV4 => "invalid IPv4 address"
  | .badV6 => "invalid IPv6 address"
  | .badCharacter => "invalid domain character"
  | .noBase => "relative URL without a base"

inductive Host where
  | address (address : Address)
  | name (text : String)
deriving DecidableEq, Repr

namespace Host

def text : Host → String
  | address (.v4 bits) => Address.dotted bits
  | address (.v6 bits) => "[" ++ Address.compressed (Address.segments bits) ++ "]"
  | name text => text

def digitsValue? (radix : Nat) (digits : List Char) : Option Nat :=
  (digits.mapM (Address.digitValue? radix)).map (Address.ofDigits radix)

/-- A leading zero stands for octal, a leading `0x` for hexadecimal. -/
def partValue? : List Char → Option Nat
  | [] => none
  | '0' :: mark :: digits =>
    if mark = 'x' ∨ mark = 'X' then digitsValue? 16 digits else digitsValue? 8 (mark :: digits)
  | digits => digitsValue? 10 digits

def isNumber (part : List Char) : Bool :=
  (!part.isEmpty && part.all Char.isDigit) || (partValue? part).isSome

def endsInNumber (name : List Char) : Bool :=
  match (Text.splitAt (· = '.') name).reverse with
  | [] :: part :: _ => isNumber part
  | part :: _ => isNumber part
  | [] => false

/-- The last number covers all the octets that are left. -/
def v4OfParts? (numbers : List Nat) : Option (BitVec 32) :=
  match numbers.reverse with
  | [] => none
  | last :: front =>
    let octets := front.reverse
    let room := 4 - octets.length
    if 4 < numbers.length ∨ 1 <<< (8 * room) ≤ last ∨ octets.any (255 < ·) then none
    else some (BitVec.ofNat 32 (Address.ofDigits 256 octets <<< (8 * room) + last))

def readV4? (name : List Char) : Option (BitVec 32) := do
  let parts := Text.splitAt (· = '.') name
  let parts := if parts.getLast? = some [] then parts.dropLast else parts
  v4OfParts? (← parts.mapM partValue?)

def ofName (name : List Char) : Except UrlError Host :=
  if name.isEmpty then .error .emptyHost
  else if endsInNumber name then
    match readV4? name with
    | some bits => .ok (address (.v4 bits))
    | none => .error .badV4
  else .ok (Host.name (String.ofList name))

def ofBracketed (rest : List Char) : Except UrlError Host :=
  match rest.reverse with
  | ']' :: inner =>
    match Address.readV6 inner.reverse with
    | some (bits, []) => .ok (address (.v6 bits))
    | _ => .error .badV6
  | _ => .error .badV6

def parse : List Char → Except UrlError Host
  | '[' :: rest => ofBracketed rest
  | chars =>
    match Url.Name.ofEscaped? chars with
    | some found => ofName found
    | none => .error .badName

end Host

end Signoff
