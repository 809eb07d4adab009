import Signoff.Text.Composition
import Signoff.Text.Lowercase
import Signoff.Text.Split
import Signoff.Url.Direction
import Signoff.Url.Joining
import Signoff.Url.NameTable
import Signoff.Url.Percent
import Signoff.Url.Punycode

namespace Signoff.Url

/-! Host names in their ASCII form. Each label of other characters becomes a Punycode label;
spellings that mean the same name become one. -/

namespace Name

def ignores (char : Char) : Bool := ignoredRanges.any (·.contains char.toNat)

def disallows (char : Char) : Bool := disallowedRanges.any (·.contains char.toNat)

def isMark (char : Char) : Bool := markRanges.any (·.contains char.toNat)

def isForbidden (char : Char) : Bool :=
  char.toNat ≤ 32 || char.toNat == 127 || "%#/:<>?@[\\]^|".toList.contains char

def forms : List (Nat × List (List Char)) :=
  formRuns.map fun run => (run.first, Text.splitAt (· = ' ') run.texts.toList)

def form? (code : Nat) : Option (List Char) :=
  forms.findSome? fun (first, texts) => if first ≤ code then texts[code - first]? else none

def foldChar (char : Char) : List Char :=
  if char.toNat < 128 then [char.toLower]
  else if ignores char then []
  else (form? char.toNat).getD [Text.lowerChar char]

def fold? (chars : List Char) : Option (List Char) :=
  if chars.any disallows then none else some (Text.composed (chars.flatMap foldChar))

def marker : List Char := "xn--".toList

def longestLabel : Nat := 1000

def mostDigits : Nat := 2000

def isUsable (label : List Char) : Bool :=
  !label.all Punycode.isPlain && label.length ≤ longestLabel && !label.head?.any isMark &&
    Joining.allAllowed [] label && !marker.isPrefixOf label

/-- The label that Punycode digits stand for. It has to be spelled in the one way. -/
def ofDigits? (digits : List Char) : Option (List Char) := do
  if mostDigits < digits.length then none
  let label ← Punycode.decode? digits
  if isUsable label && fold? label == some label && Punycode.encode label == digits then
    return label
  else none

structure Label where
  text : List Char
  ascii : List Char

namespace Label

def ofText? (text : List Char) : Option Label :=
  if text.all Punycode.isPlain then
    if marker.isPrefixOf text then
      (ofDigits? (text.drop marker.length)).map fun label => ⟨label, text⟩
    else some ⟨text, text⟩
  else if isUsable text then some ⟨text, marker ++ Punycode.encode text⟩
  else none

end Label

def joinLabels : List (List Char) → List Char
  | [] => []
  | [label] => label
  | label :: rest => label ++ '.' :: joinLabels rest

def toAscii (chars : List Char) : Option (List Char) := do
  let name ← fold? chars
  if name.any isForbidden then none
  let labels ← (Text.splitAt (· = '.') name).mapM Label.ofText?
  if keepDirections (labels.map (·.text)) then return joinLabels (labels.map (·.ascii))
  else none

def ofEscaped? (chars : List Char) : Option (List Char) := do
  let bytes := Percent.decode (Text.bytes (String.ofList chars))
  let text ← String.fromUTF8? bytes.toByteArray
  toAscii text.toList

end Name

end Signoff.Url
