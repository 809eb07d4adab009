import Signoff.Text.Split
import Signoff.Url.Host

namespace Signoff.Fetch

/-! The names that a secure channel can be set up for. Others fail before the network is asked. -/

namespace ServerName

def longest : Nat := 253
def longestLabel : Nat := 63

def isLabelChar (char : Char) : Bool := char.isAlphanum || char = '_' || char = '-'

def isLabel (label : List Char) : Bool :=
  !label.isEmpty && label.length ≤ longestLabel && label.all isLabelChar &&
    label.head? != some '-' && label.getLast? != some '-'

/-- A name may end in a dot; its last label is no number. -/
def isName (name : List Char) : Bool :=
  let labels := Text.splitAt (· = '.') name
  let labels := if labels.getLast? = some [] then labels.dropLast else labels
  name.length ≤ longest && !labels.isEmpty && labels.all isLabel &&
    !labels.getLast?.any (·.all Char.isDigit)

end ServerName

def canSecure : Host → Bool
  | .address _ => true
  | .name text => ServerName.isName text.toList

end Signoff.Fetch
