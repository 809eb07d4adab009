import Signoff.Text.Composition
import Signoff.Url.JoiningTable

namespace Signoff.Url

/-! Characters without a shape of their own that join their neighbours or keep them apart. They
may stand where they make a difference, by RFC 5892: after a virama, and between letters that would
join. -/

namespace Joining

def ofChar? (char : Char) : Option Joining :=
  (joinings.find? (·.2.any (·.contains char.toNat))).map (·.1)

def separator : Char := '\u200c'
def joiner : Char := '\u200d'

def viramaClass : Nat := 9

def isVirama (char : Char) : Bool := Text.markClass char == viramaClass

def joins (sides : List Joining) (chars : List Char) : Bool :=
  match (chars.map ofChar?).find? (· != some transparent) with
  | some (some side) => sides.contains side
  | _ => false

/-- Whether `char` may stand between what is to its left, nearest first, and to its right. -/
def allows (char : Char) (before after : List Char) : Bool :=
  before.head?.any isVirama ||
    (char == separator && joins [left, both] before && joins [right, both] after)

def allAllowed (before : List Char) : List Char → Bool
  | [] => true
  | char :: after =>
    (!(char == separator || char == joiner) || allows char before after) &&
      allAllowed (char :: before) after

end Joining

end Signoff.Url
