import Signoff.Url.DirectionTable

namespace Signoff.Url

/-! Names with letters that run from right to left. In such a name each label keeps to one
direction, by RFC 5893, so that no reordering moves a character out of its label. -/

namespace Direction

def ofChar (char : Char) : Direction :=
  ((directions.find? (·.2.any (·.contains char.toNat))).map (·.1)).getD .left

def turns : Direction → Bool
  | right | arabicLetter | arabicNumber => true
  | _ => false

def isNeutral : Direction → Bool
  | europeanNumber | europeanSeparator | commonSeparator | europeanTerminator => true
  | neutral | boundary | mark => true
  | _ => false

/-- Marks at the end of a label belong to what they stand on. -/
def last? (label : List Direction) : Option Direction := label.reverse.find? (· != mark)

def isLeftToRight (label : List Direction) : Bool :=
  label.all (fun each => each == left || each.isNeutral) &&
    (last? label).all fun last => last == left || last == europeanNumber

def isRightToLeft (label : List Direction) : Bool :=
  label.all (fun each => each.turns || each.isNeutral) &&
    (last? label).all (fun last => last.turns || last == europeanNumber) &&
    !(label.contains europeanNumber && label.contains arabicNumber)

def keepsDirection (label : List Direction) : Bool :=
  match label with
  | [] => true
  | left :: _ => isLeftToRight label
  | right :: _ | arabicLetter :: _ => isRightToLeft label
  | _ => false

end Direction

def keepDirections (labels : List (List Char)) : Bool :=
  let labels := labels.map (·.map Direction.ofChar)
  !labels.any (·.any Direction.turns) || labels.all Direction.keepsDirection

end Signoff.Url
