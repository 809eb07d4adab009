import Signoff.Text.CompositionTable

namespace Signoff.Text

/-! The composed form of a text. Letters are taken apart, marks are put in the order of their
classes, and each mark joins its letter again unless another of its class stands between. -/

def markClass (char : Char) : Nat :=
  ((markClasses.find? (·.2.any (·.contains char.toNat))).map (·.1)).getD 0

namespace Hangul

def firstSyllable : Nat := 0xac00
def firstLeading : Nat := 0x1100
def firstVowel : Nat := 0x1161
/-- Stands for no trailing consonant; the first one follows. -/
def noTrailing : Nat := 0x11a7

def leadings : Nat := 19
def vowels : Nat := 21
def trailings : Nat := 28

def syllables : Nat := leadings * vowels * trailings

def isSyllable (code : Nat) : Bool :=
  firstSyllable ≤ code && code < firstSyllable + syllables

def parts (code : Nat) : List Nat :=
  let index := code - firstSyllable
  let trailing := index % trailings
  [firstLeading + index / trailings / vowels, firstVowel + index / trailings % vowels] ++
    if trailing = 0 then [] else [noTrailing + trailing]

def compose? (first second : Nat) : Option Nat :=
  if firstLeading ≤ first ∧ first < firstLeading + leadings ∧
      firstVowel ≤ second ∧ second < firstVowel + vowels then
    some (firstSyllable + ((first - firstLeading) * vowels + (second - firstVowel)) * trailings)
  else if isSyllable first ∧ (first - firstSyllable) % trailings = 0 ∧
      noTrailing < second ∧ second < noTrailing + trailings then
    some (first + (second - noTrailing))
  else none

end Hangul

def pairedWith (base : Char) : List Char → Option Char
  | letter :: composite :: rest =>
    if letter = base then some composite else pairedWith base rest
  | _ => none

def partnerOf (whole : Char) : List Char → Option Char
  | letter :: composite :: rest =>
    if composite = whole then some letter else partnerOf whole rest
  | _ => none

def compose? (base mark : Char) : Option Char :=
  match Hangul.compose? base.toNat mark.toNat with
  | some code => some (Char.ofNat code)
  | none =>
    (composites.find? (·.mark = mark.toNat)).bind fun row => pairedWith base row.pairs.toList

def split? (whole : Char) : Option (Char × Char) :=
  composites.findSome? fun row =>
    (partnerOf whole row.pairs.toList).map fun letter => (letter, Char.ofNat row.mark)

def takenApart (depth : Nat) (char : Char) : List Char :=
  match depth, split? char with
  | depth + 1, some (letter, mark) => takenApart depth letter ++ [mark]
  | _, _ => [char]

def mostMarks : Nat := 3

def decomposed (char : Char) : List Char :=
  if Hangul.isSyllable char.toNat then (Hangul.parts char.toNat).map Char.ofNat
  else takenApart mostMarks char

def insertMark (mark : Char) : List Char → List Char
  | [] => [mark]
  | next :: rest =>
    if 0 < markClass next ∧ markClass next < markClass mark then
      next :: insertMark mark rest
    else mark :: next :: rest

def ordered : List Char → List Char
  | [] => []
  | char :: rest =>
    if markClass char = 0 then char :: ordered rest else insertMark char (ordered rest)

/-- Joins what follows a letter to it; `marks` are those that did not join, nearest first. -/
def composeFrom (letter : Char) (marks : List Char) : List Char → List Char
  | [] => letter :: marks.reverse
  | char :: rest =>
    let reaches := marks.head?.all fun mark => markClass mark < markClass char
    match if reaches then compose? letter char else none with
    | some composite => composeFrom composite marks rest
    | none =>
      if markClass char = 0 then letter :: marks.reverse ++ composeFrom char [] rest
      else composeFrom letter (char :: marks) rest

def composed (chars : List Char) : List Char :=
  match ordered (chars.flatMap decomposed) with
  | [] => []
  | char :: rest => composeFrom char [] rest

end Signoff.Text
