import Signoff.Text.CaseTable

namespace Signoff.Text

def lowerChar (char : Char) : Char :=
  match lowerRuns.find? (·.contains char.toNat) with
  | some run => Char.ofNat (char.toNat + run.shift).toNat
  | none => char

def isCaseIgnorable (char : Char) : Bool :=
  caseIgnorableRanges.any (·.contains char.toNat)

def isCased (char : Char) : Bool :=
  casedRanges.any (·.contains char.toNat)

def casedAhead (chars : List Char) : Bool :=
  match chars.dropWhile isCaseIgnorable with
  | [] => false
  | char :: _ => isCased char

/-- A capital sigma is final after a cased character and before none. -/
def lowerSigma (before after : List Char) : Char :=
  if casedAhead before && !casedAhead after then 'ς' else 'σ'

/-- Lower case of `chars`, where `before` holds the characters to their left, nearest first. -/
def lowerFrom (before : List Char) : List Char → List Char
  | [] => []
  | char :: after =>
    let lower :=
      if char = 'Σ' then [lowerSigma before after]
      else if char = 'İ' then ['i', '\u0307']
      else [lowerChar char]
    lower ++ lowerFrom (char :: before) after

def lowercase (text : String) : String :=
  String.ofList (lowerFrom [] text.toList)

def asciiLowercase (text : String) : String :=
  text.map Char.toLower

end Signoff.Text
