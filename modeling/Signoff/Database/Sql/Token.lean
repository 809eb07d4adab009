import Signoff.Hex

namespace Signoff.Database.Sql

/-! The words of a statement. Nothing behind a zero character is read. -/

inductive Token where
  | word (text : String)
  | marked (text : String)
  /-- A name, or a text, between double quotes. -/
  | quoted (text : String)
  | string (text : String)
  | number (text : String)
  | blob (bytes : List UInt8)
  | parameter (name : String)
  | symbol (text : String)
  | blank
  | illegal
  | finish
deriving DecidableEq, Repr

structure Lexeme where
  token : Token
  text : String
  offset : Nat
deriving DecidableEq, Repr

namespace Token

def isBlank (char : Char) : Bool := char = ' ' || (9 ≤ char.toNat && char.toNat ≤ 13)

/-- A vertical tab is a blank only behind another one. -/
def startsBlank (char : Char) : Bool := isBlank char && char != '\x0b'

def byteOrderMark : Char := '\ufeff'

def isWordStart (char : Char) : Bool := char.isAlpha || char = '_' || 128 ≤ char.toNat

def isWordChar (char : Char) : Bool := isWordStart char || char.isDigit || char = '$'

def isHexDigit (char : Char) : Bool :=
  char.toNat < 128 && (Hex.nibble? (UInt8.ofNat char.toNat)).isSome

def untilMark (mark : Char) : List Char → Option (List Char × Nat)
  | [] => none
  | [char] => if char = mark then some ([], 1) else none
  | char :: next :: rest =>
    if char ≠ mark then (untilMark mark (next :: rest)).map fun (text, length) =>
      (char :: text, length + 1)
    else if next = mark then (untilMark mark rest).map fun (text, length) =>
      (mark :: text, length + 2)
    else some ([], 1)

def readMarked (mark : Char) (build : String → Token) (rest : List Char) : Token × Nat :=
  match untilMark mark rest with
  | some (text, length) => (build (String.ofList text), length + 1)
  | none => (illegal, rest.length + 1)

def readBracketed (rest : List Char) : Token × Nat :=
  let text := rest.takeWhile (· ≠ ']')
  if text.length = rest.length then (illegal, rest.length + 1)
  else (marked (String.ofList text), text.length + 2)

def readBlob (rest : List Char) : Token × Nat :=
  let text := rest.takeWhile (· ≠ '\'')
  let closed := if text.length = rest.length then 0 else 1
  match Hex.decodeBytes (String.ofList text) with
  | .ok bytes => (if closed = 1 then blob bytes else illegal, text.length + 2 + closed)
  | .error _ => (illegal, text.length + 2 + closed)

def exponentLength : List Char → Nat
  | mark :: sign :: rest =>
    let digits := if sign = '+' ∨ sign = '-' then rest.takeWhile Char.isDigit
      else (sign :: rest).takeWhile Char.isDigit
    if (mark ≠ 'e' ∧ mark ≠ 'E') ∨ digits.isEmpty then 0
    else if sign = '+' ∨ sign = '-' then digits.length + 2 else digits.length + 1
  | _ => 0

def decimalLength (chars : List Char) : Nat :=
  let whole := (chars.takeWhile Char.isDigit).length
  let places :=
    match chars.drop whole with
    | '.' :: rest => (rest.takeWhile Char.isDigit).length + 1
    | _ => 0
  whole + places + exponentLength (chars.drop (whole + places))

def readDecimal (chars : List Char) : Token × Nat :=
  let length := decimalLength chars
  let after := ((chars.drop length).takeWhile isWordChar).length
  if after = 0 then (number (String.ofList (chars.take length)), length)
  else (illegal, length + after)

def readNumber (chars : List Char) : Token × Nat :=
  match chars with
  | '0' :: mark :: digit :: rest =>
    if (mark = 'x' ∨ mark = 'X') ∧ isHexDigit digit then
      let length := (rest.takeWhile isHexDigit).length + 3
      (number (String.ofList (chars.take length)), length)
    else readDecimal chars
  | _ => readDecimal chars

def readParameter (mark : Char) (rest : List Char) : Token × Nat :=
  let name := rest.takeWhile (if mark = '?' then Char.isDigit else isWordChar)
  if name.isEmpty ∧ mark ≠ '?' then (illegal, 1)
  else (parameter (String.ofList (mark :: name)), name.length + 1)

def readWord (chars : List Char) : Token × Nat :=
  let text := chars.takeWhile isWordChar
  (word (String.ofList text), text.length)

def commentLength : List Char → Nat
  | '*' :: '/' :: _ => 2
  | _ :: rest => commentLength rest + 1
  | [] => 0

def doubleSymbols : List String :=
  ["==", "!=", "<>", "<=", "<<", ">=", ">>", "||", "->"]

def singleSymbols : List Char := "-()+*/%=<>,|&~.;".toList

def readSymbol (chars : List Char) : Token × Nat :=
  let double := String.ofList (chars.take 2)
  if double ∈ doubleSymbols then (symbol double, 2)
  else
    match chars with
    | char :: _ => (if char ∈ singleSymbols then symbol (String.singleton char) else illegal, 1)
    | [] => (finish, 0)

def readOther (char : Char) (chars rest : List Char) : Token × Nat :=
  if startsBlank char then (blank, (rest.takeWhile isBlank).length + 1)
  else if char = byteOrderMark then (blank, 1)
  else if char.isDigit then readNumber chars
  else if isWordStart char then readWord chars
  else if "?:@$#".toList.contains char then readParameter char rest
  else readSymbol chars

def read (chars : List Char) : Token × Nat :=
  match chars with
  | [] => (finish, 0)
  | '-' :: '-' :: rest => (blank, (rest.takeWhile (· ≠ '\n')).length + 2)
  | '/' :: '*' :: char :: rest => (blank, commentLength (char :: rest) + 2)
  | '\'' :: rest => readMarked '\'' string rest
  | '"' :: rest => readMarked '"' quoted rest
  | '\x60' :: rest => readMarked '\x60' marked rest
  | '[' :: rest => readBracketed rest
  | 'x' :: '\'' :: rest => readBlob rest
  | 'X' :: '\'' :: rest => readBlob rest
  | '.' :: digit :: rest =>
    if digit.isDigit then readDecimal ('.' :: digit :: rest) else (symbol ".", 1)
  | char :: rest => readOther char (char :: rest) rest

end Token

namespace Lexeme

/-- The lexemes of a text, without blanks. Each takes at least one character, so that as many
steps as there are characters reach the end. -/
def readFrom (offset : Nat) (chars : List Char) : Nat → List Lexeme
  | 0 => [⟨.finish, "", offset⟩]
  | steps + 1 =>
    match chars, Token.read chars with
    | [], _ => [⟨.finish, "", offset⟩]
    | _ :: _, (token, length) =>
      let text := String.ofList (chars.take length)
      let rest := readFrom (offset + text.utf8ByteSize) (chars.drop length) steps
      if token = .blank then rest else ⟨token, text, offset⟩ :: rest

def ofText (text : String) : List Lexeme :=
  let chars := text.toList.takeWhile (· ≠ '\x00')
  readFrom 0 chars chars.length

end Lexeme

end Signoff.Database.Sql
