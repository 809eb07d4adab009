import Signoff.Database.Sql.Error
import Signoff.Database.Sql.Statement
import Signoff.Database.Sql.Token

namespace Signoff.Database.Sql

/-! How statements are read. A fault is reported at the first lexeme that no statement could have
there. What is wrong with a part that has been read is reported only once the next lexeme can
follow it. -/

/-- What is left to read, the largest parameter number so far, the numbers of named ones and what
is wrong with the part read last. -/
structure Reader where
  rest : List Lexeme
  highest : Nat
  named : List (String × Nat)
  pending : Option SqlError

abbrev Reading := StateT Reader (Except SqlError)

namespace Reading

def faultAt (lexeme : Lexeme) : SqlError :=
  match lexeme.token with
  | .finish => .incomplete
  | .illegal => .unknownToken lexeme.text lexeme.offset
  | _ => .unexpected lexeme.text lexeme.offset

def next : Reading Lexeme := do
  return ((← get).rest.head?).getD ⟨.finish, "", 0⟩

def report : Reading Unit := do
  (← get).pending.forM throw

def advance : Reading Unit := do
  report
  modify fun reader => { reader with rest := reader.rest.tail }

def blame (fault : SqlError) : Reading Unit :=
  modify fun reader => { reader with pending := some fault }

def refuse {α : Type} : Reading α := do throw (faultAt (← next))

def keyword? : Token → Option String
  | .word text => some (text.map Char.toUpper)
  | _ => none

def reserved : List String := [
  "ADD", "ALL", "ALTER", "AND", "AS", "AUTOINCREMENT", "BETWEEN", "CASE", "CHECK", "COLLATE",
  "COMMIT", "CONSTRAINT", "CREATE", "DEFAULT", "DEFERRABLE", "DELETE", "DISTINCT", "DROP", "ELSE",
  "ESCAPE", "EXCEPT", "EXISTS", "FOREIGN", "FROM", "GROUP", "HAVING", "IN", "INDEX", "INSERT",
  "INTERSECT", "INTO", "IS", "ISNULL", "JOIN", "LIMIT", "NOT", "NOTHING", "NOTNULL", "NULL", "ON",
  "OR", "ORDER", "PRIMARY", "REFERENCES", "RETURNING", "SELECT", "SET", "TABLE", "THEN", "TO",
  "TRANSACTION", "UNION", "UNIQUE", "UPDATE", "USING", "VALUES", "WHEN", "WHERE"]

def isReserved (word : String) : Bool := reserved.contains (word.map Char.toUpper)

def accept (text : String) : Reading Bool := do
  let token := (← next).token
  if token = .symbol text ∨ keyword? token = some text then
    advance
    return true
  else return false

def expect (text : String) : Reading Unit := do
  unless ← accept text do refuse

def name : Reading String := do
  let found :=
    match (← next).token with
    | .word text => if isReserved text then none else some text
    | .quoted text | .marked text | .string text => some text
    | _ => none
  match found with
  | some text =>
    advance
    return text
  | none => refuse

def numberValue (text : String) (negative : Bool) : Option Value :=
  match text.toList with
  | '0' :: 'x' :: digits | '0' :: 'X' :: digits =>
    let bits := digits.foldl (fun value digit =>
      16 * value + ((Hex.nibble? (UInt8.ofNat digit.toNat)).getD 0)) 0
    let value := Int64.ofNat bits
    some (.integer (if negative then -value else value))
  | _ => (Numeral.parse? text).map fun numeral => Value.ofLiteral { numeral with negative }

def parameterFault? (lexeme : Lexeme) (number : Nat) : Option SqlError :=
  match lexeme.text.toList with
  | '?' :: _ :: _ =>
    if number = 0 ∨ SqlError.mostParameters < number then some (.parameterRange lexeme.offset)
    else none
  | '#' :: char :: _ => if char.isDigit then some (faultAt lexeme) else none
  | _ => none

/-- The number of a parameter: the one that it shows, that of an earlier one of the same name, or
the next. -/
def parameterNumber (text : String) : Reading Nat := do
  let reader ← get
  match text.toList, reader.named.lookup text with
  | '?' :: digit :: digits, _ =>
    let number := (digit :: digits).foldl
      (fun value digit => 10 * value + Numeral.digitValue digit) 0
    set { reader with highest := max reader.highest number }
    return number
  | _, some number => return number
  | chars, none =>
    let number := reader.highest + 1
    let named := if chars = ['?'] then reader.named else (text, number) :: reader.named
    set { reader with highest := number, named }
    return number

def parameter (lexeme : Lexeme) (text : String) : Reading Expression := do
  let number ← parameterNumber text
  advance
  (parameterFault? lexeme number).forM blame
  return .parameter number

def simple (negative : Bool) : Reading Expression := do
  let lexeme ← next
  let found : Option Expression :=
    match lexeme.token, negative with
    | .number text, _ => (numberValue text negative).map .literal
    | .string text, false => some (.literal (.text text))
    | .blob bytes, false => some (.literal (.blob bytes))
    | .quoted text, false => some (.name text .quoted lexeme.offset)
    | .marked text, false => some (.name text .marked lexeme.offset)
    | .word text, false =>
      if isReserved text then none else some (.name text .plain lexeme.offset)
    | _, _ => none
  match found, lexeme.token with
  | some expression, _ =>
    advance
    return expression
  | none, .parameter text => parameter lexeme text
  | none, token =>
    if keyword? token = some "NULL" then
      advance
      return .literal .null
    refuse

/-- Binary operators with their ranks; those of a higher rank bind their operands first. -/
inductive Operator where
  | either
  | both
  | compare (comparison : Comparison)
deriving DecidableEq, Repr

namespace Operator

def rank : Operator → Nat
  | either => 1
  | both => 2
  | compare .equal | compare .different | compare .same | compare .notSame => 4
  | compare _ => 5

def apply : Operator → Expression → Expression → Expression
  | either => .either
  | both => .both
  | compare comparison => .compare comparison

def ofSymbol? : String → Option Operator
  | "=" | "==" => some (compare .equal)
  | "<>" | "!=" => some (compare .different)
  | "<" => some (compare .less)
  | "<=" => some (compare .lessOrEqual)
  | ">" => some (compare .greater)
  | ">=" => some (compare .greaterOrEqual)
  | _ => none

def ofKeyword? : String → Option Operator
  | "OR" => some either
  | "AND" => some both
  | "IS" => some (compare .same)
  | _ => none

def ofToken? : Token → Option Operator
  | .symbol text => ofSymbol? text
  | .word text => ofKeyword? (text.map Char.toUpper)
  | _ => none

end Operator

def negationRank : Nat := 3

def operator? (least : Nat) : Reading (Option Operator) := do
  match Operator.ofToken? (← next).token with
  | none => return none
  | some operator =>
    if operator.rank < least then return none
    advance
    if operator = .compare .same then
      if ← accept "NOT" then return some (.compare .notSame)
    return some operator

mutual

/-- An operand with its signs. Each step takes a lexeme or reads an operand. -/
def operand : Nat → Bool → Reading Expression
  | 0, _ => refuse
  | steps + 1, negative => do
    if ← accept "+" then
      operand steps negative
    else if ← accept "-" then
      operand steps !negative
    else if negative then
      simple true
    else if ← accept "NOT" then
      return .negation (← expression steps negationRank)
    else if ← accept "(" then
      let inner ← expression steps 1
      expect ")"
      return inner
    else simple false

def expression : Nat → Nat → Reading Expression
  | 0, _ => refuse
  | steps + 1, least => do
    let first ← operand steps false
    further steps least first

def further : Nat → Nat → Expression → Reading Expression
  | 0, _, _ => refuse
  | steps + 1, least, left => do
    match ← operator? least with
    | none => return left
    | some operator =>
      let first ← operand steps false
      let right ← further steps (operator.rank + 1) first
      further steps least (operator.apply left right)

end

/-- As many steps as reading what is left can take. -/
def anyExpression : Reading Expression := do
  expression (2 * (← get).rest.length + 2) 1

def names : Nat → Reading (List String)
  | 0 => refuse
  | steps + 1 => do
    let first ← name
    if ← accept ")" then return [first]
    expect ","
    return first :: (← names steps)

def columns : Reading (List String) := do
  if ← accept "(" then names (← get).rest.length else return [← name]

def assignment : Reading Assignment := do
  let columns ← columns
  unless ← accept "==" do expect "="
  let value ← anyExpression
  if columns.length ≠ 1 then blame (.assignmentCount columns.length)
  return ⟨columns.headD "", value⟩

def assignments : Nat → Reading (List Assignment)
  | 0 => refuse
  | steps + 1 => do
    let first ← assignment
    if ← accept "," then return first :: (← assignments steps) else return [first]

def condition : Reading (Option Expression) := do
  if ← accept "WHERE" then return some (← anyExpression) else return none

def ending (length : Nat) : Reading Bool := do
  let lexeme ← next
  match lexeme.token with
  | .finish =>
    report
    return lexeme.offset < length
  | .symbol ";" =>
    report
    return lexeme.offset + 1 < length
  | _ => refuse

def update (length : Nat) : Reading Update := do
  expect "UPDATE"
  let table ← name
  expect "SET"
  let assignments ← assignments (← get).rest.length
  let condition ← condition
  let hasMore ← ending length
  return { table, assignments, condition, hasMore, parameters := (← get).highest }

end Reading

def Update.ofText (text : String) : Except SqlError Update :=
  (Reading.update text.utf8ByteSize).run' ⟨Lexeme.ofText text, 0, [], none⟩

end Signoff.Database.Sql
