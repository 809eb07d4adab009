import Signoff.Database.Schema
import Signoff.Database.Sql.Syntax
import Signoff.Text.Lowercase

namespace Signoff.Database.Sql

/-! What the expressions of a statement are worth in a row, and the row that it leads to. -/

inductive Field where
  | number
  | cell (index : Nat)
deriving DecidableEq, Repr

def numberNames : List String := ["rowid", "oid", "_rowid_"]

def field? (layout : Layout) (name : String) : Option Field :=
  let name := Text.asciiLowercase name
  match layout.position? name with
  | some index => some (.cell index)
  | none => if name = "id" ∨ name ∈ numberNames then some .number else none

namespace Field

def value (row : Row) : Field → Value
  | number => .integer row.id
  | cell index => row.cell index

def affinity (layout : Layout) : Field → Affinity
  | number => .integer
  | cell index => ((layout.columns[index]?).map (·.affinity)).getD .blob

end Field

/-! Truth has three values; a null is neither true nor false. -/

namespace Truth

def ofValue : Value → Option Bool
  | .null => none
  | .integer value => some (value ≠ 0)
  | .real value => some (value ≠ .ofInt 0)
  | .text value => some (Numeral.worth value.toList ≠ .ofInt 0)
  | .garbled value => some (Numeral.worth (value.bytes.map Char.ofUInt8) ≠ .ofInt 0)
  | .blob bytes => some (Numeral.worth (bytes.map Char.ofUInt8) ≠ .ofInt 0)

def ofWord? (text : String) : Option Bool :=
  match Text.asciiLowercase text with
  | "true" => some true
  | "false" => some false
  | _ => none

def toValue : Option Bool → Value
  | none => .null
  | some truth => .integer (if truth then 1 else 0)

def both : Option Bool → Option Bool → Option Bool
  | some false, _ => some false
  | _, some false => some false
  | some true, some true => some true
  | _, _ => none

def either : Option Bool → Option Bool → Option Bool
  | some true, _ => some true
  | _, some true => some true
  | some false, some false => some false
  | _, _ => none

end Truth

namespace Comparison

def holds (left right : Value) : Comparison → Bool
  | equal | same => left.same right
  | different | notSame => !left.same right
  | less => !right.le left
  | lessOrEqual => left.le right
  | greater => !left.le right
  | greaterOrEqual => right.le left

def seesNull : Comparison → Bool
  | same | notSame => true
  | _ => false

/-- The class that both sides take before they are compared: that of the one column, or numbers if
one of two columns holds them. -/
def affinity? : Option Affinity → Option Affinity → Option Affinity
  | some left, some right =>
    if left = .integer ∨ right = .integer then some .integer else none
  | some affinity, none => some affinity
  | none, some affinity => some affinity
  | none, none => none

def isText : Value → Bool
  | .text _ | .garbled _ => true
  | _ => false

/-- Numbers become texts only beside a text, and texts become numbers where they can. -/
def converted (affinity : Option Affinity) (value other : Value) : Value :=
  match affinity with
  | some .integer => if isText value then Affinity.integer.convert value else value
  | some .text => if isText other then Affinity.text.convert value else value
  | _ => value

def result (comparison : Comparison) (affinity : Option Affinity) (left right : Value) :
    Option Bool :=
  if (left = .null ∨ right = .null) ∧ !comparison.seesNull then none
  else some (comparison.holds (converted affinity left right) (converted affinity right left))

end Comparison

abbrev Parameters := List Value

namespace Expression

def affinity? (layout : Layout) : Expression → Option Affinity
  | name text _ _ => (field? layout text).map (·.affinity layout)
  | _ => none

def nameValue? (text : String) : NameForm → Option Value
  | .plain => (Truth.ofWord? text).map fun truth => Truth.toValue (some truth)
  | .quoted => some (.text text)
  | .marked => none

def isName : Expression → Bool
  | name _ _ _ => true
  | _ => false

/-- Whether every name stands for something. A name that is asked to be the same comes before what
it is compared with. -/
def check (layout : Layout) : Expression → Except SqlError Unit
  | literal _ => .ok ()
  | parameter _ => .ok ()
  | name text form offset =>
    if (field? layout text).isSome || (nameValue? text form).isSome then .ok ()
    else .error (.noValue text offset)
  | negation operand => operand.check layout
  | compare comparison left right => do
    if comparison.seesNull && right.isName then right.check layout
    left.check layout
    right.check layout
  | both left right | either left right => do
    left.check layout
    right.check layout

def truth? (layout : Layout) : Expression → Option Bool
  | name text .plain _ => if (field? layout text).isSome then none else Truth.ofWord? text
  | _ => none

def evaluate (layout : Layout) (parameters : Parameters) (row : Row) : Expression → Value
  | literal value => value
  | parameter number => parameters.getD (number - 1) .null
  | name text form _ =>
    ((field? layout text).map (·.value row)).getD ((nameValue? text form).getD .null)
  | compare comparison left right =>
    let value := left.evaluate layout parameters row
    match comparison, right.truth? layout with
    | .same, some truth => Truth.toValue (some (Truth.ofValue value == some truth))
    | .notSame, some truth => Truth.toValue (some (Truth.ofValue value != some truth))
    | _, _ =>
      Truth.toValue (comparison.result
        (Comparison.affinity? (left.affinity? layout) (right.affinity? layout))
        value (right.evaluate layout parameters row))
  | negation operand =>
    Truth.toValue ((Truth.ofValue (operand.evaluate layout parameters row)).map not)
  | both left right =>
    Truth.toValue (Truth.both (Truth.ofValue (left.evaluate layout parameters row))
      (Truth.ofValue (right.evaluate layout parameters row)))
  | either left right =>
    Truth.toValue (Truth.either (Truth.ofValue (left.evaluate layout parameters row))
      (Truth.ofValue (right.evaluate layout parameters row)))

end Expression

/-! Assignments. All values are those of the row as it was; the last one for a field counts. -/

namespace Assignment

def field (layout : Layout) (assignment : Assignment) : Except SqlError Field :=
  match field? layout assignment.column with
  | some field => .ok field
  | none => .error (.noColumn assignment.column)

def check (layout : Layout) (assignment : Assignment) : Except SqlError Field := do
  assignment.value.check layout
  assignment.field layout

end Assignment

namespace Update

def check (layout : Layout) (update : Update) : Except SqlError Unit := do
  update.assignments.forM fun assignment => do
    let _ ← assignment.check layout
  update.condition.forM (Expression.check layout)

/-- As many parameters are given as have numbers; at most one more is tried. -/
def checkParameters (given : Nat) (update : Update) : Except SqlError Unit :=
  if update.parameters = given then .ok ()
  else .error (.parameterCount (min given (update.parameters + 1)) update.parameters)

def selects (layout : Layout) (parameters : Parameters) (update : Update) (row : Row) : Bool :=
  match update.condition with
  | none => true
  | some condition => Truth.ofValue (condition.evaluate layout parameters row) = some true

def setField (layout : Layout) (field : Field) (value : Value) (row : Row) :
    Except DatabaseError Row :=
  match field, (field.affinity layout).convert value with
  | .number, .integer id => .ok { row with id }
  | .number, _ => .error .mismatch
  | .cell index, value => .ok (row.setCell index value)

def effective (layout : Layout) (update : Update) : List (Field × Expression) :=
  let all := update.assignments.filterMap fun assignment =>
    (field? layout assignment.column).map (·, assignment.value)
  let last := fun field => (all.reverse.lookup field).map (field, ·)
  let cells := (List.range layout.columns.length).map Field.cell
  (Field.number :: cells).filterMap last

def assign (layout : Layout) (parameters : Parameters) (update : Update) (row : Row) :
    Except DatabaseError Row :=
  (update.effective layout).foldlM
    (fun next (field, value) => setField layout field (value.evaluate layout parameters row) next)
    row

end Update

end Signoff.Database.Sql
