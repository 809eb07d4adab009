import Signoff.Database.Value

namespace Signoff.Database

/-! Tables of numbered rows. A statement changes all the rows it selects or, if it fails on
any of them, none. -/

structure Column where
  name : String
  affinity : Affinity
  required : Bool
deriving DecidableEq, Repr

/-- The columns of a table besides its row number `id`, and a key of column positions whose
values together occur once. -/
structure Layout where
  table : String
  columns : List Column
  key : List Nat

structure Row where
  id : Int64
  cells : List Value
deriving DecidableEq, Repr

/-- Rows in the order of their numbers, and the largest number ever given out. -/
structure Table where
  rows : List Row
  lastId : Int64
deriving DecidableEq, Repr

namespace Row

def cell (row : Row) (index : Nat) : Value := row.cells.getD index .null

def setCell (row : Row) (index : Nat) (value : Value) : Row :=
  { row with cells := row.cells.set index value }

end Row

namespace Layout

def position? (layout : Layout) (name : String) : Option Nat :=
  layout.columns.findIdx? (·.name = name)

def value (layout : Layout) (row : Row) (name : String) : Value :=
  if name = "id" then .integer row.id
  else ((layout.position? name).map row.cell).getD .null

def keyOf (layout : Layout) (row : Row) : List Value := layout.key.map row.cell

/-- Required values come first, then the row number, then the key. -/
def check (layout : Layout) (others : List Row) (row : Row) : Except DatabaseError Unit :=
  match (layout.columns.zip row.cells).find? fun cell => cell.1.required && cell.2 = .null with
  | some cell => .error (.required layout.table cell.1.name)
  | none =>
    if others.any (·.id = row.id) then .error (.notUnique layout.table ["id"])
    else if !layout.key.isEmpty && others.any (layout.keyOf · = layout.keyOf row) then
      .error (.notUnique layout.table
        (layout.key.filterMap fun index => (layout.columns[index]?).map (·.name)))
    else .ok ()

end Layout

namespace Table

def empty : Table := ⟨[], 0⟩

def highest (table : Table) : Int64 :=
  table.rows.foldl (fun highest row => if highest < row.id then row.id else highest) table.lastId

def insert (layout : Layout) (cells : List Value) (table : Table) :
    Except DatabaseError (Row × Table) :=
  let highest := table.highest
  if highest = Int64.maxValue then .error .full
  else do
    let row : Row := ⟨highest + 1, cells⟩
    layout.check table.rows row
    return (row, ⟨table.rows ++ [row], highest + 1⟩)

/-- Updates the selected rows among those still to come, one after another. `allows` stands
for the triggers, which see a row before and after. -/
def updateFrom (layout : Layout) (allows : Row → Row → Except DatabaseError Unit)
    (selects : Row → Bool) (assign : Row → Except DatabaseError Row) (before : List Row) :
    List Row → Except DatabaseError (Nat × List Row)
  | [] => .ok (0, before)
  | row :: after =>
    if selects row then do
      let next ← assign row
      allows row next
      layout.check (before ++ after) next
      let (changed, rows) ← updateFrom layout allows selects assign (before ++ [next]) after
      return (changed + 1, rows)
    else updateFrom layout allows selects assign (before ++ [row]) after

def update (layout : Layout) (allows : Row → Row → Except DatabaseError Unit)
    (selects : Row → Bool) (assign : Row → Except DatabaseError Row) (table : Table) :
    Except DatabaseError (Nat × Table) := do
  let (changed, rows) ← updateFrom layout allows selects assign [] table.rows
  return (changed, { table with rows := rows.mergeSort fun left right => left.id ≤ right.id })

def delete (allows : Row → Except DatabaseError Unit) (selects : Row → Bool) (table : Table) :
    Except DatabaseError (Nat × Table) := do
  let selected := table.rows.filter selects
  selected.forM allows
  return (selected.length, { table with rows := table.rows.filter fun row => !selects row })

end Table

def upsert (cells : List Value) : List (List Value) → List (List Value)
  | [] => [cells]
  | other :: rest =>
    if other.head? = cells.head? then cells :: rest else other :: upsert cells rest

end Signoff.Database
