import Signoff.Database.Value

namespace Signoff.Database.Sql

inductive Comparison where
  | equal
  | different
  | less
  | lessOrEqual
  | greater
  | greaterOrEqual
  | same
  | notSame
deriving DecidableEq, Repr

/-- How a name is written. This decides what else it may be if it names nothing: a truth value, a
text, or a fault. -/
inductive NameForm where
  | plain
  | quoted
  | marked
deriving DecidableEq, Repr

inductive Expression where
  | literal (value : Value)
  | name (text : String) (form : NameForm) (offset : Nat)
  | parameter (number : Nat)
  | compare (comparison : Comparison) (left right : Expression)
  | negation (operand : Expression)
  | both (left right : Expression)
  | either (left right : Expression)
deriving DecidableEq, Repr

structure Assignment where
  column : String
  value : Expression
deriving DecidableEq, Repr

structure Update where
  table : String
  assignments : List Assignment
  condition : Option Expression
  parameters : Nat
  hasMore : Bool
deriving DecidableEq, Repr

def Update.text (table column : String) : String :=
  "UPDATE " ++ table ++ " SET " ++ column ++ " = ?1 WHERE id = ?2"

end Signoff.Database.Sql
