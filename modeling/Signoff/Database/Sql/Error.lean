import Signoff.Store.Error

namespace Signoff.Database

inductive SqlError where
  | unexpected (near : String) (offset : Nat)
  | unknownToken (text : String) (offset : Nat)
  | incomplete
  | noTable (name : String)
  | noColumn (name : String)
  | noValue (name : String) (offset : Nat)
  | parameterRange (offset : Nat)
  | assignmentCount (columns : Nat)
  | severalStatements
  | parameterCount (given needed : Nat)
  | failed (cause : DatabaseError)
deriving DecidableEq, Repr

namespace SqlError

def mostParameters : Nat := 32766

/-- Faults that have a place in the text are told with it. -/
def inText (fault sql : String) (offset : Nat) : String :=
  fault ++ " in " ++ sql ++ " at offset " ++ toString offset

def message (sql : String) : SqlError → String
  | unexpected near offset => inText ("near \"" ++ near ++ "\": syntax error") sql offset
  | unknownToken text offset => inText ("unrecognized token: \"" ++ text ++ "\"") sql offset
  | incomplete => "incomplete input"
  | noTable name => "no such table: " ++ name
  | noColumn name => "no such column: " ++ name
  | noValue name offset => inText ("no such column: " ++ name) sql offset
  | parameterRange offset =>
    inText ("variable number must be between ?1 and ?" ++ toString mostParameters) sql offset
  | assignmentCount columns => toString columns ++ " columns assigned 1 values"
  | severalStatements => "Multiple statements provided"
  | parameterCount given needed =>
    "Wrong number of parameters passed to query. Got " ++ toString given ++ ", needed " ++
      toString needed
  | failed cause => cause.message

end SqlError

end Signoff.Database
