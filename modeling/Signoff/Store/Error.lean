import Signoff.Text.Fault

namespace Signoff

inductive StorageClass where
  | null
  | integer
  | real
  | text
  | blob
deriving DecidableEq, Repr

def StorageClass.name : StorageClass → String
  | .null => "Null"
  | .integer => "Integer"
  | .real => "Real"
  | .text => "Text"
  | .blob => "Blob"

inductive ObjectKind where
  | table
  | index
  | trigger
deriving DecidableEq, Repr

namespace ObjectKind

def name : ObjectKind → String
  | table => "table"
  | index => "index"
  | trigger => "trigger"

def withArticle : ObjectKind → String
  | table => "a table"
  | index => "an index"
  | trigger => "a trigger"

end ObjectKind

inductive DatabaseError where
  | wrongLength (column : String) (expected found : Nat)
  | outOfRange (value : Int64) (index : Nat)
  | wrongClass (found : StorageClass) (index : Nat) (column : String)
  /-- The bytes of a text that are none in UTF-8. -/
  | untextual (found : List UInt8) (index : Nat)
  | required (table column : String)
  | notUnique (table : String) (columns : List String)
  | mismatch
  | full
  | exists (wanted existing : ObjectKind) (name : String)
  | aborted (reason : String)
deriving DecidableEq, Repr

def DatabaseError.message : DatabaseError → String
  | .wrongLength column expected found =>
    "Conversion error from type Blob at index: 0, " ++ column ++ ": expected " ++
      toString expected ++ " bytes, got " ++ toString found
  | .outOfRange value index =>
    "Integer " ++ toString value.toInt ++ " out of range at index " ++ toString index
  | .wrongClass found index column =>
    "Invalid column type " ++ found.name ++ " at index: " ++ toString index ++ ", name: " ++ column
  | .untextual found index =>
    "Conversion error from type Text at index: " ++ toString index ++ ", " ++
      (Text.Fault.of? found).elim "" Text.Fault.message
  | .required table column => "NOT NULL constraint failed: " ++ table ++ "." ++ column
  | .notUnique table columns =>
    "UNIQUE constraint failed: " ++ ", ".intercalate (columns.map fun column =>
      table ++ "." ++ column)
  | .mismatch => "datatype mismatch"
  | .full => "database or disk is full"
  | .exists wanted existing name =>
    if wanted = existing then wanted.name ++ " " ++ name ++ " already exists"
    else "there is already " ++ existing.withArticle ++ " named " ++ name
  | .aborted reason => reason

inductive StoreError where
  | database (cause : DatabaseError)
  | duplicate (docId subject : String)
  | notFound (what : String)
  | migration (reason : String)
  | poisoned
  | task (reason : String)
deriving DecidableEq, Repr

def StoreError.message : StoreError → String
  | .database cause => "database error: " ++ cause.message
  | .duplicate docId subject =>
    "signature already exists for document " ++ docId ++ " and user " ++ subject
  | .notFound what => "not found: " ++ what
  | .migration reason => "migration error: " ++ reason
  | .poisoned => "store lock poisoned"
  | .task reason => "blocking task failed: " ++ reason

namespace StoreError

def noRecord (id : Int64) : StoreError := .notFound ("signature " ++ toString id.toInt)

end StoreError

end Signoff
