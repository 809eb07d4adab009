import Signoff.Database.Table
import Signoff.Octets

namespace Signoff.Database

structure SchemaObject where
  kind : ObjectKind
  name : String
deriving DecidableEq, Repr

namespace SchemaObject

def sameName (left right : SchemaObject) : Bool :=
  left.name.toList.map Char.toLower == right.name.toList.map Char.toLower

/-- Tables and indexes share their names, triggers have names of their own. -/
def clashesWith (left right : SchemaObject) : Bool :=
  left.sameName right && (left.kind == .trigger) == (right.kind == .trigger)

def create (object : SchemaObject) (objects : List SchemaObject) :
    Except DatabaseError (List SchemaObject) :=
  match objects.find? object.clashesWith with
  | some existing => .error (.exists object.kind existing.kind object.name)
  | none => .ok (objects ++ [object])

def table (name : String) : SchemaObject := ⟨.table, name⟩
def index (name : String) : SchemaObject := ⟨.index, name⟩
def trigger (name : String) : SchemaObject := ⟨.trigger, name⟩

end SchemaObject

namespace Schema

def versionTable : SchemaObject := .table "schema_migrations"

def signatureNoDelete : SchemaObject := .trigger "signatures_no_delete"
def signatureLinkOnly : SchemaObject := .trigger "signatures_prev_hash_only"
def verificationNoUpdate : SchemaObject := .trigger "checksum_verifications_no_update"
def verificationNoDelete : SchemaObject := .trigger "checksum_verifications_no_delete"

def initial : List SchemaObject := [
  .table "signatures",
  .table "documents",
  .table "checksum_verifications",
  .index "idx_signatures_doc",
  .index "idx_signatures_user",
  .index "idx_signatures_email",
  .index "idx_verifications_doc",
  signatureNoDelete,
  signatureLinkOnly,
  verificationNoUpdate,
  verificationNoDelete]

/-- Step `n` leads from version `n` to version `n + 1`. -/
def steps : List (List SchemaObject) := [initial]

def currentVersion : Nat := steps.length

def signatures : Layout where
  table := "signatures"
  columns := [
    ⟨"doc_id", .text, true⟩,
    ⟨"user_sub", .text, true⟩,
    ⟨"user_email", .text, true⟩,
    ⟨"user_name", .text, true⟩,
    ⟨"signed_at", .integer, true⟩,
    ⟨"doc_checksum", .text, false⟩,
    ⟨"payload_hash", .blob, true⟩,
    ⟨"signature", .blob, true⟩,
    ⟨"nonce", .blob, true⟩,
    ⟨"referer", .text, false⟩,
    ⟨"prev_hash", .blob, false⟩,
    ⟨"created_at", .integer, true⟩,
    ⟨"hash_version", .integer, true⟩]
  key := [0, 1]

def linkPosition : Nat := 10

def verifications : Layout where
  table := "checksum_verifications"
  columns := [
    ⟨"doc_id", .text, true⟩,
    ⟨"verified_by", .text, true⟩,
    ⟨"verified_at", .integer, true⟩,
    ⟨"stored_checksum", .text, true⟩,
    ⟨"calculated_checksum", .text, true⟩,
    ⟨"algorithm", .text, true⟩,
    ⟨"is_valid", .integer, true⟩,
    ⟨"error_message", .text, false⟩]
  key := []

def signatureReason : String := "signatures are append-only"
def linkReason : String := "only prev_hash may be updated on signatures"
def verificationReason : String := "checksum verifications are append-only"

def fixed : List String := [
  "id",
  "doc_id",
  "user_sub",
  "user_email",
  "user_name",
  "signed_at",
  "doc_checksum",
  "payload_hash",
  "signature",
  "nonce",
  "referer",
  "created_at",
  "hash_version"]

def agreeButLink (left right : Row) : Bool :=
  fixed.all fun name => (signatures.value left name).same (signatures.value right name)

end Schema

namespace Cell

def int64 (index : Nat) (column : String) : Value → Except DatabaseError Int64
  | .integer value => .ok value
  | value => .error (.wrongClass value.storageClass index column)

def uint16 (index : Nat) (column : String) (value : Value) : Except DatabaseError UInt16 := do
  let value ← int64 index column value
  if 0 ≤ value ∧ value < 65536 then .ok (UInt16.ofNat value.toNatClampNeg)
  else .error (.outOfRange value index)

def bool (index : Nat) (column : String) (value : Value) : Except DatabaseError Bool := do
  let value ← int64 index column value
  return value ≠ 0

def text (index : Nat) (column : String) : Value → Except DatabaseError String
  | .text value => .ok value
  | .garbled value => .error (.untextual value.bytes index)
  | value => .error (.wrongClass value.storageClass index column)

def blob (index : Nat) (column : String) : Value → Except DatabaseError (List UInt8)
  | .blob value => .ok value
  | value => .error (.wrongClass value.storageClass index column)

def optional {α : Type} (read : Value → Except DatabaseError α) :
    Value → Except DatabaseError (Option α)
  | .null => .ok none
  | value => (read value).map some

def octets (length index : Nat) (column : String) (value : Value) :
    Except DatabaseError (Octets length) := do
  let bytes ← blob index column value
  match Octets.ofList? length bytes with
  | some octets => .ok octets
  | none => .error (.wrongLength column length bytes.length)

def ofOption {α : Type} (write : α → Value) : Option α → Value
  | none => .null
  | some value => write value

end Cell

end Signoff.Database
