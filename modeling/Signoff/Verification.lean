import Signoff.Json

namespace Signoff

structure Verification where
  docId : String
  verifiedBy : String
  verifiedAt : Int64
  stored : String
  calculated : String
  algorithm : String
  valid : Bool
  error : Option String
deriving DecidableEq, Repr

namespace Verification

def toJson (verification : Verification) : Json :=
  .object [
    ("doc_id", .text verification.docId),
    ("verified_by", .text verification.verifiedBy),
    ("verified_at", .ofInt64 verification.verifiedAt),
    ("stored_checksum", .text verification.stored),
    ("calculated_checksum", .text verification.calculated),
    ("algorithm", .text verification.algorithm),
    ("is_valid", .bool verification.valid),
    ("error_message", .ofOption .text verification.error)]

def fieldNames : List String := [
  "doc_id", "verified_by", "verified_at", "stored_checksum", "calculated_checksum", "algorithm",
  "is_valid", "error_message"]

def ofJson? (json : Json) : Option Verification := do
  let json := json.named fieldNames
  let docId ← json.required? "doc_id" Json.text?
  let verifiedBy ← json.required? "verified_by" Json.text?
  let verifiedAt ← json.required? "verified_at" Json.int64?
  let stored ← json.required? "stored_checksum" Json.text?
  let calculated ← json.required? "calculated_checksum" Json.text?
  let algorithm ← json.required? "algorithm" Json.text?
  let valid ← json.required? "is_valid" Json.bool?
  let error ← json.optionalField? "error_message" Json.text?
  return { docId, verifiedBy, verifiedAt, stored, calculated, algorithm, valid, error }

end Verification

end Signoff
