import Signoff.Json
import Signoff.Record

namespace Signoff

namespace Draft

def fields (draft : Draft) : List (String × Json) := [
  ("doc_id", .text draft.docId),
  ("user", draft.user.toJson),
  ("signed_at", .ofInt64 draft.signedAt),
  ("doc_checksum", .ofOption .text draft.checksum),
  ("payload_hash", .ofOctets draft.payloadHash),
  ("signature", .ofOctets draft.signature),
  ("nonce", .ofOctets draft.nonce),
  ("referer", .ofOption .text draft.referer),
  ("prev_hash", .ofOption .ofOctets draft.previous),
  ("hash_version", .integer draft.version.toNat)]

def toJson (draft : Draft) : Json := .object draft.fields

def fieldNames : List String := [
  "doc_id", "user", "signed_at", "doc_checksum", "payload_hash", "signature", "nonce", "referer",
  "prev_hash", "hash_version"]

def ofJson? (json : Json) : Option Draft := do
  let json := json.named fieldNames
  let docId ← json.required? "doc_id" Json.text?
  let user ← json.required? "user" User.ofJson?
  let signedAt ← json.required? "signed_at" Json.int64?
  let checksum ← json.optionalField? "doc_checksum" Json.text?
  let payloadHash ← json.required? "payload_hash" (Json.octets? 32)
  let signature ← json.required? "signature" (Json.octets? 64)
  let nonce ← json.required? "nonce" (Json.octets? 32)
  let referer ← json.optionalField? "referer" Json.text?
  let previous ← json.optionalField? "prev_hash" (Json.octets? 32)
  let version ← json.required? "hash_version" Json.uint16?
  return {
    docId, user, signedAt, checksum, payloadHash, signature, nonce, referer, previous, version }

end Draft

namespace Record

def toJson (record : Record) : Json :=
  .object (record.fields ++ [("id", .ofInt64 record.id), ("created_at", .ofInt64 record.createdAt)])

def fieldNames : List String := [
  "id", "doc_id", "user", "signed_at", "doc_checksum", "payload_hash", "signature", "nonce",
  "referer", "prev_hash", "created_at", "hash_version"]

def ofJson? (json : Json) : Option Record := do
  let json := json.named fieldNames
  let draft ← Draft.ofJson? json
  let id ← json.required? "id" Json.int64?
  let createdAt ← json.required? "created_at" Json.int64?
  return draft.stored id createdAt

end Record

end Signoff
