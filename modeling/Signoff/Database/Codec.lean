import Signoff.Database.Schema
import Signoff.Document
import Signoff.Record
import Signoff.Verification

namespace Signoff.Database

/-! Records, verifications and documents as rows. Whatever a row holds is read back as it stands or
refused; it is never padded or cut. -/

def signatureCells (draft : Draft) (createdAt : Int64) : List Value := [
  .text draft.docId,
  .text draft.user.subject,
  .text draft.user.email,
  .text draft.user.name,
  .integer draft.signedAt,
  Cell.ofOption .text draft.checksum,
  .blob draft.payloadHash.bytes,
  .blob draft.signature.bytes,
  .blob draft.nonce.bytes,
  Cell.ofOption .text draft.referer,
  Cell.ofOption (fun previous : Digest => .blob previous.bytes) draft.previous,
  .integer createdAt,
  .integer (Int64.ofNat draft.version.toNat)]

/-- Reads a record. The link is read before all else, so that its fault is reported first. -/
def readRecord (row : Row) : Except DatabaseError Record := do
  let previous ← Cell.optional (Cell.octets 32 11 "prev_hash") (row.cell 10)
  let docId ← Cell.text 1 "doc_id" (row.cell 0)
  let subject ← Cell.text 2 "user_sub" (row.cell 1)
  let email ← Cell.text 3 "user_email" (row.cell 2)
  let name ← Cell.text 4 "user_name" (row.cell 3)
  let signedAt ← Cell.int64 5 "signed_at" (row.cell 4)
  let checksum ← Cell.optional (Cell.text 6 "doc_checksum") (row.cell 5)
  let payloadHash ← Cell.octets 32 7 "payload_hash" (row.cell 6)
  let signature ← Cell.octets 64 8 "signature" (row.cell 7)
  let nonce ← Cell.octets 32 9 "nonce" (row.cell 8)
  let referer ← Cell.optional (Cell.text 10 "referer") (row.cell 9)
  let createdAt ← Cell.int64 12 "created_at" (row.cell 11)
  let version ← Cell.uint16 13 "hash_version" (row.cell 12)
  let user := { subject, email, name }
  return {
    id := row.id, docId, user, signedAt, checksum, payloadHash, signature, nonce, referer,
    previous, createdAt, version }

def verificationCells (verification : Verification) : List Value := [
  .text verification.docId,
  .text verification.verifiedBy,
  .integer verification.verifiedAt,
  .text verification.stored,
  .text verification.calculated,
  .text verification.algorithm,
  .integer (if verification.valid then 1 else 0),
  Cell.ofOption .text verification.error]

def readVerification (row : Row) : Except DatabaseError Verification := do
  let docId ← Cell.text 0 "doc_id" (row.cell 0)
  let verifiedBy ← Cell.text 1 "verified_by" (row.cell 1)
  let verifiedAt ← Cell.int64 2 "verified_at" (row.cell 2)
  let stored ← Cell.text 3 "stored_checksum" (row.cell 3)
  let calculated ← Cell.text 4 "calculated_checksum" (row.cell 4)
  let algorithm ← Cell.text 5 "algorithm" (row.cell 5)
  let valid ← Cell.bool 6 "is_valid" (row.cell 6)
  let error ← Cell.optional (Cell.text 7 "error_message") (row.cell 7)
  return { docId, verifiedBy, verifiedAt, stored, calculated, algorithm, valid, error }

def documentCells (document : Document) : List Value := [
  .text document.docId,
  Cell.ofOption .text document.url,
  Cell.ofOption .text document.checksum,
  Cell.ofOption .text document.algorithm]

def readDocument (cells : List Value) : Except DatabaseError Document := do
  let docId ← Cell.text 0 "doc_id" (cells.getD 0 .null)
  let url ← Cell.optional (Cell.text 1 "url") (cells.getD 1 .null)
  let checksum ← Cell.optional (Cell.text 2 "checksum") (cells.getD 2 .null)
  let algorithm ← Cell.optional (Cell.text 3 "checksum_algorithm") (cells.getD 3 .null)
  return { docId, url, checksum, algorithm }

end Signoff.Database
