import Signoff.Cbor
import Signoff.Record
import Signoff.Sha2

namespace Signoff

/-! The messages that are signed and linked: a domain text and a map with small integer keys.
No signed message can be taken for a link. -/

structure Statement where
  docId : String
  user : User
  signedAt : Int64
  nonce : Nonce
  checksum : Option String
deriving DecidableEq

namespace Message

def ofFields (fields : List Cbor) : Cbor :=
  .map (fields.zipIdx.map fun field => (.integer field.2, field.1))

def ofOption {α : Type} (write : α → Cbor) : Option α → Cbor
  | none => .null
  | some value => write value

def ofOctets {length : Nat} (octets : Octets length) : Cbor := .bytes octets.bytes

end Message

namespace Statement

def domain : String := "ackchain/signature/v1"

def payload (statement : Statement) : Cbor :=
  Message.ofFields [
    .text statement.docId,
    .text statement.user.subject,
    .text statement.user.email,
    .text statement.user.name,
    .integer statement.signedAt.toInt,
    Message.ofOctets statement.nonce,
    Message.ofOption .text statement.checksum]

def message (statement : Statement) : List UInt8 :=
  Text.bytes domain ++ statement.payload.encode

def hash (statement : Statement) : Digest := sha256 statement.message

end Statement

namespace Draft

def statement (draft : Draft) : Statement :=
  { draft with }

def linkDomain : String := "ackchain/link/v1"

def linkPayload (draft : Draft) : Cbor :=
  Message.ofFields [
    .text draft.docId,
    .text draft.user.subject,
    .text draft.user.email,
    .integer draft.signedAt.toInt,
    Message.ofOctets draft.payloadHash,
    Message.ofOctets draft.signature,
    Message.ofOctets draft.nonce,
    Message.ofOption Message.ofOctets draft.previous]

/-- The message whose hash the next record of the document carries. -/
def linkMessage (draft : Draft) : List UInt8 :=
  Text.bytes linkDomain ++ draft.linkPayload.encode

def linkHash (draft : Draft) : Digest := sha256 draft.linkMessage

end Draft

end Signoff
