import Signoff.Octets
import Signoff.User

namespace Signoff

structure Draft where
  docId : String
  user : User
  signedAt : Int64
  checksum : Option String
  payloadHash : Digest
  signature : SignatureBytes
  nonce : Nonce
  referer : Option String
  previous : Option Digest
  version : UInt16
deriving DecidableEq

/-- An acknowledgment in a store. Its `previous` link may be repaired; nothing else changes. -/
structure Record extends Draft where
  id : Int64
  createdAt : Int64
deriving DecidableEq

namespace Draft

def currentVersion : UInt16 := 1

def stored (draft : Draft) (id createdAt : Int64) : Record :=
  { draft with id, createdAt }

end Draft

namespace Record

def withPrevious (record : Record) (previous : Option Digest) : Record :=
  { record with previous }

def isGenesis (record : Record) : Bool :=
  record.previous.isNone

@[simp] theorem previous_withPrevious (record : Record) (previous : Option Digest) :
    (record.withPrevious previous).previous = previous := rfl

@[simp] theorem docId_withPrevious (record : Record) (previous : Option Digest) :
    (record.withPrevious previous).docId = record.docId := rfl

@[simp] theorem id_withPrevious (record : Record) (previous : Option Digest) :
    (record.withPrevious previous).id = record.id := rfl

@[simp] theorem withPrevious_previous (record : Record) :
    record.withPrevious record.previous = record := rfl

theorem withPrevious_of_eq {record : Record} {link : Option Digest}
    (hlink : record.previous = link) : record.withPrevious link = record := by
  rw [← hlink, withPrevious_previous]

end Record

end Signoff
