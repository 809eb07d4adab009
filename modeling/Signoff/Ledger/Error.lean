import Signoff.Checksum
import Signoff.Signing
import Signoff.Store.Error

namespace Signoff

inductive Purpose where
  | checkExisting
  | loadHead
  | persist
  | loadSignature
  | listDocument
  | listUser
  | checkStatus
  | loadSignatures
  | loadDocument
  | loadHistory
  | loadLast
deriving DecidableEq, Repr

def Purpose.text : Purpose → String
  | .checkExisting => "check for an existing signature"
  | .loadHead => "load the chain head"
  | .persist => "persist the signature"
  | .loadSignature => "load the signature"
  | .listDocument => "list document signatures"
  | .listUser => "list user signatures"
  | .checkStatus => "check signature status"
  | .loadSignatures => "load signatures"
  | .loadDocument => "load the document"
  | .loadHistory => "load verification history"
  | .loadLast => "load the last verification"

inductive LedgerError where
  | invalidUser
  | invalidDocument
  | alreadySigned (docId subject : String)
  | modified (docId expected actual : String)
  | unverifiable (docId : String)
  | inconclusive (docId : String)
  | noDocument (docId : String)
  | unsupportedAlgorithm (name : String)
  | badFormat (cause : Checksum.FormatError)
  | nonce (cause : CryptoError)
  | crypto (cause : CryptoError)
  | store (purpose : Purpose) (cause : StoreError)
deriving DecidableEq

namespace LedgerError

def message : LedgerError → String
  | invalidUser => "user identity is missing or invalid"
  | invalidDocument => "document id is missing"
  | alreadySigned docId subject =>
    "user " ++ subject ++ " has already signed document " ++ docId
  | modified docId expected actual =>
    "document " ++ docId ++ " was modified: expected checksum " ++ expected ++ ", computed " ++
      actual
  | unverifiable docId => "integrity of document " ++ docId ++ " could not be verified"
  | inconclusive docId => "live checksum of document " ++ docId ++ " could not be computed"
  | noDocument docId => "not found: document " ++ docId
  | unsupportedAlgorithm name => "unsupported checksum algorithm: " ++ name
  | badFormat cause => "invalid checksum format: " ++ cause.message
  | nonce cause => "nonce generation failed: " ++ cause.message
  | crypto cause => "cryptographic error: " ++ cause.message
  | store purpose cause =>
    "storage error while trying to " ++ purpose.text ++ ": " ++ cause.message

/-- Whether signing was refused because the document failed its integrity check, and not for
bad input or a failing store. -/
def blocksSigning : LedgerError → Bool
  | modified _ _ _ => true
  | unverifiable _ => true
  | _ => false

def ofFormat : Checksum.FormatError → LedgerError
  | .unsupported name => unsupportedAlgorithm name
  | cause => badFormat cause

end LedgerError

namespace Purpose

def during {α : Type} (purpose : Purpose) (result : Except StoreError α) :
    Except LedgerError α :=
  result.mapError (.store purpose)

end Purpose

end Signoff
