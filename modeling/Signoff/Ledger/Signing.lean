import Signoff.Ledger.Integrity
import Signoff.Store

namespace Signoff

/-! Signing documents. Everything is decided before the store is written to, and the store is
written to once. -/

structure SigningRequest where
  user : Option User
  docId : String
  referer : Option String
  nonce : NonceSource
  clock : Clock
  /-- The clock as the store reads it in its turn. -/
  storing : Clock := clock

structure SigningService (ν : Type) where
  signer : Signer
  computer : LiveComputer ν
  check : Option IntegrityCheck

structure World (σ ν : Type) where
  store : σ
  outside : ν

namespace SigningService

variable {σ ν : Type} [Store σ]

def accept (request : SigningRequest) (store : σ) : Except LedgerError (User × Nonce) := do
  let some user := request.user.filter fun user => user.Valid | throw .invalidUser
  if Text.Blank request.docId then throw .invalidDocument
  if ← Purpose.checkExisting.during (Store.contains store request.docId user.subject) then
    throw (.alreadySigned request.docId user.subject)
  let nonce ← (drawNonce request.nonce).mapError .nonce
  return (user, nonce)

/-- The document on file. One that cannot be looked up counts as unknown. -/
def lookUp (store : σ) (docId : String) : Option Document :=
  match Store.document store docId with
  | .ok document => document
  | .error _ => none

def checksumToBind (service : SigningService ν) (document : Option Document) (outside : ν) :
    Except LedgerError (Option String) × ν :=
  match document with
  | none => (.ok none, outside)
  | some document => boundChecksum service.check service.computer document outside

def draft (service : SigningService ν) (request : SigningRequest) (user : User) (nonce : Nonce)
    (checksum : Option String) (store : σ) : Except LedgerError Draft := do
  let statement : Statement :=
    { docId := request.docId, user, signedAt := request.clock.now, nonce, checksum }
  let signed ← (service.signer.sign statement).mapError .crypto
  let last ← Purpose.loadHead.during (Store.last store request.docId)
  return statement.draft signed request.referer (last.map (·.linkHash))

def insertionError : StoreError → LedgerError
  | .duplicate docId subject => .alreadySigned docId subject
  | cause => .store .persist cause

def create (service : SigningService ν) (request : SigningRequest) (world : World σ ν) :
    Except LedgerError Record × World σ ν :=
  match accept request world.store with
  | .error cause => (.error cause, world)
  | .ok (user, nonce) =>
    let document := lookUp world.store request.docId
    let (checksum, outside) := service.checksumToBind document world.outside
    let world := { world with outside }
    match checksum with
    | .error cause => (.error cause, world)
    | .ok checksum =>
      match service.draft request user nonce checksum world.store with
      | .error cause => (.error cause, world)
      | .ok draft =>
        let (result, store) := Store.append world.store draft request.storing
        (result.mapError insertionError, { world with store })

def find (store : σ) (docId subject : String) : Except LedgerError (Option Record) :=
  Purpose.loadSignature.during (Store.find store docId subject)

def recordsOf (store : σ) (docId : String) : Except LedgerError (List Record) :=
  Purpose.listDocument.during (Store.recordsOf store docId)

def recordsBy (store : σ) (subject : String) : Except LedgerError (List Record) :=
  Purpose.listUser.during (Store.recordsBy store subject)

def hasSigned (store : σ) (docId identifier : String) : Except LedgerError Bool :=
  Purpose.checkStatus.during (Store.hasSigned store docId identifier)

def verify (service : SigningService ν) (record : Record) : Except LedgerError Unit :=
  (record.verify service.signer.publicKey).mapError .crypto

end SigningService

end Signoff
