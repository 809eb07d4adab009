import Signoff.Ledger.Integrity
import Signoff.Ledger.Signing
import Signoff.Store

namespace Signoff

/-! Comparing checksums with the one on file, with an audit trail. The trail is kept as well as
the store allows: a verdict stands whether or not it could be recorded. -/

structure Verdict where
  valid : Bool
  stored : Option String
  calculated : String
  algorithm : String
  message : String
  hasReference : Bool
deriving DecidableEq

namespace ChecksumService

variable {σ ν : Type} [Store σ]

def defaultHistoryLimit : Nat := 20

def matchMessage : String := "checksum matches the reference"

def mismatchMessage : String :=
  "checksum does not match the reference; the document may have been modified"

def noReferenceMessage : String := "document has no reference checksum to compare against"

def loadDocument (store : σ) (docId : String) : Except LedgerError Document := do
  match ← Purpose.loadDocument.during (Store.document store docId) with
  | some document => return document
  | none => throw (.noDocument docId)

def note (store : σ) (verification : Verification) : σ :=
  (Store.recordVerification store verification).2

def judge (document : Document) (docId calculated verifiedBy : String) (clock : Clock) :
    Except LedgerError Verdict × Option Verification :=
  let algorithm := document.algorithmName
  let entry := fun (stored : String) (valid : Bool) (error : Option String) => some {
    docId, verifiedBy, verifiedAt := clock.now, stored, calculated, algorithm, valid, error
    : Verification }
  match Checksum.validate calculated algorithm with
  | .error cause =>
    (.error (.ofFormat cause), entry (document.checksum.getD "") false (some cause.message))
  | .ok _ =>
    match document.reference? with
    | none =>
      let message := noReferenceMessage
      (.ok {
        valid := false, stored := none, calculated, algorithm, message, hasReference := false },
        none)
    | some stored =>
      let valid := Checksum.agree stored calculated
      let message := if valid then matchMessage else mismatchMessage
      (.ok { valid, stored := some stored, calculated, algorithm, message, hasReference := true },
        entry stored valid (if valid then none else some message))

def verify (docId calculated verifiedBy : String) (clock : Clock) (store : σ) :
    Except LedgerError Verdict × σ :=
  match loadDocument store docId with
  | .error cause => (.error cause, store)
  | .ok document =>
    match judge document docId calculated verifiedBy clock with
    | (outcome, none) => (outcome, store)
    | (outcome, some verification) => (outcome, note store verification)

def liveDigest (computer : LiveComputer ν) (options : FetchOptions) (document : Document)
    (docId : String) (outside : ν) : Except LedgerError String × ν :=
  match document.source? with
  | none => (.error (.inconclusive docId), outside)
  | some url =>
    match Checksum.parseAlgorithm document.algorithmName with
    | .error cause => (.error (.ofFormat cause), outside)
    | .ok algorithm =>
      match computer url { options with algorithm } outside with
      | (some digest, outside) => (.ok digest, outside)
      | (none, outside) => (.error (.inconclusive docId), outside)

def verifyRemote (computer : LiveComputer ν) (options : FetchOptions) (docId verifiedBy : String)
    (clock : Clock) (world : World σ ν) : Except LedgerError Verdict × World σ ν :=
  match loadDocument world.store docId with
  | .error cause => (.error cause, world)
  | .ok document =>
    match liveDigest computer options document docId world.outside with
    | (.error cause, outside) => (.error cause, { world with outside })
    | (.ok digest, outside) =>
      let (outcome, store) := verify docId digest verifiedBy clock world.store
      (outcome, { store, outside })

/-- A limit that is not positive stands for the default. -/
def history (store : σ) (docId : String) (limit : Int64) :
    Except LedgerError (List Verification) :=
  let limit := if 0 < limit then limit.toNatClampNeg else defaultHistoryLimit
  Purpose.loadHistory.during (Store.history store docId limit)

def lastVerification (store : σ) (docId : String) : Except LedgerError (Option Verification) :=
  Purpose.loadLast.during (Store.lastVerification store docId)

end ChecksumService

end Signoff
