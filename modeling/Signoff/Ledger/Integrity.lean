import Signoff.Document
import Signoff.Fetch.Options
import Signoff.Ledger.Error

namespace Signoff

/-- Computes the digest of what an address serves, in a world `ν` that may change with each
call. Without an answer nothing is known of the content. -/
abbrev LiveComputer (ν : Type) := (url : String) → FetchOptions → ν → Option String × ν

inductive InconclusivePolicy where
  | proceed
  | reject
deriving DecidableEq, Repr

structure IntegrityCheck where
  fetch : FetchOptions
  policy : InconclusivePolicy

namespace IntegrityCheck

variable {ν : Type}

/-- The live digest under the document's own algorithm. A document whose algorithm is unknown
is not fetched. -/
def liveDigest (check : IntegrityCheck) (computer : LiveComputer ν) (document : Document)
    (url : String) (world : ν) : Option String × ν :=
  match Checksum.parseAlgorithm document.algorithmName with
  | .ok algorithm => computer url { check.fetch with algorithm } world
  | .error _ => (none, world)

/-- The checksum to bind, given the one on file and the live digest if there is one. -/
def judge (check : IntegrityCheck) (docId stored : String) :
    Option String → Except LedgerError String
  | some live =>
    if Checksum.agree live stored then .ok stored else .error (.modified docId stored live)
  | none =>
    match check.policy with
    | .proceed => .ok stored
    | .reject => .error (.unverifiable docId)

end IntegrityCheck

/-- The checksum that a signature on the document binds. Live content is consulted only where
a check is asked for and the document has both a checksum and an address. -/
def boundChecksum {ν : Type} (check? : Option IntegrityCheck) (computer : LiveComputer ν)
    (document : Document) (world : ν) : Except LedgerError (Option String) × ν :=
  match document.reference? with
  | none => (.ok none, world)
  | some stored =>
    match document.source?, check? with
    | some url, some check =>
      let (live, world) := check.liveDigest computer document url world
      ((check.judge document.docId stored live).map some, world)
    | _, _ => (.ok (some stored), world)

end Signoff
