import Signoff.Hex
import Signoff.Message

namespace Signoff.Chain

/-! Hash chains, one a document. Records come in the order of insertion, and each carries the
hash of the one before it among those of its document. -/

/-- The link that the next record of a document has to carry, where `earlier` holds the
records before it, nearest first. -/
def expectedLink (earlier : List Record) (docId : String) : Option Digest :=
  (earlier.find? (·.docId = docId)).map (·.linkHash)

structure Break where
  record : Record
  expected : Option Digest
deriving DecidableEq

def firstBreakAfter (earlier : List Record) : List Record → Option Break
  | [] => none
  | record :: rest =>
    let expected := expectedLink earlier record.docId
    if record.previous = expected then firstBreakAfter (record :: earlier) rest
    else some { record, expected }

def firstBreak (records : List Record) : Option Break :=
  firstBreakAfter [] records

structure Audit where
  total : Nat
  break? : Option Break
deriving DecidableEq

def audit (records : List Record) : Audit where
  total := records.length
  break? := firstBreak records

def describeLink : Option Digest → String
  | none => "none"
  | some digest => digest.hex

def Break.details (found : Break) : String :=
  let id := toString found.record.id.toInt
  match found.expected with
  | none =>
    "signature " ++ id ++ " is the first for document " ++ found.record.docId ++
      " but carries prev_hash " ++ describeLink found.record.previous
  | some expected =>
    "signature " ++ id ++ " of document " ++ found.record.docId ++ " has prev_hash " ++
      describeLink found.record.previous ++ ", expected " ++ expected.hex

namespace Audit

def isValid (audit : Audit) : Bool := audit.break?.isNone

def breakAt (audit : Audit) : Option Int64 := audit.break?.map (·.record.id)

def details (audit : Audit) : String :=
  match audit.break? with
  | none => "chain intact across " ++ toString audit.total ++ " records"
  | some found => found.details

end Audit

structure Correction where
  id : Int64
  stored : Option Digest
  expected : Option Digest
deriving DecidableEq

def correctionsAfter (earlier : List Record) : List Record → List Correction
  | [] => []
  | record :: rest =>
    let expected := expectedLink earlier record.docId
    let later := correctionsAfter (record.withPrevious expected :: earlier) rest
    if record.previous = expected then later
    else { id := record.id, stored := record.previous, expected } :: later

def corrections (records : List Record) : List Correction :=
  correctionsAfter [] records

def relinkAfter (earlier : List Record) : List Record → List Record
  | [] => []
  | record :: rest =>
    let linked := record.withPrevious (expectedLink earlier record.docId)
    linked :: relinkAfter (linked :: earlier) rest

def relink (records : List Record) : List Record :=
  relinkAfter [] records

end Signoff.Chain
