import Signoff.Store

namespace Signoff

namespace Store

inductive Operation where
  | append
  | find
  | recordsOf
  | recordsBy
  | contains
  | hasSigned
  | last
  | records
  | setPrevious (id : Int64)
  | document
  | recordVerification
  | history
  | lastVerification
deriving DecidableEq, Repr

end Store

structure Faulty (σ : Type) where
  store : σ
  fault : Store.Operation → Option StoreError
  /-- Whether the check for an existing record never finds one, as in a lost race. -/
  blind : Bool

namespace Faulty

variable {σ : Type}

def read {α : Type} (faulty : Faulty σ) (operation : Store.Operation)
    (run : σ → Except StoreError α) : Except StoreError α :=
  match faulty.fault operation with
  | some cause => .error cause
  | none => run faulty.store

def write {α : Type} (faulty : Faulty σ) (operation : Store.Operation)
    (run : σ → Except StoreError α × σ) : Except StoreError α × Faulty σ :=
  match faulty.fault operation with
  | some cause => (.error cause, faulty)
  | none =>
    let (result, store) := run faulty.store
    (result, { faulty with store })

variable [Store σ]

instance : Store (Faulty σ) where
  append faulty draft clock := faulty.write .append (Store.append · draft clock)
  find faulty docId subject := faulty.read .find (Store.find · docId subject)
  recordsOf faulty docId := faulty.read .recordsOf (Store.recordsOf · docId)
  recordsBy faulty subject := faulty.read .recordsBy (Store.recordsBy · subject)
  contains faulty docId subject :=
    if faulty.blind then faulty.read .contains fun _ => .ok false
    else faulty.read .contains (Store.contains · docId subject)
  hasSigned faulty docId identifier :=
    faulty.read .hasSigned (Store.hasSigned · docId identifier)
  last faulty docId := faulty.read .last (Store.last · docId)
  records faulty := faulty.read .records Store.records
  setPrevious faulty id previous :=
    faulty.write (.setPrevious id) (Store.setPrevious · id previous)
  putDocument faulty document :=
    let (result, store) := Store.putDocument faulty.store document
    (result, { faulty with store })
  document faulty docId := faulty.read .document (Store.document · docId)
  recordVerification faulty verification :=
    faulty.write .recordVerification (Store.recordVerification · verification)
  history faulty docId limit := faulty.read .history (Store.history · docId limit)
  lastVerification faulty docId :=
    faulty.read .lastVerification (Store.lastVerification · docId)

end Faulty

end Signoff
