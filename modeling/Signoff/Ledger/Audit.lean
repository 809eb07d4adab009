import Signoff.Chain
import Signoff.Ledger.Error
import Signoff.Store

namespace Signoff

structure RebuildReport where
  total : Nat
  updated : Nat
  failed : Nat
deriving DecidableEq, Repr

namespace ChainService

variable {σ : Type} [Store σ]

def audit (store : σ) : Except LedgerError Chain.Audit :=
  (Purpose.loadSignatures.during (Store.records store)).map Chain.audit

/-- Writes the corrections one by one. One that cannot be written is counted and passed over. -/
def writeCorrections (report : RebuildReport) :
    List Chain.Correction → σ → RebuildReport × σ
  | [], store => (report, store)
  | correction :: rest, store =>
    match Store.setPrevious store correction.id correction.expected with
    | (.ok (), store) =>
      writeCorrections { report with updated := report.updated + 1 } rest store
    | (.error _, store) =>
      writeCorrections { report with failed := report.failed + 1 } rest store

def rebuild (store : σ) : Except LedgerError RebuildReport × σ :=
  match Purpose.loadSignatures.during (Store.records store) with
  | .error cause => (.error cause, store)
  | .ok records =>
    let (report, store) :=
      writeCorrections ⟨records.length, 0, 0⟩ (Chain.corrections records) store
    (.ok report, store)

end ChainService

end Signoff
