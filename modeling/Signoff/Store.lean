import Signoff.Clock
import Signoff.Document
import Signoff.Record
import Signoff.Store.Error
import Signoff.Verification

namespace Signoff

/-! What a ledger needs of a store. Records are only ever appended, save that a link may be
set anew; verifications are only ever appended. A write returns the store it leaves behind,
also when it fails. -/

class Store (σ : Type) where
  append : σ → Draft → Clock → Except StoreError Record × σ
  find : σ → (docId subject : String) → Except StoreError (Option Record)
  recordsOf : σ → (docId : String) → Except StoreError (List Record)
  recordsBy : σ → (subject : String) → Except StoreError (List Record)
  contains : σ → (docId subject : String) → Except StoreError Bool
  /-- Whether somebody known by this subject or address has signed the document. -/
  hasSigned : σ → (docId identifier : String) → Except StoreError Bool
  last : σ → (docId : String) → Except StoreError (Option Record)
  records : σ → Except StoreError (List Record)
  setPrevious : σ → (id : Int64) → Option Digest → Except StoreError Unit × σ
  putDocument : σ → Document → Except StoreError Unit × σ
  document : σ → (docId : String) → Except StoreError (Option Document)
  recordVerification : σ → Verification → Except StoreError Unit × σ
  history : σ → (docId : String) → (limit : Nat) → Except StoreError (List Verification)
  lastVerification : σ → (docId : String) → Except StoreError (Option Verification) :=
    fun store docId => (history store docId 1).map List.head?

end Signoff
