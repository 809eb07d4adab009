import Signoff.Ledger.Signing
import Signoff.Proofs.Except

namespace Signoff

namespace SigningService

/-! Signing. A draft is signed and linked before the store sees it, and the store sees it once. -/

variable {σ ν : Type} [Store σ] {service : SigningService ν} {request : SigningRequest}

structure Prepared (service : SigningService ν) (store : σ) (draft : Draft) : Prop where
  signed : service.signer.sign draft.statement = .ok ⟨draft.payloadHash, draft.signature⟩
  linked : ∃ last, Store.last store draft.docId = .ok last ∧
    draft.previous = last.map (·.linkHash)

theorem draft_prepared {user : User} {nonce : Nonce} {checksum : Option String} {store : σ}
    {draft : Draft} (hdraft : service.draft request user nonce checksum store = .ok draft) :
    service.Prepared store draft ∧ draft.checksum = checksum := by
  obtain ⟨signed, hsigned, hrest⟩ := bind_eq_ok_iff.mp hdraft
  obtain ⟨last, hlast, hresult⟩ := bind_eq_ok_iff.mp hrest
  cases hresult
  refine ⟨⟨?_, ?_⟩, rfl⟩
  · exact mapError_eq_ok_iff.mp hsigned
  · exact ⟨last, mapError_eq_ok_iff.mp hlast, rfl⟩

theorem blocksSigning_during {α : Type} {purpose : Purpose} {result : Except StoreError α}
    {cause : LedgerError} (hresult : purpose.during result = .error cause) :
    cause.blocksSigning = false := by
  obtain ⟨_, _, rfl⟩ := mapError_eq_error_iff.mp hresult
  rfl

theorem blocksSigning_accept {store : σ} {cause : LedgerError}
    (haccept : accept request store = .error cause) : cause.blocksSigning = false := by
  simp only [accept] at haccept
  split at haccept
  · split at haccept
    · cases haccept
      rfl
    · rcases bind_eq_error_iff.mp haccept with hcontains | ⟨_, _, hrest⟩
      · exact blocksSigning_during hcontains
      · split at hrest
        · cases hrest
          rfl
        · rcases bind_eq_error_iff.mp hrest with hnonce | ⟨_, _, hdone⟩
          · obtain ⟨_, _, rfl⟩ := mapError_eq_error_iff.mp hnonce
            rfl
          · cases hdone
  · cases haccept
    rfl

theorem blocksSigning_draft {user : User} {nonce : Nonce} {checksum : Option String} {store : σ}
    {cause : LedgerError}
    (hdraft : service.draft request user nonce checksum store = .error cause) :
    cause.blocksSigning = false := by
  rcases bind_eq_error_iff.mp hdraft with hsign | ⟨signed, _, hrest⟩
  · obtain ⟨_, _, rfl⟩ := mapError_eq_error_iff.mp hsign
    rfl
  · rcases bind_eq_error_iff.mp hrest with hlast | ⟨_, _, hdone⟩
    · exact blocksSigning_during hlast
    · cases hdone

theorem blocksSigning_insertionError (cause : StoreError) :
    (insertionError cause).blocksSigning = false := by
  cases cause <;> rfl

/-- A request leaves the store alone and fails, be it for what the document holds or for some other
cause, or it comes to one attempt to append. -/
theorem create_cases (service : SigningService ν) (request : SigningRequest)
    (world : World σ ν) :
    let document := lookUp world.store request.docId
    (∃ cause outside, cause.blocksSigning = false ∧
        service.create request world = (.error cause, { world with outside })) ∨
      (∃ cause outside, service.checksumToBind document world.outside = (.error cause, outside) ∧
        service.create request world = (.error cause, { world with outside })) ∨
      ∃ draft outside, service.Prepared world.store draft ∧
        service.checksumToBind document world.outside = (.ok draft.checksum, outside) ∧
        service.create request world =
          ((Store.append world.store draft request.storing).1.mapError insertionError,
            ⟨(Store.append world.store draft request.storing).2, outside⟩) := by
  intro document
  cases haccept : accept request world.store with
  | error cause =>
      exact .inl ⟨cause, world.outside, blocksSigning_accept haccept, by simp [create, haccept]⟩
  | ok accepted =>
      obtain ⟨user, nonce⟩ := accepted
      cases hchecksum : service.checksumToBind document world.outside with
      | mk result outside =>
          cases result with
          | error cause =>
              refine .inr (.inl ⟨cause, outside, rfl, ?_⟩)
              simp [create, haccept, document, hchecksum]
          | ok checksum =>
              cases hdraft : service.draft request user nonce checksum world.store with
              | error cause =>
                  refine .inl ⟨cause, outside, blocksSigning_draft hdraft, ?_⟩
                  simp [create, haccept, document, hchecksum, hdraft]
              | ok draft =>
                  obtain ⟨hprepared, rfl⟩ := draft_prepared hdraft
                  refine .inr (.inr ⟨draft, outside, hprepared, rfl, ?_⟩)
                  simp [create, haccept, document, hchecksum, hdraft]

def SameOutcome {σ ν α : Type} (left right : α × World σ ν) : Prop :=
  left.1 = right.1 ∧ left.2.store = right.2.store

theorem create_of_bound {other : SigningService ν} {world : World σ ν} {checksum : Option String}
    {outside final : ν} (hsigner : service.signer = other.signer)
    (hbound : service.checksumToBind (lookUp world.store request.docId) world.outside =
      (.ok checksum, outside))
    (hother : other.checksumToBind (lookUp world.store request.docId) world.outside =
      (.ok checksum, final)) :
    SameOutcome (service.create request world) (other.create request world) := by
  cases haccept : accept request world.store with
  | error cause => simp [SameOutcome, create, haccept]
  | ok accepted =>
      obtain ⟨user, nonce⟩ := accepted
      have hdraft : service.draft request user nonce checksum world.store =
          other.draft request user nonce checksum world.store := by
        simp only [draft, hsigner]
      simp only [SameOutcome, create, haccept, hbound, hother, hdraft]
      cases other.draft request user nonce checksum world.store <;> simp

theorem create_of_refused (other : SigningService ν) {world : World σ ν} {cause : LedgerError}
    {outside : ν}
    (hrefused : service.checksumToBind (lookUp world.store request.docId) world.outside =
      (.error cause, outside)) :
    (service.create request world).1 = .error cause ∨
      SameOutcome (service.create request world) (other.create request world) := by
  cases haccept : accept request world.store with
  | error first =>
      refine .inr ?_
      simp [SameOutcome, create, haccept]
  | ok accepted =>
      refine .inl ?_
      simp [create, haccept, hrefused]

end SigningService

end Signoff
