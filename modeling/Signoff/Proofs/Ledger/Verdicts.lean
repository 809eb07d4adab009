import Signoff.Ledger.Verification
import Signoff.Proofs.Ledger.Integrity
import Signoff.Proofs.Ledger.Stages
import Signoff.Proofs.Ledger.Trail
import Signoff.Proofs.Store.Agreement

namespace Signoff

/-! An audit of live content and a strict check before signing decide the same question, each in its
own way. Where nothing but the content of a document counts they come to one decision. -/

theorem Checksum.agree_comm (left right : String) : agree left right = agree right left := by
  rw [agree, agree, BEq.comm]

namespace SigningService

variable {σ ν : Type} [Store σ]

/-- Nothing but the content of its document can stand in the way of a request. -/
structure Willing [ListStore σ] (signer : Signer) (request : SigningRequest) (store : σ) :
    Prop where
  user : ∃ user records, request.user = some user ∧ user.Valid ∧
    LawfulStore.Holds store records ∧ ¬ HasSigned records request.docId user.subject
  docId : ¬ Text.Blank request.docId
  nonce : ∃ nonce, request.nonce = .ok nonce
  room : ListStore.Room store
  signs : ∀ statement, ∃ signed, signer.sign statement = .ok signed

variable [ListStore σ] {service : SigningService ν} {request : SigningRequest}
  {world : World σ ν} {cause : LedgerError}

theorem Willing.passes (hwilling : Willing service.signer request world.store) {stage : Stage}
    (hstage : stage ≠ .integrity) : Passes service request world stage := by
  obtain ⟨user, records, huser, hvalid, hholds, hfresh⟩ := hwilling.user
  have hcontains : Store.contains world.store request.docId user.subject = .ok false := by
    rw [ListStore.contains_eq hholds, Bool.eq_false_iff.mpr (mt Memory.any_isOf_iff.mp hfresh)]
  -- The draft that is offered is of this user and document, and the store has no such record.
  have happend {draft : Draft} (hoffers : Offers service request world draft) :
      ∃ record, (Store.append world.store draft request.storing).1 = .ok record := by
    have hdraft : draft.docId = request.docId := hoffers.states.docId
    have hsubject : some user = some draft.user := huser.symm.trans hoffers.states.user
    cases hsubject
    exact ListStore.append_fresh hholds hwilling.room request.storing (hdraft ▸ hfresh)
  cases stage with
  | identity => exact passes_identity huser hvalid
  | docId => exact passes_docId hwilling.docId
  | existing => exact passes_existing huser hcontains
  | duplicate => exact passes_duplicate huser hcontains
  | nonce =>
      obtain ⟨nonce, hnonce⟩ := hwilling.nonce
      exact passes_nonce hnonce
  | integrity => exact absurd rfl hstage
  | signature =>
      intro cause hrefuses
      cases hrefuses with
      | @signature statement _ states unsigned =>
          obtain ⟨signed, hsigned⟩ := hwilling.signs statement
          rw [hsigned] at unsigned
          cases unsigned
  | head => exact passes_head (LawfulStore.last_eq hholds request.docId)
  | insertion =>
      intro cause hrefuses
      cases hrefuses with
      | overtaken offers unstored =>
          obtain ⟨record, hrecord⟩ := happend offers
          rw [hrecord] at unstored
          cases unstored
      | insertion offers unstored =>
          obtain ⟨record, hrecord⟩ := happend offers
          rw [hrecord] at unstored
          cases unstored

theorem Willing.create_error_iff (hwilling : Willing service.signer request world.store) :
    (service.create request world).1 = .error cause ↔
      (service.checksumToBind (lookUp world.store request.docId) world.outside).1 =
        .error cause := by
  rw [create_refused_iff, ← refuses_integrity_iff]
  constructor
  · rintro ⟨stage, _, hrefuses⟩
    by_cases hstage : stage = .integrity
    · exact hstage ▸ hrefuses
    · exact absurd hrefuses (hwilling.passes hstage cause)
  · intro hrefuses
    refine ⟨.integrity, fun earlier hearlier => hwilling.passes ?_, hrefuses⟩
    rintro rfl
    exact absurd hearlier (Nat.lt_irrefl _)

theorem Willing.create_checked (hwilling : Willing service.signer request world.store)
    {document : Document} {stored source : String} {check : IntegrityCheck}
    (hchecks : Checks service request world document stored source check) {live : Option String}
    {after : ν}
    (hlive : check.liveDigest service.computer document source world.outside = (live, after)) :
    match check.judge document.docId stored live with
    | .ok _ => ∃ record, (service.create request world).1 = .ok record
    | .error cause => (service.create request world).1 = .error cause := by
  have hbound : (service.checksumToBind (lookUp world.store request.docId) world.outside).1 =
      (check.judge document.docId stored live).map some := by
    rw [checksumToBind_of_checks hchecks, hlive]
  cases hjudge : check.judge document.docId stored live with
  | error cause =>
      refine hwilling.create_error_iff.mpr ?_
      rw [hbound, hjudge]
      rfl
  | ok checksum =>
      cases hcreate : (service.create request world).1 with
      | ok record => exact ⟨record, rfl⟩
      | error cause =>
          have hrefused := hwilling.create_error_iff.mp hcreate
          rw [hbound, hjudge] at hrefused
          cases hrefused

end SigningService

namespace ChecksumService

open SigningService (Willing)

variable {σ ν : Type} [Store σ]

theorem liveDigest_of_some {check : IntegrityCheck} {computer : LiveComputer ν}
    {document : Document} {source digest : String} {outside after : ν}
    (hsource : document.source? = some source)
    (hlive : check.liveDigest computer document source outside = (some digest, after))
    (docId : String) :
    liveDigest computer check.fetch document docId outside = (.ok digest, after) := by
  simp only [IntegrityCheck.liveDigest] at hlive
  split at hlive
  · next algorithm hparse => simp only [liveDigest, hsource, hparse, hlive]
  · cases hlive

theorem liveDigest_of_none {check : IntegrityCheck} {computer : LiveComputer ν}
    {document : Document} {source : String} {outside after : ν}
    (hsource : document.source? = some source)
    (hlive : check.liveDigest computer document source outside = (none, after))
    (docId : String) :
    ∃ cause, liveDigest computer check.fetch document docId outside = (.error cause, after) ∧
      (cause = .inconclusive docId ∨ ∃ name, cause = .unsupportedAlgorithm name) := by
  simp only [IntegrityCheck.liveDigest] at hlive
  split at hlive
  · next algorithm hparse =>
      exact ⟨_, by simp only [liveDigest, hsource, hparse, hlive], .inl rfl⟩
  · next cause hparse =>
      cases hlive
      obtain rfl := Checksum.parseAlgorithm_error hparse
      refine ⟨.unsupportedAlgorithm document.algorithmName, ?_, .inr ⟨_, rfl⟩⟩
      simp only [liveDigest, hsource, hparse]
      rfl

variable {network : Network} {world : World σ Trace} {document : Document} {docId stored : String}

/-- The digest that is found is one of the document's algorithm and is compared with the checksum on
file. -/
theorem verify_digest {store : σ} {digest : String} {body : List UInt8}
    (hdocument : Store.document store docId = .ok (some document))
    (hstored : document.reference? = some stored) (hdigest : document.digest? body = some digest)
    (verifiedBy : String) (clock : Clock) :
    ∃ verdict, (verify docId digest verifiedBy clock store).1 = .ok verdict ∧
      verdict.valid = Checksum.agree stored digest ∧ verdict.hasReference = true := by
  obtain ⟨algorithm, hvalidate⟩ :
      ∃ algorithm, Checksum.validate digest document.algorithmName = .ok algorithm := by
    simp only [Document.digest?] at hdigest
    split at hdigest
    · next algorithm hparse => exact ⟨algorithm, Checksum.validate_digest hparse hdigest⟩
    · cases hdigest
  simp only [verify, loadDocument_eq_ok_iff.mpr hdocument, judge, hvalidate, hstored]
  exact ⟨_, rfl, rfl, rfl⟩

theorem verifyRemote_of_some {check : IntegrityCheck} {source digest : String} {after : Trace}
    (hdocument : Store.document world.store docId = .ok (some document))
    (hstored : document.reference? = some stored) (hsource : document.source? = some source)
    (hlive : check.liveDigest (Fetch.computer network) document source world.outside =
      (some digest, after)) (verifiedBy : String) (clock : Clock) :
    ∃ verdict, (verifyRemote (Fetch.computer network) check.fetch docId verifiedBy clock world).1 =
        .ok verdict ∧
      verdict.valid = Checksum.agree stored digest ∧ verdict.hasReference = true := by
  obtain ⟨body, _, hdigest⟩ := IntegrityCheck.liveDigest_eq_some_iff.mp hlive
  simp only [verifyRemote, loadDocument_eq_ok_iff.mpr hdocument, liveDigest_of_some hsource hlive docId]
  exact verify_digest hdocument hstored hdigest verifiedBy clock

theorem verifyRemote_of_none {check : IntegrityCheck} {source : String} {after : Trace}
    (hdocument : Store.document world.store docId = .ok (some document))
    (hsource : document.source? = some source)
    (hlive : check.liveDigest (Fetch.computer network) document source world.outside =
      (none, after)) (verifiedBy : String) (clock : Clock) :
    ∃ cause, (verifyRemote (Fetch.computer network) check.fetch docId verifiedBy clock world).1 =
        .error cause ∧
      (cause = .inconclusive docId ∨ ∃ name, cause = .unsupportedAlgorithm name) := by
  obtain ⟨cause, hcause, hunknown⟩ := liveDigest_of_none hsource hlive docId
  simp only [verifyRemote, loadDocument_eq_ok_iff.mpr hdocument, hcause]
  exact ⟨cause, rfl, hunknown⟩

/-- What an audit and a request to sign have to say of the same content. -/
structure Agree (audit : Except LedgerError Verdict) (signing : Except LedgerError Record) :
    Prop where
  valid : (∃ verdict, audit = .ok verdict ∧ verdict.valid = true) ↔
    ∃ record, signing = .ok record
  modified : (∃ verdict, audit = .ok verdict ∧ verdict.valid = false) ↔
    ∃ docId expected actual, signing = .error (.modified docId expected actual)
  unknown : ((∃ docId, audit = .error (.inconclusive docId)) ∨
      ∃ name, audit = .error (.unsupportedAlgorithm name)) ↔
    ∃ docId, signing = .error (.unverifiable docId)
  hasReference : ∀ verdict, audit = .ok verdict → verdict.hasReference = true
  wellFormed : ∀ cause, audit ≠ .error (.badFormat cause)

theorem Agree.same {verdict : Verdict} (hvalid : verdict.valid = true)
    (hreference : verdict.hasReference = true) (record : Record) :
    Agree (.ok verdict) (.ok record) := by
  constructor <;> simp [hvalid, hreference]

theorem Agree.changed {verdict : Verdict} (hvalid : verdict.valid = false)
    (hreference : verdict.hasReference = true) (docId expected actual : String) :
    Agree (.ok verdict) (.error (.modified docId expected actual)) := by
  constructor <;> simp [hvalid, hreference]

theorem Agree.neither {cause : LedgerError} {docId : String}
    (hcause : cause = .inconclusive docId ∨ ∃ name, cause = .unsupportedAlgorithm name)
    (named : String) : Agree (.error cause) (.error (.unverifiable named)) := by
  rcases hcause with rfl | ⟨name, rfl⟩
  · constructor <;> simp
  · constructor <;> simp

/-- On equal copies of a world an audit of a document and a strict check before signing it come to
the same decision: both pass it, both find it modified, or neither can tell. -/
theorem verifyRemote_agrees {σ : Type} [Store σ] [ListStore σ] (signer : Signer)
    (network : Network) (options : FetchOptions) (request : SigningRequest)
    (world : World σ Trace) (verifiedBy : String) (clock : Clock) {document : Document}
    {stored source : String} (hwilling : Willing signer request world.store)
    (hdocument : Store.document world.store request.docId = .ok (some document))
    (hstored : document.reference? = some stored) (hsource : document.source? = some source) :
    Agree
      (verifyRemote (Fetch.computer network) options request.docId verifiedBy clock world).1
      (SigningService.create ⟨signer, Fetch.computer network, some ⟨options, .reject⟩⟩ request
        world).1 := by
  let service : SigningService Trace :=
    ⟨signer, Fetch.computer network, some ⟨options, .reject⟩⟩
  have hwilling : Willing service.signer request world.store := hwilling
  have hchecks : SigningService.Checks service request world document stored source
      ⟨options, .reject⟩ := ⟨hdocument, hstored, hsource, rfl⟩
  cases hlive : IntegrityCheck.liveDigest ⟨options, .reject⟩ (Fetch.computer network) document
      source world.outside with
  | mk live after =>
      have hsigning := hwilling.create_checked hchecks hlive
      cases live with
      | none =>
          obtain ⟨cause, haudit, hunknown⟩ :=
            verifyRemote_of_none hdocument hsource hlive verifiedBy clock
          rw [haudit, hsigning]
          exact .neither hunknown document.docId
      | some digest =>
          obtain ⟨verdict, haudit, hvalid, hreference⟩ :=
            verifyRemote_of_some hdocument hstored hsource hlive verifiedBy clock
          rw [Checksum.agree_comm] at hvalid
          by_cases hagree : Checksum.agree digest stored = true
          · simp only [IntegrityCheck.judge, hagree] at hsigning
            obtain ⟨record, hrecord⟩ := hsigning
            rw [haudit, hrecord]
            exact .same (hvalid.trans hagree) hreference record
          · simp only [IntegrityCheck.judge, hagree] at hsigning
            rw [haudit, hsigning]
            exact .changed (hvalid.trans (Bool.eq_false_iff.mpr hagree)) hreference _ _ _

open SigningService (checksum_create_handbook handbook handbookChecksum handbookRequest
  handbookSource handbookWorld moved reference?_handbook source?_handbook strictCheck strictService)

def handbookTables : World Database Trace := ⟨(Database.fresh ⟨0⟩).putDocument handbook, []⟩

theorem willing_handbook {σ : Type} [Store σ] [ListStore σ] {store : σ}
    (hholds : LawfulStore.Holds store []) (hroom : ListStore.Room store) :
    Willing strictService.signer handbookRequest store where
  user := ⟨Fixture.user 1, [], rfl, by decide +kernel, hholds, by simp [HasSigned]⟩
  docId := by decide +kernel
  nonce := ⟨_, rfl⟩
  room := hroom
  signs _ := ⟨_, rfl⟩

theorem willing_handbookTables :
    Willing strictService.signer handbookRequest handbookTables.store := by
  apply willing_handbook
  · exact (Database.inOrder_fresh ⟨0⟩).congr rfl
  · change (Database.fresh ⟨0⟩).signatures.highest ≠ Int64.maxValue
    rw [Database.signatures_fresh]
    decide

theorem document_handbookTables :
    Store.document handbookTables.store handbookRequest.docId = .ok (some handbook) :=
  ((Database.Mirrors.fresh ⟨0⟩).putDocument handbook).documents handbookRequest.docId

def handbookAudit {σ : Type} [Store σ] (world : World σ Trace) :
    Except LedgerError Verdict × World σ Trace :=
  verifyRemote (Fetch.computer moved) strictCheck.fetch handbookRequest.docId "auditor"
    ⟨1736870400000⟩ world

theorem verifyRemote_agrees_moved :
    Willing strictService.signer handbookRequest handbookWorld.store ∧
      Store.document handbookWorld.store handbookRequest.docId = .ok (some handbook) ∧
      Willing strictService.signer handbookRequest handbookTables.store ∧
      Store.document handbookTables.store handbookRequest.docId = .ok (some handbook) ∧
      handbook.reference? = some handbookChecksum ∧ handbook.source? = some handbookSource ∧
      Agree (handbookAudit handbookWorld).1
        (strictService.create handbookRequest handbookWorld).1 ∧
      Agree (handbookAudit handbookTables).1
        (strictService.create handbookRequest handbookTables).1 ∧
      ∃ verdict, (handbookAudit handbookWorld).1 = .ok verdict ∧ verdict.valid = true := by
  have hmemory : Willing strictService.signer handbookRequest handbookWorld.store :=
    willing_handbook rfl trivial
  have hdocument : Store.document handbookWorld.store handbookRequest.docId =
      .ok (some handbook) := rfl
  have hagree := verifyRemote_agrees strictService.signer moved strictCheck.fetch handbookRequest
    handbookWorld "auditor" ⟨1736870400000⟩ hmemory hdocument reference?_handbook source?_handbook
  have hother := verifyRemote_agrees strictService.signer moved strictCheck.fetch handbookRequest
    handbookTables "auditor" ⟨1736870400000⟩ willing_handbookTables document_handbookTables
    reference?_handbook source?_handbook
  refine ⟨hmemory, hdocument, willing_handbookTables, document_handbookTables, reference?_handbook,
    source?_handbook, hagree, hother, hagree.valid.mpr ?_⟩
  have hsigned := checksum_create_handbook
  cases hcreate : (strictService.create handbookRequest handbookWorld).1 with
  | ok record => exact ⟨record, hcreate⟩
  | error cause =>
      rw [hcreate] at hsigned
      cases hsigned

end ChecksumService

end Signoff
