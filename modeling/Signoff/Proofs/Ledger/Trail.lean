import Signoff.Ledger.Verification
import Signoff.Proofs.Checksum
import Signoff.Proofs.Store.Trail

namespace Signoff

/-! Verifying a checksum and keeping record of it. What is said of the checksum, whether that is
recorded and what the record says come from one look at the document; whether the record can be
written is of no account. -/

theorem Document.reference?_eq_some_iff {document : Document} {reference : String} :
    document.reference? = some reference ↔
      document.checksum = some reference ∧ ¬ Text.Blank reference := by
  simp [reference?, Text.nonBlank?, Option.filter_eq_some_iff]

namespace ChecksumService

def passes (outcome : Except LedgerError Verdict) : Bool :=
  match outcome with
  | .ok verdict => verdict.valid
  | .error _ => false

/-- Whether an attempt on this document is one for the audit trail. -/
def Notable (document : Document) (calculated : String) : Prop :=
  ¬ Checksum.WellFormed calculated document.algorithmName ∨
    ∃ reference, document.checksum = some reference ∧ ¬ Text.Blank reference

/-- What the audit trail says of an attempt. -/
structure Tells (document : Document) (docId calculated verifiedBy : String) (clock : Clock)
    (outcome : Except LedgerError Verdict) (entry : Verification) : Prop where
  attempt : entry.docId = docId ∧ entry.verifiedBy = verifiedBy ∧ entry.verifiedAt = clock.now ∧
    entry.calculated = calculated
  document : entry.stored = document.checksum.getD "" ∧ entry.algorithm = document.algorithmName
  valid : entry.valid = passes outcome
  error : entry.error.isSome = true ↔ entry.valid = false

inductive Judgment (document : Document) (docId calculated verifiedBy : String) (clock : Clock) :
    Except LedgerError Verdict → Option Verification → Prop
  | malformed {cause : LedgerError} {entry : Verification}
      (format : ¬ Checksum.WellFormed calculated document.algorithmName)
      (tells : Tells document docId calculated verifiedBy clock (.error cause) entry) :
      Judgment document docId calculated verifiedBy clock (.error cause) (some entry)
  | unreferenced {verdict : Verdict}
      (format : Checksum.WellFormed calculated document.algorithmName)
      (missing : document.reference? = none) (invalid : verdict.valid = false) :
      Judgment document docId calculated verifiedBy clock (.ok verdict) none
  | compared {reference : String} {verdict : Verdict} {entry : Verification}
      (format : Checksum.WellFormed calculated document.algorithmName)
      (present : document.reference? = some reference)
      (valid : verdict.valid = Checksum.agree reference calculated)
      (tells : Tells document docId calculated verifiedBy clock (.ok verdict) entry) :
      Judgment document docId calculated verifiedBy clock (.ok verdict) (some entry)

theorem judgment (document : Document) (docId calculated verifiedBy : String) (clock : Clock) :
    Judgment document docId calculated verifiedBy clock
      (judge document docId calculated verifiedBy clock).1
      (judge document docId calculated verifiedBy clock).2 := by
  cases hformat : Checksum.validate calculated document.algorithmName with
  | error cause =>
      simp only [judge, hformat]
      exact .malformed (Checksum.not_wellFormed_of_validate hformat)
        ⟨⟨rfl, rfl, rfl, rfl⟩, ⟨rfl, rfl⟩, rfl, by simp⟩
  | ok algorithm =>
      have hformed := Checksum.wellFormed_of_validate hformat
      cases hreference : document.reference? with
      | none =>
          simp only [judge, hformat, hreference]
          apply Judgment.unreferenced hformed hreference
          rfl
      | some reference =>
          have hstored : reference = document.checksum.getD "" := by
            rw [(Document.reference?_eq_some_iff.mp hreference).1]
            rfl
          simp only [judge, hformat, hreference]
          apply Judgment.compared hformed hreference
          · rfl
          · refine ⟨⟨rfl, rfl, rfl, rfl⟩, ⟨hstored, rfl⟩, rfl, ?_⟩
            cases Checksum.agree reference calculated <;> simp

section

variable {document : Document} {docId calculated verifiedBy : String} {clock : Clock}
  {outcome : Except LedgerError Verdict} {entry : Option Verification}

theorem Judgment.notable_iff
    (hjudgment : Judgment document docId calculated verifiedBy clock outcome entry) :
    entry.isSome = true ↔ Notable document calculated := by
  cases hjudgment with
  | malformed hformat _ => exact iff_of_true rfl (.inl hformat)
  | unreferenced hformat hmissing _ =>
      refine iff_of_false Bool.false_ne_true ?_
      rintro (hmalformed | ⟨reference, hreference⟩)
      · exact hmalformed hformat
      · rw [← Document.reference?_eq_some_iff, hmissing] at hreference
        cases hreference
  | compared _ hpresent _ _ =>
      exact iff_of_true rfl (.inr ⟨_, Document.reference?_eq_some_iff.mp hpresent⟩)

theorem Judgment.tells
    (hjudgment : Judgment document docId calculated verifiedBy clock outcome entry)
    {verification : Verification} (hentry : entry = some verification) :
    Tells document docId calculated verifiedBy clock outcome verification := by
  cases hjudgment with
  | malformed _ htells => exact Option.some.inj hentry ▸ htells
  | unreferenced _ _ _ => cases hentry
  | compared _ _ _ htells => exact Option.some.inj hentry ▸ htells

theorem Judgment.passes_iff
    (hjudgment : Judgment document docId calculated verifiedBy clock outcome entry) :
    passes outcome = true ↔
      ∃ reference, document.checksum = some reference ∧ ¬ Text.Blank reference ∧
        Checksum.WellFormed calculated document.algorithmName ∧
        Checksum.normalize calculated = Checksum.normalize reference := by
  cases hjudgment with
  | malformed hformat _ =>
      refine iff_of_false Bool.false_ne_true ?_
      rintro ⟨_, _, _, hformed, _⟩
      exact hformat hformed
  | unreferenced _ hmissing hinvalid =>
      refine iff_of_false (by simp [passes, hinvalid]) ?_
      rintro ⟨reference, hchecksum, hblank, _, _⟩
      have hpresent := Document.reference?_eq_some_iff.mpr ⟨hchecksum, hblank⟩
      rw [hmissing] at hpresent
      cases hpresent
  | @compared reference verdict _ hformat hpresent hvalid _ =>
      obtain ⟨hchecksum, hblank⟩ := Document.reference?_eq_some_iff.mp hpresent
      have hagree : passes (.ok verdict) = true ↔
          Checksum.normalize calculated = Checksum.normalize reference := by
        rw [passes, hvalid, Checksum.agree, beq_iff_eq, eq_comm]
      rw [hagree]
      constructor
      · exact fun hsame => ⟨reference, hchecksum, hblank, hformat, hsame⟩
      · rintro ⟨other, hother, _, _, hsame⟩
        rw [hchecksum, Option.some.injEq] at hother
        rw [hsame, hother]

end

variable {σ ν : Type} [Store σ]

theorem loadDocument_eq_ok_iff {store : σ} {docId : String} {document : Document} :
    loadDocument store docId = .ok document ↔
      Store.document store docId = .ok (some document) := by
  simp only [loadDocument, Purpose.during, bind_eq_ok_iff, mapError_eq_ok_iff]
  constructor
  · rintro ⟨_ | found, hfound, hresult⟩
    · cases hresult
    · cases hresult
      exact hfound
  · exact fun hfound => ⟨some document, hfound, rfl⟩

theorem loadDocument_congr {τ : Type} [Store τ] {store : σ} {other : τ} {docId : String}
    (hdocument : Store.document store docId = Store.document other docId) :
    loadDocument store docId = loadDocument other docId := by
  simp only [loadDocument, hdocument]

/-- A verdict comes from what the store has of the document and from nothing else in it. -/
theorem verify_congr {τ : Type} [Store τ] {store : σ} {other : τ} {docId : String}
    (hdocument : Store.document store docId = Store.document other docId)
    (calculated verifiedBy : String) (clock : Clock) :
    (verify docId calculated verifiedBy clock store).1 =
      (verify docId calculated verifiedBy clock other).1 := by
  simp only [verify, loadDocument_congr hdocument]
  cases loadDocument other docId with
  | error cause => rfl
  | ok document =>
      dsimp only
      cases judge document docId calculated verifiedBy clock with
      | mk outcome entry => cases entry <;> rfl

structure Audited [TrailStore σ] (docId calculated verifiedBy : String) (clock : Clock)
    (store : σ) (outcome : Except LedgerError Verdict) (next : σ) (entry : Option Verification) :
    Prop where
  grows : TrailStore.Grows store entry.toList next
  recorded : ∀ verification, entry = some verification →
    ∃ document, Store.document store docId = .ok (some document) ∧
      Notable document calculated ∧
      Tells document docId calculated verifiedBy clock outcome verification
  complete : TrailStore.Accepts store → ∀ document,
    Store.document store docId = .ok (some document) → Notable document calculated →
      entry.isSome = true
  passes : passes outcome = true ↔
    ∃ document reference, Store.document store docId = .ok (some document) ∧
      document.checksum = some reference ∧ ¬ Text.Blank reference ∧
      Checksum.WellFormed calculated document.algorithmName ∧
      Checksum.normalize calculated = Checksum.normalize reference

section

variable [TrailStore σ]

theorem Judgment.audited {document : Document} {docId calculated verifiedBy : String}
    {clock : Clock} {outcome : Except LedgerError Verdict} {judged entry : Option Verification}
    {store next : σ}
    (hjudgment : Judgment document docId calculated verifiedBy clock outcome judged)
    (hdocument : Store.document store docId = .ok (some document))
    (hgrows : TrailStore.Grows store entry.toList next)
    (hentry : entry = judged ∨ entry = none ∧ ¬ TrailStore.Accepts store) :
    Audited docId calculated verifiedBy clock store outcome next entry where
  grows := hgrows
  recorded := by
    rintro verification rfl
    rcases hentry with rfl | ⟨hnone, _⟩
    · exact ⟨document, hdocument, hjudgment.notable_iff.mp rfl, hjudgment.tells rfl⟩
    · cases hnone
  complete := by
    intro haccepts other hother hnotable
    rw [hdocument, Except.ok.injEq, Option.some.injEq] at hother
    rcases hentry with rfl | ⟨_, hrefuses⟩
    · exact hjudgment.notable_iff.mpr (hother ▸ hnotable)
    · exact absurd haccepts hrefuses
  passes := by
    rw [hjudgment.passes_iff]
    constructor
    · rintro ⟨reference, hpasses⟩
      exact ⟨document, reference, hdocument, hpasses⟩
    · rintro ⟨other, reference, hother, hpasses⟩
      rw [hdocument, Except.ok.injEq, Option.some.injEq] at hother
      exact ⟨reference, hother ▸ hpasses⟩

theorem audited_of_unloaded {docId calculated verifiedBy : String} {clock : Clock} {store : σ}
    {cause : LedgerError} (hload : loadDocument store docId = .error cause) :
    Audited docId calculated verifiedBy clock store (.error cause) store none := by
  have hmissing (document : Document) : Store.document store docId ≠ .ok (some document) := by
    intro hdocument
    rw [loadDocument_eq_ok_iff.mpr hdocument] at hload
    cases hload
  constructor
  · exact TrailStore.grows_nil store
  · intro verification hnone
    cases hnone
  · intro _ document hdocument
    exact absurd hdocument (hmissing document)
  · refine iff_of_false Bool.false_ne_true ?_
    rintro ⟨document, _, hdocument, _⟩
    exact hmissing document hdocument

theorem exists_grows_note (store : σ) (verification : Verification) :
    ∃ entry : Option Verification,
      TrailStore.Grows store entry.toList (note store verification) ∧
      (entry = some verification ∨ entry = none ∧ ¬ TrailStore.Accepts store) := by
  cases hrecord : Store.recordVerification store verification with
  | mk result next =>
      have hnote : note store verification = next := congrArg Prod.snd hrecord
      rw [hnote]
      cases result with
      | ok _ => exact ⟨some verification, TrailStore.record_ok hrecord, .inl rfl⟩
      | error cause =>
          obtain rfl := TrailStore.record_error hrecord
          refine ⟨none, TrailStore.grows_nil next, .inr ⟨rfl, ?_⟩⟩
          intro haccepts
          obtain ⟨_, haccepted⟩ := TrailStore.record_accepted haccepts verification
          rw [hrecord] at haccepted
          cases haccepted

theorem exists_audited_verify (docId calculated verifiedBy : String) (clock : Clock) (store : σ) :
    ∃ entry, Audited docId calculated verifiedBy clock store
      (verify docId calculated verifiedBy clock store).1
      (verify docId calculated verifiedBy clock store).2 entry := by
  cases hload : loadDocument store docId with
  | error cause =>
      simp only [verify, hload]
      exact ⟨none, audited_of_unloaded hload⟩
  | ok document =>
      have hdocument := loadDocument_eq_ok_iff.mp hload
      have hjudgment := judgment document docId calculated verifiedBy clock
      cases hjudge : judge document docId calculated verifiedBy clock with
      | mk outcome judged =>
          rw [hjudge] at hjudgment
          simp only [verify, hload, hjudge]
          cases judged with
          | none =>
              exact ⟨none, hjudgment.audited hdocument (TrailStore.grows_nil store) (.inl rfl)⟩
          | some verification =>
              obtain ⟨entry, hgrows, hentry⟩ := exists_grows_note store verification
              exact ⟨entry, hjudgment.audited hdocument hgrows hentry⟩

theorem grows_verifyRemote (computer : LiveComputer ν) (options : FetchOptions)
    (docId verifiedBy : String) (clock : Clock) (world : World σ ν) :
    ∃ entries, TrailStore.Grows world.store entries
      (verifyRemote computer options docId verifiedBy clock world).2.store := by
  cases hload : loadDocument world.store docId with
  | error cause =>
      simp only [verifyRemote, hload]
      exact ⟨[], TrailStore.grows_nil world.store⟩
  | ok document =>
      cases hlive : liveDigest computer options document docId world.outside with
      | mk live outside =>
          cases live with
          | error cause =>
              simp only [verifyRemote, hload, hlive]
              exact ⟨[], TrailStore.grows_nil world.store⟩
          | ok digest =>
              simp only [verifyRemote, hload, hlive]
              obtain ⟨entry, haudited⟩ :=
                exists_audited_verify docId digest verifiedBy clock world.store
              exact ⟨entry.toList, haudited.grows⟩

end

inductive Attempt (ν : Type) where
  | verify (docId calculated verifiedBy : String) (clock : Clock) (faults : Faults)
  | verifyRemote (computer : LiveComputer ν) (options : FetchOptions) (docId verifiedBy : String)
    (clock : Clock) (faults : Faults)

def attempt (world : World σ ν) : Attempt ν → World σ ν
  | .verify docId calculated verifiedBy clock faults =>
    let (_, faulty) := verify docId calculated verifiedBy clock (faults.around world.store)
    { world with store := faulty.store }
  | .verifyRemote computer options docId verifiedBy clock faults =>
    let (_, faulty) := verifyRemote computer options docId verifiedBy clock
      ⟨faults.around world.store, world.outside⟩
    ⟨faulty.store.store, faulty.outside⟩

def run (world : World σ ν) (attempts : List (Attempt ν)) : World σ ν :=
  attempts.foldl attempt world

theorem grows_attempt [TrailStore σ] (world : World σ ν) (call : Attempt ν) :
    ∃ entries, TrailStore.Grows world.store entries (attempt world call).store := by
  cases call with
  | verify docId calculated verifiedBy clock faults =>
      obtain ⟨entry, haudited⟩ :=
        exists_audited_verify docId calculated verifiedBy clock (faults.around world.store)
      exact ⟨entry.toList, haudited.grows.2⟩
  | verifyRemote computer options docId verifiedBy clock faults =>
      obtain ⟨entries, hgrows⟩ := grows_verifyRemote computer options docId verifiedBy clock
        ⟨faults.around world.store, world.outside⟩
      exact ⟨entries, hgrows.2⟩

theorem grows_run [TrailStore σ] (world : World σ ν) (attempts : List (Attempt ν)) :
    ∃ entries, TrailStore.Grows world.store entries (run world attempts).store := by
  induction attempts generalizing world with
  | nil => exact ⟨[], TrailStore.grows_nil world.store⟩
  | cons call rest ih =>
      obtain ⟨front, hfront⟩ := grows_attempt world call
      obtain ⟨back, hback⟩ := ih (attempt world call)
      exact ⟨front ++ back, TrailStore.grows_append hfront hback⟩

/-- The verdict on a checksum depends on the document alone, the audit trail says what the verdict
was, and neither this nor any later attempt touches what a store held before. -/
theorem verify_audited (docId calculated verifiedBy : String) (clock : Clock) :
    (∀ {σ τ : Type} [Store σ] [Store τ] (store : σ) (other : τ),
      Store.document store docId = Store.document other docId →
        (verify docId calculated verifiedBy clock store).1 =
          (verify docId calculated verifiedBy clock other).1) ∧
    (∀ (faults : Faults) (memory : Memory), ∃ entry,
      let (outcome, next) := verify docId calculated verifiedBy clock (faults.around memory)
      Audited docId calculated verifiedBy clock (faults.around memory) outcome next entry) ∧
    (∀ (faults : Faults) (database : Database), ∃ entry,
      let (outcome, next) := verify docId calculated verifiedBy clock (faults.around database)
      Audited docId calculated verifiedBy clock (faults.around database) outcome next entry) ∧
    (∀ {ν : Type} (memory : Memory) (outside : ν) (attempts : List (Attempt ν)), ∃ entries,
      (run ⟨memory, outside⟩ attempts).store =
        { memory with verifications := memory.verifications ++ entries }) ∧
    ∀ {ν : Type} (database : Database) (outside : ν) (attempts : List (Attempt ν)), ∃ entries,
      database.TrailGrows entries (run ⟨database, outside⟩ attempts).store := by
  refine ⟨?_, ?_, ?_, ?_, ?_⟩
  · exact fun store other hdocument => verify_congr hdocument calculated verifiedBy clock
  · intro faults memory
    exact exists_audited_verify docId calculated verifiedBy clock (faults.around memory)
  · intro faults database
    exact exists_audited_verify docId calculated verifiedBy clock (faults.around database)
  · exact fun memory outside attempts => grows_run ⟨memory, outside⟩ attempts
  · exact fun database outside attempts => grows_run ⟨database, outside⟩ attempts

end ChecksumService

end Signoff
