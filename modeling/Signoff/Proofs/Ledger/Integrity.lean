import Signoff.Fixture
import Signoff.Proofs.Checksum
import Signoff.Proofs.Fetch.Content
import Signoff.Proofs.Ledger.Signing
import Signoff.Proofs.Store.Faithful

namespace Signoff

/-! The check of live content fails closed. It is content that was seen, whole and within all
limits, that lets a strict check pass, and content that was seen that makes it call a document
modified. -/

def Document.digest? (document : Document) (body : List UInt8) : Option String :=
  match Checksum.parseAlgorithm document.algorithmName with
  | .ok algorithm => algorithm.digest? body
  | .error _ => none

theorem Document.agree_digest_iff {document : Document} {body : List UInt8} {digest : String}
    (hdigest : document.digest? body = some digest) (stored : String) :
    Checksum.agree digest stored = true ↔ digest = Checksum.normalize stored := by
  simp only [Document.digest?] at hdigest
  split at hdigest
  · exact Checksum.agree_digest_iff hdigest stored
  · cases hdigest

namespace IntegrityCheck

open Fetch (Obtains)

variable {network : Network} {check : IntegrityCheck} {document : Document}
  {stored source : String} {before : Trace}

theorem liveDigest_eq_some_iff {digest : String} {after : Trace} :
    check.liveDigest (Fetch.computer network) document source before = (some digest, after) ↔
      ∃ body, Obtains network check.fetch source before body after ∧
        document.digest? body = some digest := by
  simp only [liveDigest, Document.digest?]
  cases Checksum.parseAlgorithm document.algorithmName with
  | error cause => simp
  | ok algorithm =>
      have hcompute (body : List UInt8) : Obtains network { check.fetch with algorithm } source
          before body after ↔ Obtains network check.fetch source before body after :=
        Fetch.obtains_withAlgorithm algorithm
      have hcomputer : Fetch.computer network source { check.fetch with algorithm } before =
          (some digest, after) ↔
        Fetch.compute network { check.fetch with algorithm } source before =
          (.ok digest, after) := by
        simp only [Fetch.computer]
        cases Fetch.compute network { check.fetch with algorithm } source before with
        | mk result final => cases result <;> simp [Except.toOption]
      simp only [hcomputer, Fetch.compute_eq_ok_iff, hcompute]

inductive Judged (network : Network) (check : IntegrityCheck) (document : Document)
    (stored source : String) (before : Trace) : Except LedgerError (Option String) → Trace → Prop
  | same {body : List UInt8} {after : Trace}
      (obtains : Obtains network check.fetch source before body after)
      (digest : document.digest? body = some (Checksum.normalize stored)) :
      Judged network check document stored source before (.ok (some stored)) after
  | changed {body : List UInt8} {actual : String} {after : Trace}
      (obtains : Obtains network check.fetch source before body after)
      (digest : document.digest? body = some actual)
      (differs : actual ≠ Checksum.normalize stored) :
      Judged network check document stored source before
        (.error (.modified document.docId stored actual)) after
  | passed {after : Trace} (policy : check.policy = .proceed)
      (unknown : ∀ body after, Obtains network check.fetch source before body after →
        document.digest? body = none) :
      Judged network check document stored source before (.ok (some stored)) after
  | rejected {after : Trace} (policy : check.policy = .reject)
      (unknown : ∀ body after, Obtains network check.fetch source before body after →
        document.digest? body = none) :
      Judged network check document stored source before (.error (.unverifiable document.docId))
        after

theorem judged (network : Network) (check : IntegrityCheck) (before : Trace)
    (hstored : document.reference? = some stored) (hsource : document.source? = some source) :
    let bound := boundChecksum (some check) (Fetch.computer network) document before
    Judged network check document stored source before bound.1 bound.2 := by
  intro bound
  cases hlive : check.liveDigest (Fetch.computer network) document source before with
  | mk live after =>
      have hbound : bound = ((check.judge document.docId stored live).map some, after) := by
        simp only [bound, boundChecksum, hstored, hsource, hlive]
      rw [hbound]
      cases live with
      | some digest =>
          obtain ⟨body, hobtains, hdigest⟩ := liveDigest_eq_some_iff.mp hlive
          have hagree := Document.agree_digest_iff hdigest stored
          by_cases hsame : digest = Checksum.normalize stored
          · rw [judge, if_pos (hagree.mpr hsame)]
            exact .same hobtains (hsame ▸ hdigest)
          · rw [judge, if_neg (mt hagree.mp hsame)]
            exact .changed hobtains hdigest hsame
      | none =>
          -- A body with a digest would have been found.
          have hunknown : ∀ body after, Obtains network check.fetch source before body after →
              document.digest? body = none := by
            intro body other hobtains
            cases hdigest : document.digest? body with
            | none => rfl
            | some digest =>
                have hsome := liveDigest_eq_some_iff.mpr ⟨body, hobtains, hdigest⟩
                rw [hlive] at hsome
                cases hsome
          cases hpolicy : check.policy with
          | proceed =>
              simp only [judge, hpolicy]
              exact .passed hpolicy hunknown
          | reject =>
              simp only [judge, hpolicy]
              exact .rejected hpolicy hunknown

theorem Judged.of_ok {bound : Option String} {after : Trace}
    (hjudged : Judged network check document stored source before (.ok bound) after) :
    bound = some stored ∧
      ((∃ body, Obtains network check.fetch source before body after ∧
          document.digest? body = some (Checksum.normalize stored)) ∨
        check.policy = .proceed ∧ ∀ body after,
          Obtains network check.fetch source before body after → document.digest? body = none) := by
  cases hjudged with
  | same obtains digest => exact ⟨rfl, .inl ⟨_, obtains, digest⟩⟩
  | passed policy unknown => exact ⟨rfl, .inr ⟨policy, unknown⟩⟩

theorem Judged.blocksSigning {cause : LedgerError} {after : Trace}
    (hjudged : Judged network check document stored source before (.error cause) after) :
    cause.blocksSigning = true := by
  cases hjudged <;> rfl

/-- Two bodies that could have been had differ in nothing that the check looks at. -/
theorem digest_unique {body other : List UInt8} {digest another : String} {after final : Trace}
    (hobtains : Obtains network check.fetch source before body after)
    (hdigest : document.digest? body = some digest)
    (hother : Obtains network check.fetch source before other final)
    (hanother : document.digest? other = some another) : digest = another := by
  have hfirst := liveDigest_eq_some_iff.mpr ⟨body, hobtains, hdigest⟩
  have hsecond := liveDigest_eq_some_iff.mpr ⟨other, hother, hanother⟩
  rw [hfirst] at hsecond
  cases hsecond
  rfl

/-- What signing a document with this checksum and address comes to while its content is checked. -/
structure FailClosed {σ : Type} [Store σ] (network : Network) (check : IntegrityCheck)
    (document : Document) (stored source : String) (world : World σ Trace)
    (outcome : Except LedgerError Record × World σ Trace) : Prop where
  /-- A strict check passes only on content that was fetched whole and has the checksum on file. -/
  matched : check.policy = .reject → ∀ record, outcome.1 = .ok record →
    ∃ body, Obtains network check.fetch source world.outside body outcome.2.outside ∧
      document.digest? body = some (Checksum.normalize stored)
  /-- No document is called modified but for content that was fetched whole and differs. -/
  modified : ∀ docId expected actual, outcome.1 = .error (.modified docId expected actual) →
    docId = document.docId ∧ expected = stored ∧ actual ≠ Checksum.normalize stored ∧
      ∃ body, Obtains network check.fetch source world.outside body outcome.2.outside ∧
        document.digest? body = some actual
  /-- Where there is content that differs nothing is signed. -/
  refused : ∀ body after actual, Obtains network check.fetch source world.outside body after →
    document.digest? body = some actual → actual ≠ Checksum.normalize stored →
      ∀ record, outcome.1 ≠ .ok record
  /-- Whatever is signed binds the checksum as it is on file. -/
  verbatim : ∀ record, outcome.1 = .ok record → record.checksum = some stored ∧
    ∀ found, Store.find outcome.2.store record.docId record.user.subject = .ok found →
      found = some record
  /-- A lack of content is no reason to refuse but for a strict check. -/
  unverifiable : ∀ docId, outcome.1 = .error (.unverifiable docId) → check.policy = .reject ∧
    ∀ body after, Obtains network check.fetch source world.outside body after →
      document.digest? body = none
  untouched : ∀ cause, outcome.1 = .error cause → outcome.2.store = world.store

section

variable {σ : Type} [Store σ] {world : World σ Trace}

theorem FailClosed.of_other {cause : LedgerError} {outside : Trace}
    (hcause : cause.blocksSigning = false) :
    FailClosed network check document stored source world
      (.error cause, { world with outside }) where
  matched _ _ := nofun
  modified docId expected actual heq := by
    cases heq
    cases hcause
  refused _ _ _ _ _ _ _ := nofun
  verbatim _ := nofun
  unverifiable docId heq := by
    cases heq
    cases hcause
  untouched _ _ := rfl

theorem FailClosed.of_record [FaithfulStore σ] {draft : Draft} {clock : Clock} {record : Record}
    {next : σ} {outside : Trace}
    (hjudged : Judged network check document stored source world.outside
      (.ok draft.checksum) outside)
    (happend : Store.append world.store draft clock = (.ok record, next)) :
    FailClosed network check document stored source world (.ok record, ⟨next, outside⟩) := by
  obtain ⟨id, rfl⟩ := FaithfulStore.append_ok happend
  obtain ⟨hchecksum, hcontent⟩ := hjudged.of_ok
  constructor
  case matched =>
    intro hpolicy _ _
    rcases hcontent with hobtained | ⟨hproceed, _⟩
    · exact hobtained
    · rw [hpolicy] at hproceed
      cases hproceed
  case modified => exact fun _ _ _ => nofun
  case refused =>
    intro body after actual hobtains hdigest hdiffers
    rcases hcontent with ⟨other, hother, hsame⟩ | ⟨_, hunknown⟩
    · exact absurd (digest_unique hobtains hdigest hother hsame) hdiffers
    · rw [hunknown body after hobtains] at hdigest
      cases hdigest
  case verbatim =>
    intro record hrecord
    cases hrecord
    exact ⟨hchecksum, fun found hfind => FaithfulStore.find_append happend hfind⟩
  case unverifiable => exact fun _ => nofun
  case untouched => exact fun _ => nofun

theorem FailClosed.of_append [FaithfulStore σ] {draft : Draft} {clock : Clock} {outside : Trace}
    (hjudged : Judged network check document stored source world.outside
      (.ok draft.checksum) outside) :
    FailClosed network check document stored source world
      ((Store.append world.store draft clock).1.mapError SigningService.insertionError,
        ⟨(Store.append world.store draft clock).2, outside⟩) := by
  cases happend : Store.append world.store draft clock with
  | mk result next =>
      cases result with
      | error cause =>
          rw [FaithfulStore.append_error happend]
          exact .of_other (SigningService.blocksSigning_insertionError cause)
      | ok record => exact .of_record hjudged happend

end

end IntegrityCheck

namespace SigningService

theorem create_checked {σ : Type} [Store σ] (signer : Signer) (network : Network)
    (check : IntegrityCheck) (request : SigningRequest) (world : World σ Trace)
    {document : Document} {stored source : String}
    (hdocument : lookUp world.store request.docId = some document)
    (hstored : document.reference? = some stored) (hsource : document.source? = some source) :
    let checked : SigningService Trace := ⟨signer, Fetch.computer network, some check⟩
    let unchecked : SigningService Trace := ⟨signer, Fetch.computer network, none⟩
    (∃ cause, (checked.create request world).1 = .error cause ∧ cause.blocksSigning = true) ∨
      SameOutcome (checked.create request world) (unchecked.create request world) := by
  intro checked unchecked
  have hjudged := IntegrityCheck.judged network check world.outside hstored hsource
  cases hbound : boundChecksum (some check) (Fetch.computer network) document world.outside with
  | mk result outside =>
      rw [hbound] at hjudged
      cases result with
      | error cause =>
          have hrefused : checked.checksumToBind (lookUp world.store request.docId)
              world.outside = (.error cause, outside) := by
            rw [hdocument]
            exact hbound
          rcases create_of_refused unchecked hrefused with hcreate | hsame
          · exact .inl ⟨cause, hcreate, hjudged.blocksSigning⟩
          · exact .inr hsame
      | ok checksum =>
          obtain ⟨rfl, _⟩ := hjudged.of_ok
          have hchecked : checked.checksumToBind (lookUp world.store request.docId)
              world.outside = (.ok (some stored), outside) := by
            rw [hdocument]
            exact hbound
          have hunchecked : unchecked.checksumToBind (lookUp world.store request.docId)
              world.outside = (.ok (some stored), world.outside) := by
            rw [hdocument]
            simp only [unchecked, checksumToBind, boundChecksum, hstored, hsource]
          exact .inr (create_of_bound rfl hchecked hunchecked)

def handbookChecksum : String :=
  "B3B4E871 4358CC79 990C5C83 391172E0 1C3E79A1 B456D7E0 C570CBF5 9DA30E23"

def handbookSource : String := "http://[2606:4700::1111]/handbook"

def handbook : Document := ⟨"handbook", some handbookSource, some handbookChecksum, some "sha_256"⟩

def moved : Network where
  resolve _ _ := .ok []
  accepts _ _ := true
  secures _ _ := true
  reply trace _ :=
    if trace.requests.isEmpty then .response
      { status := 301
        headers := [("Location", "//[2606:4700::1111]/moved".toUTF8.toList)]
        framing := .untilClose
        chunks := []
        ending := .finished }
    else .response
      { status := 200
        headers := [("Content-Type", "application/pdf".toUTF8.toList)]
        framing := .chunked
        chunks := ["Sample PDF ".toUTF8.toList, "content".toUTF8.toList]
        ending := .finished }

def strictCheck : IntegrityCheck := ⟨{ Fixture.localOptions with algorithm := .sha512 }, .reject⟩

def strictService : SigningService Trace :=
  ⟨Ed25519.SigningKey.signer ⟨.replicate 32 7⟩, Fetch.computer moved, some strictCheck⟩

def handbookRequest : SigningRequest :=
  ⟨some (Fixture.user 1), "handbook", none, .ok (.replicate 32 1), ⟨1736870400000⟩,
    ⟨1736870400001⟩⟩

def handbookWorld : World Memory Trace := ⟨Memory.empty.putDocument handbook, []⟩

theorem reference?_handbook : handbook.reference? = some handbookChecksum := by
  decide +kernel

theorem source?_handbook : handbook.source? = some handbookSource := by
  decide +kernel

theorem checksum_create_handbook :
    (strictService.create handbookRequest handbookWorld).1.toOption.map (·.checksum) =
      some (some handbookChecksum) := by
  decide +kernel

end SigningService

end Signoff
