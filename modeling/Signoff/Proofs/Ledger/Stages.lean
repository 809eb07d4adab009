import Signoff.Proofs.Ledger.Signing

namespace Signoff

/-! The stages that a request to sign passes. Each may refuse it for reasons of its own, and the
first that does gives the answer. -/

inductive Stage where
  | identity
  | docId
  | existing
  | duplicate
  | nonce
  | integrity
  | signature
  | head
  | insertion
deriving DecidableEq, Repr

namespace Stage

def place : Stage → Nat
  | identity => 0
  | docId => 1
  | existing => 2
  | duplicate => 3
  | nonce => 4
  | integrity => 5
  | signature => 6
  | head => 7
  | insertion => 8

theorem place_inj {left right : Stage} (hplace : left.place = right.place) : left = right := by
  cases left <;> cases right <;> simp_all [place]

theorem place_le_insertion (stage : Stage) : stage.place ≤ insertion.place := by
  cases stage <;> decide

end Stage

namespace SigningService

variable {σ ν : Type} [Store σ]

structure Checks (service : SigningService ν) (request : SigningRequest) (world : World σ ν)
    (document : Document) (stored source : String) (check : IntegrityCheck) : Prop where
  onFile : Store.document world.store request.docId = .ok (some document)
  reference : document.reference? = some stored
  address : document.source? = some source
  asked : service.check = some check

structure States (service : SigningService ν) (request : SigningRequest) (world : World σ ν)
    (statement : Statement) : Prop where
  docId : statement.docId = request.docId
  user : request.user = some statement.user
  signedAt : statement.signedAt = request.clock.now
  nonce : request.nonce = .ok statement.nonce
  checksum : (service.checksumToBind (lookUp world.store request.docId) world.outside).1 =
    .ok statement.checksum

structure Offers (service : SigningService ν) (request : SigningRequest) (world : World σ ν)
    (draft : Draft) : Prop where
  states : States service request world draft.statement
  signed : service.signer.sign draft.statement = .ok ⟨draft.payloadHash, draft.signature⟩
  referer : draft.referer = request.referer
  linked : ∃ last, Store.last world.store request.docId = .ok last ∧
    draft.previous = last.map (·.linkHash)
  version : draft.version = Draft.currentVersion

/-- What a stage has against a request, whatever the others may have against it. A document that
cannot be looked up is no reason to refuse. -/
inductive Refuses (service : SigningService ν) (request : SigningRequest) (world : World σ ν) :
    Stage → LedgerError → Prop
  | identity (invalid : ∀ user, request.user = some user → ¬ user.Valid) :
      Refuses service request world .identity .invalidUser
  | docId (blank : Text.Blank request.docId) :
      Refuses service request world .docId .invalidDocument
  | existing {user : User} {cause : StoreError} (identified : request.user = some user)
      (unread : Store.contains world.store request.docId user.subject = .error cause) :
      Refuses service request world .existing (.store .checkExisting cause)
  | duplicate {user : User} (identified : request.user = some user)
      (found : Store.contains world.store request.docId user.subject = .ok true) :
      Refuses service request world .duplicate (.alreadySigned request.docId user.subject)
  | nonce {cause : String} (undrawn : request.nonce = .error cause) :
      Refuses service request world .nonce (.nonce (.nonceSource cause))
  | modified {document : Document} {stored source live : String} {check : IntegrityCheck}
      (checks : Checks service request world document stored source check)
      (found : (check.liveDigest service.computer document source world.outside).1 = some live)
      (differs : ¬ Checksum.agree live stored = true) :
      Refuses service request world .integrity (.modified document.docId stored live)
  | unverifiable {document : Document} {stored source : String} {check : IntegrityCheck}
      (checks : Checks service request world document stored source check)
      (unknown : (check.liveDigest service.computer document source world.outside).1 = none)
      (policy : check.policy = .reject) :
      Refuses service request world .integrity (.unverifiable document.docId)
  | signature {statement : Statement} {cause : CryptoError}
      (states : States service request world statement)
      (unsigned : service.signer.sign statement = .error cause) :
      Refuses service request world .signature (.crypto cause)
  | head {cause : StoreError} (unread : Store.last world.store request.docId = .error cause) :
      Refuses service request world .head (.store .loadHead cause)
  | overtaken {draft : Draft} {docId subject : String} (offers : Offers service request world draft)
      (unstored : (Store.append world.store draft request.storing).1 =
        .error (.duplicate docId subject)) :
      Refuses service request world .insertion (.alreadySigned docId subject)
  | insertion {draft : Draft} {cause : StoreError} (offers : Offers service request world draft)
      (unstored : (Store.append world.store draft request.storing).1 = .error cause)
      (other : ∀ docId subject, cause ≠ .duplicate docId subject) :
      Refuses service request world .insertion (.store .persist cause)

def Passes (service : SigningService ν) (request : SigningRequest) (world : World σ ν)
    (stage : Stage) : Prop :=
  ∀ cause, ¬ Refuses service request world stage cause

def Reaches (service : SigningService ν) (request : SigningRequest) (world : World σ ν)
    (stage : Stage) : Prop :=
  ∀ earlier : Stage, earlier.place < stage.place → Passes service request world earlier

/-- The first stage that refuses a request does so for this cause. -/
def Refused (service : SigningService ν) (request : SigningRequest) (world : World σ ν)
    (cause : LedgerError) : Prop :=
  ∃ stage, Reaches service request world stage ∧ Refuses service request world stage cause

variable {service : SigningService ν} {request : SigningRequest} {world : World σ ν}

theorem States.unique {left right : Statement} (hleft : States service request world left)
    (hright : States service request world right) : left = right := by
  have huser := hleft.user.symm.trans hright.user
  have hnonce := hleft.nonce.symm.trans hright.nonce
  have hchecksum := hleft.checksum.symm.trans hright.checksum
  cases left
  cases right
  simp only [Option.some.injEq, Except.ok.injEq] at huser hnonce hchecksum
  simp only [Statement.mk.injEq]
  exact ⟨hleft.docId.trans hright.docId.symm, huser, hleft.signedAt.trans hright.signedAt.symm,
    hnonce, hchecksum⟩

theorem Offers.unique {left right : Draft} (hleft : Offers service request world left)
    (hright : Offers service request world right) : left = right := by
  have hstatement := hleft.states.unique hright.states
  have hsigned := hleft.signed
  rw [hstatement, hright.signed, Except.ok.injEq, SignedStatement.mk.injEq] at hsigned
  obtain ⟨last, hlast, hprevious⟩ := hleft.linked
  obtain ⟨other, hother, hpreviousOther⟩ := hright.linked
  rw [hlast, Except.ok.injEq] at hother
  have hreferer := hleft.referer.trans hright.referer.symm
  have hversion := hleft.version.trans hright.version.symm
  cases left
  cases right
  simp only [Draft.statement, Statement.mk.injEq] at hstatement
  simp_all

theorem Checks.unique {document other : Document} {stored storedOther source sourceOther : String}
    {check checkOther : IntegrityCheck}
    (hchecks : Checks service request world document stored source check)
    (hother : Checks service request world other storedOther sourceOther checkOther) :
    document = other ∧ stored = storedOther ∧ source = sourceOther ∧ check = checkOther := by
  have hdocument := hchecks.onFile.symm.trans hother.onFile
  rw [Except.ok.injEq, Option.some.injEq] at hdocument
  subst hdocument
  refine ⟨rfl, ?_, ?_, ?_⟩
  · exact Option.some.inj (hchecks.reference.symm.trans hother.reference)
  · exact Option.some.inj (hchecks.address.symm.trans hother.address)
  · exact Option.some.inj (hchecks.asked.symm.trans hother.asked)

theorem Refuses.unique {stage : Stage} {cause other : LedgerError}
    (hcause : Refuses service request world stage cause)
    (hother : Refuses service request world stage other) : cause = other := by
  cases hcause with
  | identity => cases hother; rfl
  | docId => cases hother; rfl
  | existing identified unread =>
      cases hother with
      | existing identifiedOther unreadOther =>
          rw [identified, Option.some.injEq] at identifiedOther
          subst identifiedOther
          rw [unread, Except.error.injEq] at unreadOther
          rw [unreadOther]
  | duplicate identified =>
      cases hother with
      | duplicate identifiedOther =>
          rw [identified, Option.some.injEq] at identifiedOther
          rw [identifiedOther]
  | nonce undrawn =>
      cases hother with
      | nonce undrawnOther =>
          rw [undrawn, Except.error.injEq] at undrawnOther
          rw [undrawnOther]
  | modified checks found =>
      cases hother with
      | modified checksOther foundOther =>
          obtain ⟨rfl, rfl, rfl, rfl⟩ := checks.unique checksOther
          rw [found, Option.some.injEq] at foundOther
          rw [foundOther]
      | unverifiable checksOther unknown =>
          obtain ⟨rfl, rfl, rfl, rfl⟩ := checks.unique checksOther
          rw [found] at unknown
          cases unknown
  | unverifiable checks unknown =>
      cases hother with
      | modified checksOther found =>
          obtain ⟨rfl, rfl, rfl, rfl⟩ := checks.unique checksOther
          rw [found] at unknown
          cases unknown
      | unverifiable checksOther =>
          obtain ⟨rfl, rfl, rfl, rfl⟩ := checks.unique checksOther
          rfl
  | signature states unsigned =>
      cases hother with
      | signature statesOther unsignedOther =>
          obtain rfl := states.unique statesOther
          rw [unsigned, Except.error.injEq] at unsignedOther
          rw [unsignedOther]
  | head unread =>
      cases hother with
      | head unreadOther =>
          rw [unread, Except.error.injEq] at unreadOther
          rw [unreadOther]
  | overtaken offers unstored =>
      cases hother with
      | overtaken offersOther unstoredOther =>
          obtain rfl := offers.unique offersOther
          rw [unstored, Except.error.injEq, StoreError.duplicate.injEq] at unstoredOther
          rw [unstoredOther.1, unstoredOther.2]
      | insertion offersOther unstoredOther other =>
          obtain rfl := offers.unique offersOther
          rw [unstored, Except.error.injEq] at unstoredOther
          exact absurd unstoredOther.symm (other _ _)
  | insertion offers unstored other =>
      cases hother with
      | overtaken offersOther unstoredOther =>
          obtain rfl := offers.unique offersOther
          rw [unstored, Except.error.injEq] at unstoredOther
          exact absurd unstoredOther (other _ _)
      | insertion offersOther unstoredOther =>
          obtain rfl := offers.unique offersOther
          rw [unstored, Except.error.injEq] at unstoredOther
          rw [unstoredOther]

theorem Refused.unique {cause other : LedgerError} (hcause : Refused service request world cause)
    (hother : Refused service request world other) : cause = other := by
  obtain ⟨stage, hreaches, hrefuses⟩ := hcause
  obtain ⟨second, hreachesSecond, hrefusesSecond⟩ := hother
  rcases Nat.lt_trichotomy stage.place second.place with hbefore | hsame | hafter
  · exact absurd hrefuses (hreachesSecond stage hbefore cause)
  · obtain rfl := Stage.place_inj hsame
    exact hrefuses.unique hrefusesSecond
  · exact absurd hrefusesSecond (hreaches second hafter other)

theorem reaches_identity : Reaches service request world .identity :=
  fun _ hearlier => absurd hearlier (Nat.not_lt_zero _)

theorem Reaches.next {stage following : Stage} (hreaches : Reaches service request world stage)
    (hpasses : Passes service request world stage) (hplace : following.place = stage.place + 1) :
    Reaches service request world following := by
  intro earlier hearlier
  rcases Nat.lt_or_eq_of_le (Nat.le_of_lt_succ (hplace ▸ hearlier)) with hbefore | hsame
  · exact hreaches earlier hbefore
  · exact Stage.place_inj hsame ▸ hpasses

theorem passes_identity {user : User} (huser : request.user = some user) (hvalid : user.Valid) :
    Passes service request world .identity := by
  intro _ hrefuses
  cases hrefuses with
  | identity invalid => exact invalid user huser hvalid

theorem passes_docId (hdocId : ¬ Text.Blank request.docId) :
    Passes service request world .docId := by
  intro _ hrefuses
  cases hrefuses with
  | docId blank => exact hdocId blank

theorem passes_existing {user : User} {found : Bool} (huser : request.user = some user)
    (hcontains : Store.contains world.store request.docId user.subject = .ok found) :
    Passes service request world .existing := by
  intro _ hrefuses
  cases hrefuses with
  | existing identified unread =>
      rw [huser, Option.some.injEq] at identified
      rw [← identified, hcontains] at unread
      cases unread

theorem passes_duplicate {user : User} (huser : request.user = some user)
    (hcontains : Store.contains world.store request.docId user.subject = .ok false) :
    Passes service request world .duplicate := by
  intro _ hrefuses
  cases hrefuses with
  | duplicate identified found =>
      rw [huser, Option.some.injEq] at identified
      rw [← identified, hcontains] at found
      cases found

theorem passes_nonce {nonce : Nonce} (hnonce : request.nonce = .ok nonce) :
    Passes service request world .nonce := by
  intro _ hrefuses
  cases hrefuses with
  | nonce undrawn =>
      rw [hnonce] at undrawn
      cases undrawn

theorem accept_staged (service : SigningService ν) (request : SigningRequest)
    (world : World σ ν) :
    match accept request world.store with
    | .error cause => ∃ stage : Stage, stage.place < Stage.integrity.place ∧
        Reaches service request world stage ∧ Refuses service request world stage cause
    | .ok (user, nonce) => request.user = some user ∧ request.nonce = .ok nonce ∧
        Reaches service request world .integrity := by
  by_cases hidentity : ∃ user, request.user = some user ∧ user.Valid
  case neg =>
    have hnone : request.user.filter (fun user => user.Valid) = none := by
      rw [Option.filter_eq_none_iff]
      intro user huser hvalid
      exact hidentity ⟨user, huser, of_decide_eq_true hvalid⟩
    have haccept : accept request world.store = .error .invalidUser := by
      simp only [accept, hnone]
      rfl
    rw [haccept]
    refine ⟨.identity, by decide, reaches_identity, .identity ?_⟩
    exact fun user huser hvalid => hidentity ⟨user, huser, hvalid⟩
  obtain ⟨user, huser, hvalid⟩ := hidentity
  -- Each stage that lets the request pass puts the next one within its reach.
  have hsome : request.user.filter (fun user => user.Valid) = some user := by
    simp [huser, hvalid]
  have hdocId : Reaches service request world .docId :=
    reaches_identity.next (passes_identity huser hvalid) rfl
  by_cases hblank : Text.Blank request.docId
  case pos =>
    have haccept : accept request world.store = .error .invalidDocument := by
      simp only [accept, hsome, if_pos hblank]
      rfl
    rw [haccept]
    exact ⟨.docId, by decide, hdocId, .docId hblank⟩
  have hexisting : Reaches service request world .existing := hdocId.next (passes_docId hblank) rfl
  cases hcontains : Store.contains world.store request.docId user.subject with
  | error cause =>
      have haccept : accept request world.store = .error (.store .checkExisting cause) := by
        simp only [accept, hsome, if_neg hblank, hcontains]
        rfl
      rw [haccept]
      exact ⟨.existing, by decide, hexisting, .existing huser hcontains⟩
  | ok found =>
      have hduplicate : Reaches service request world .duplicate :=
        hexisting.next (passes_existing huser hcontains) rfl
      cases found with
      | true =>
          have haccept : accept request world.store =
              .error (.alreadySigned request.docId user.subject) := by
            simp only [accept, hsome, if_neg hblank, hcontains]
            rfl
          rw [haccept]
          exact ⟨.duplicate, by decide, hduplicate, .duplicate huser hcontains⟩
      | false =>
          have hnonce : Reaches service request world .nonce :=
            hduplicate.next (passes_duplicate huser hcontains) rfl
          cases hdraw : request.nonce with
          | error cause =>
              have haccept : accept request world.store = .error (.nonce (.nonceSource cause)) := by
                simp only [accept, hsome, if_neg hblank, hcontains, hdraw]
                rfl
              rw [haccept]
              exact ⟨.nonce, by decide, hnonce, .nonce hdraw⟩
          | ok nonce =>
              have haccept : accept request world.store = .ok (user, nonce) := by
                simp only [accept, hsome, if_neg hblank, hcontains, hdraw]
                rfl
              rw [haccept]
              exact ⟨huser, rfl, hnonce.next (passes_nonce hdraw) rfl⟩

theorem lookUp_eq_some_iff {store : σ} {docId : String} {document : Document} :
    lookUp store docId = some document ↔ Store.document store docId = .ok (some document) := by
  simp only [lookUp]
  cases Store.document store docId <;> simp

theorem checksumToBind_of_checks {document : Document} {stored source : String}
    {check : IntegrityCheck} (hchecks : Checks service request world document stored source check) :
    let live := check.liveDigest service.computer document source world.outside
    service.checksumToBind (lookUp world.store request.docId) world.outside =
      ((check.judge document.docId stored live.1).map some, live.2) := by
  intro live
  simp only [lookUp_eq_some_iff.mpr hchecks.onFile, checksumToBind, boundChecksum,
    hchecks.reference, hchecks.address, hchecks.asked, live]

theorem checksumToBind_of_skips (hskips : ∀ document stored source check,
      ¬ Checks service request world document stored source check) :
    ∃ checksum, ∀ {μ : Type} (other : SigningService μ) (outside : μ),
      other.check = service.check →
        other.checksumToBind (lookUp world.store request.docId) outside =
          (.ok checksum, outside) := by
  cases hlookUp : lookUp world.store request.docId with
  | none => exact ⟨none, fun _ _ _ => rfl⟩
  | some document =>
      cases hstored : document.reference? with
      | none =>
          exact ⟨none, fun other outside _ => by simp [checksumToBind, boundChecksum, hstored]⟩
      | some stored =>
          refine ⟨some stored, fun other outside hcheck => ?_⟩
          cases hsource : document.source? with
          | none => simp [checksumToBind, boundChecksum, hstored, hsource]
          | some source =>
              cases hasked : service.check with
              | none => simp [checksumToBind, boundChecksum, hstored, hsource, hcheck, hasked]
              | some check =>
                  exact absurd ⟨lookUp_eq_some_iff.mp hlookUp, hstored, hsource, hasked⟩
                    (hskips document stored source check)

/-- The check of live content is all that stands between the nonce and the signature. -/
theorem refuses_integrity_iff {cause : LedgerError} :
    Refuses service request world .integrity cause ↔
      (service.checksumToBind (lookUp world.store request.docId) world.outside).1 =
        .error cause := by
  constructor
  · intro hrefuses
    cases hrefuses with
    | modified checks found differs =>
        simp [checksumToBind_of_checks checks, IntegrityCheck.judge, found, differs, Except.map]
    | unverifiable checks unknown policy =>
        simp [checksumToBind_of_checks checks, IntegrityCheck.judge, unknown, policy, Except.map]
  · intro hbound
    by_cases hchecks : ∃ document stored source check,
        Checks service request world document stored source check
    · obtain ⟨document, stored, source, check, hchecks⟩ := hchecks
      rw [checksumToBind_of_checks hchecks] at hbound
      cases hlive : (check.liveDigest service.computer document source world.outside).1 with
      | none =>
          cases hpolicy : check.policy with
          | proceed => simp [IntegrityCheck.judge, hlive, hpolicy, Except.map] at hbound
          | reject =>
              simp only [IntegrityCheck.judge, hlive, hpolicy, Except.map, Except.error.injEq]
                at hbound
              exact hbound ▸ .unverifiable hchecks hlive hpolicy
      | some live =>
          by_cases hagree : Checksum.agree live stored = true
          · simp [IntegrityCheck.judge, hlive, hagree, Except.map] at hbound
          · simp only [IntegrityCheck.judge, hlive, if_neg hagree, Except.map, Except.error.injEq]
              at hbound
            exact hbound ▸ .modified hchecks hlive hagree
    · have hskips : ∀ document stored source check,
          ¬ Checks service request world document stored source check :=
        fun document stored source check hcheck =>
          hchecks ⟨document, stored, source, check, hcheck⟩
      obtain ⟨checksum, hnothing⟩ := checksumToBind_of_skips hskips
      rw [hnothing service world.outside rfl] at hbound
      cases hbound

theorem passes_integrity_iff :
    Passes service request world .integrity ↔ ∃ checksum,
      (service.checksumToBind (lookUp world.store request.docId) world.outside).1 =
        .ok checksum := by
  simp only [Passes, refuses_integrity_iff]
  cases (service.checksumToBind (lookUp world.store request.docId) world.outside).1 <;> simp

theorem passes_signature {statement : Statement} {signed : SignedStatement}
    (hstates : States service request world statement)
    (hsign : service.signer.sign statement = .ok signed) :
    Passes service request world .signature := by
  intro _ hrefuses
  cases hrefuses with
  | signature states unsigned =>
      rw [← hstates.unique states, hsign] at unsigned
      cases unsigned

theorem passes_head {last : Option Record}
    (hlast : Store.last world.store request.docId = .ok last) :
    Passes service request world .head := by
  intro _ hrefuses
  cases hrefuses with
  | head unread =>
      rw [hlast] at unread
      cases unread

theorem passes_insertion {draft : Draft} {record : Record}
    (hoffers : Offers service request world draft)
    (happend : (Store.append world.store draft request.storing).1 = .ok record) :
    Passes service request world .insertion := by
  intro _ hrefuses
  cases hrefuses with
  | overtaken offers unstored =>
      rw [← hoffers.unique offers, happend] at unstored
      cases unstored
  | insertion offers unstored =>
      rw [← hoffers.unique offers, happend] at unstored
      cases unstored

theorem draft_staged {statement : Statement}
    (hreaches : Reaches service request world .signature)
    (hstates : States service request world statement) :
    match service.draft request statement.user statement.nonce statement.checksum world.store with
    | .error cause => Refused service request world cause
    | .ok draft => Reaches service request world .insertion ∧
        Offers service request world draft := by
  have hstatement : (⟨request.docId, statement.user, request.clock.now, statement.nonce,
      statement.checksum⟩ : Statement) = statement := by
    rw [← hstates.docId, ← hstates.signedAt]
  simp only [draft, hstatement]
  cases hsign : service.signer.sign statement with
  | error cause => exact ⟨.signature, hreaches, .signature hstates hsign⟩
  | ok signed =>
      have hhead : Reaches service request world .head :=
        hreaches.next (passes_signature hstates hsign) rfl
      cases hlast : Store.last world.store request.docId with
      | error cause => exact ⟨.head, hhead, .head hlast⟩
      | ok last =>
          exact ⟨hhead.next (passes_head hlast) rfl, hstates, hsign, rfl, ⟨last, hlast, rfl⟩, rfl⟩

/-- What a request comes to: the first stage that has something against it tells what, or the
store has taken its draft. -/
inductive Staged (service : SigningService ν) (request : SigningRequest) (world : World σ ν) :
    Except LedgerError Record → σ → Prop
  | refused {cause : LedgerError} (refused : Refused service request world cause) :
      Staged service request world (.error cause) world.store
  | unstored {cause : LedgerError} {failure : StoreError} {draft : Draft} {next : σ}
      (refused : Refused service request world cause)
      (append : Store.append world.store draft request.storing = (.error failure, next)) :
      Staged service request world (.error cause) next
  | stored {record : Record} {draft : Draft} {next : σ}
      (passes : ∀ stage, Passes service request world stage)
      (offers : Offers service request world draft)
      (append : Store.append world.store draft request.storing = (.ok record, next)) :
      Staged service request world (.ok record) next

theorem append_staged {draft : Draft} (hreaches : Reaches service request world .insertion)
    (hoffers : Offers service request world draft) :
    Staged service request world
      ((Store.append world.store draft request.storing).1.mapError insertionError)
      (Store.append world.store draft request.storing).2 := by
  cases happend : Store.append world.store draft request.storing with
  | mk result next =>
      have hresult : (Store.append world.store draft request.storing).1 = result := by rw [happend]
      cases result with
      | error cause =>
          refine .unstored ⟨.insertion, hreaches, ?_⟩ happend
          cases cause with
          | duplicate docId subject => exact .overtaken hoffers hresult
          | _ => exact .insertion hoffers hresult nofun
      | ok record =>
          -- What lies before the insertion has been passed on the way there.
          refine .stored (fun stage => ?_) hoffers happend
          rcases Nat.lt_or_eq_of_le stage.place_le_insertion with hbefore | hlast
          · exact hreaches stage hbefore
          · obtain rfl := Stage.place_inj hlast
            exact passes_insertion hoffers hresult

theorem create_staged (service : SigningService ν) (request : SigningRequest)
    (world : World σ ν) :
    Staged service request world (service.create request world).1
      (service.create request world).2.store := by
  have hstaged := accept_staged service request world
  cases haccept : accept request world.store with
  | error cause =>
      rw [haccept] at hstaged
      obtain ⟨stage, _, hreaches, hrefuses⟩ := hstaged
      simp only [create, haccept]
      exact .refused ⟨stage, hreaches, hrefuses⟩
  | ok accepted =>
      obtain ⟨user, nonce⟩ := accepted
      rw [haccept] at hstaged
      obtain ⟨huser, hnonce, hintegrity⟩ := hstaged
      cases hbound :
          (service.checksumToBind (lookUp world.store request.docId) world.outside).1 with
      | error cause =>
          simp only [create, haccept, hbound]
          exact .refused ⟨.integrity, hintegrity, refuses_integrity_iff.mpr hbound⟩
      | ok checksum =>
          have hsignature : Reaches service request world .signature :=
            hintegrity.next (passes_integrity_iff.mpr ⟨checksum, hbound⟩) rfl
          have hstates : States service request world
              ⟨request.docId, user, request.clock.now, nonce, checksum⟩ :=
            ⟨rfl, huser, rfl, hnonce, hbound⟩
          have hdrafted := draft_staged hsignature hstates
          cases hdraft : service.draft request user nonce checksum world.store with
          | error cause =>
              rw [hdraft] at hdrafted
              simp only [create, haccept, hbound, hdraft]
              exact .refused hdrafted
          | ok draft =>
              rw [hdraft] at hdrafted
              obtain ⟨hinsertion, hoffers⟩ := hdrafted
              simp only [create, haccept, hbound, hdraft]
              exact append_staged hinsertion hoffers

/-- The answer tells the first stage that has something against a request, and nothing else keeps a
request from being granted. -/
theorem create_refused_iff {cause : LedgerError} :
    (service.create request world).1 = .error cause ↔ Refused service request world cause := by
  have hstaged := create_staged service request world
  generalize (service.create request world).1 = result,
    (service.create request world).2.store = next at hstaged ⊢
  cases hstaged with
  | refused refused =>
      exact ⟨fun heq => Except.error.inj heq ▸ refused, fun hcause => by rw [refused.unique hcause]⟩
  | unstored refused =>
      exact ⟨fun heq => Except.error.inj heq ▸ refused, fun hcause => by rw [refused.unique hcause]⟩
  | stored passes =>
      refine ⟨nofun, ?_⟩
      rintro ⟨stage, _, hrefuses⟩
      exact absurd hrefuses (passes stage cause)

end SigningService

end Signoff
