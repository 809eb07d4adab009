import Signoff.Proofs.Ledger.Stages
import Signoff.Proofs.Store.Faithful

namespace Signoff

/-! Signing is all or nothing. A request that is refused leaves no trace, one that is granted adds
its record and nothing else, and content is looked at once at most and for no request that an
earlier stage refuses. -/

/-- A computer that keeps a list of what it is asked for. -/
def LiveComputer.recording {ν : Type} (computer : LiveComputer ν) :
    LiveComputer (ν × List (String × FetchOptions)) := fun url options outside =>
  let (live, after) := computer url options outside.1
  (live, after, outside.2 ++ [(url, options)])

namespace SigningService

variable {σ ν : Type} [Store σ] {service : SigningService ν} {request : SigningRequest}
  {world : World σ ν}

def recording (service : SigningService ν) : SigningService (ν × List (String × FetchOptions)) :=
  ⟨service.signer, service.computer.recording, service.check⟩

def Asks (service : SigningService ν) (request : SigningRequest) (world : World σ ν)
    (url : String) (options : FetchOptions) : Prop :=
  ∃ document stored check algorithm, Checks service request world document stored url check ∧
    Checksum.parseAlgorithm document.algorithmName = .ok algorithm ∧
    options = { check.fetch with algorithm }

/-- The computer is asked on behalf of requests alone that nothing stands in the way of so far. -/
def Consults (service : SigningService ν) (request : SigningRequest) (world : World σ ν)
    (url : String) (options : FetchOptions) : Prop :=
  Reaches service request world .integrity ∧ Asks service request world url options

structure MadeOnce (calls : List (String × FetchOptions)) (wanted : String → FetchOptions → Prop) :
    Prop where
  length_le : calls.length ≤ 1
  mem_iff : ∀ url options, (url, options) ∈ calls ↔ wanted url options

theorem madeOnce_nil {wanted : String → FetchOptions → Prop}
    (hnone : ∀ url options, ¬ wanted url options) : MadeOnce [] wanted where
  length_le := Nat.zero_le 1
  mem_iff url options := by simp [hnone]

theorem checksumToBind_recording (service : SigningService ν) (request : SigningRequest)
    (world : World σ ν) :
    ∃ calls, MadeOnce calls (Asks service request world) ∧ ∀ log,
      let bound := service.checksumToBind (lookUp world.store request.docId) world.outside
      service.recording.checksumToBind (lookUp world.store request.docId) (world.outside, log) =
        (bound.1, bound.2, log ++ calls) := by
  by_cases hchecks : ∃ document stored source check,
      Checks service request world document stored source check
  · obtain ⟨document, stored, source, check, hchecks⟩ := hchecks
    -- What is checked does not depend on who computes the digest.
    have hrecorded (log : List (String × FetchOptions)) : Checks service.recording request
        ⟨world.store, (world.outside, log)⟩ document stored source check :=
      ⟨hchecks.onFile, hchecks.reference, hchecks.address, hchecks.asked⟩
    cases hparse : Checksum.parseAlgorithm document.algorithmName with
    | error cause =>
        refine ⟨[], madeOnce_nil ?_, fun log => ?_⟩
        · rintro url options ⟨other, _, _, algorithm, hother, hknown, _⟩
          rw [← (hchecks.unique hother).1, hparse] at hknown
          cases hknown
        · simp [checksumToBind_of_checks hchecks, checksumToBind_of_checks (hrecorded log),
            IntegrityCheck.liveDigest, hparse]
    | ok algorithm =>
        refine ⟨[(source, { check.fetch with algorithm })], ⟨Nat.le_refl 1, ?_⟩, fun log => ?_⟩
        · intro url options
          rw [List.mem_singleton, Prod.mk.injEq]
          constructor
          · rintro ⟨rfl, rfl⟩
            exact ⟨document, stored, check, algorithm, hchecks, hparse, rfl⟩
          · rintro ⟨other, _, _, known, hother, hknown, rfl⟩
            obtain ⟨rfl, _, rfl, rfl⟩ := hchecks.unique hother
            rw [hparse, Except.ok.injEq] at hknown
            rw [hknown]
            exact ⟨rfl, rfl⟩
        · simp only [checksumToBind_of_checks hchecks, checksumToBind_of_checks (hrecorded log)]
          simp [IntegrityCheck.liveDigest, hparse, recording, LiveComputer.recording]
  · have hskips : ∀ document stored source check,
        ¬ Checks service request world document stored source check :=
      fun document stored source check hcheck => hchecks ⟨document, stored, source, check, hcheck⟩
    obtain ⟨checksum, hbound⟩ := checksumToBind_of_skips hskips
    refine ⟨[], madeOnce_nil ?_, fun log => ?_⟩
    · rintro url options ⟨document, stored, check, _, hcheck, _⟩
      exact hskips document stored url check hcheck
    · rw [hbound service world.outside rfl, hbound service.recording (world.outside, log) rfl]
      simp

theorem create_recording (service : SigningService ν) (request : SigningRequest)
    (world : World σ ν) :
    ∃ calls, MadeOnce calls (Consults service request world) ∧ ∀ log,
      let outcome := service.create request world
      service.recording.create request ⟨world.store, (world.outside, log)⟩ =
        (outcome.1, ⟨outcome.2.store, (outcome.2.outside, log ++ calls)⟩) := by
  have hstaged := accept_staged service request world
  cases haccept : accept request world.store with
  | error cause =>
      rw [haccept] at hstaged
      obtain ⟨stage, hbefore, _, hrefuses⟩ := hstaged
      refine ⟨[], madeOnce_nil ?_, fun log => ?_⟩
      · rintro url options ⟨hreaches, _⟩
        exact hreaches stage hbefore cause hrefuses
      · simp [create, haccept]
  | ok accepted =>
      obtain ⟨user, nonce⟩ := accepted
      rw [haccept] at hstaged
      obtain ⟨_, _, hreaches⟩ := hstaged
      obtain ⟨calls, honce, hbound⟩ := checksumToBind_recording service request world
      refine ⟨calls, ⟨honce.length_le, fun url options => ?_⟩, fun log => ?_⟩
      · rw [honce.mem_iff]
        exact ⟨fun hasks => ⟨hreaches, hasks⟩, And.right⟩
      · cases hchecksum :
            (service.checksumToBind (lookUp world.store request.docId) world.outside).1 with
        | error cause => simp [create, haccept, hbound log, hchecksum]
        | ok checksum =>
            have hsame : service.recording.draft request user nonce checksum world.store =
              service.draft request user nonce checksum world.store := rfl
            cases hdraft : service.draft request user nonce checksum world.store <;>
              simp [create, haccept, hbound log, hchecksum, hsame, hdraft]

/-- What is to be expected of a request, whatever may fail it. -/
structure Atomic (service : SigningService ν) (request : SigningRequest)
    (world : World (Faulty σ) ν) (Gains : σ → Record → σ → Prop) : Prop where
  /-- The answer is that of the first stage that refuses. -/
  refused : ∀ cause, (service.create request world).1 = .error cause ↔
    Refused service request world cause
  unchanged : ∀ cause, (service.create request world).1 = .error cause →
    (service.create request world).2.store = world.store
  gained : ∀ record, (service.create request world).1 = .ok record →
    ∃ next, (service.create request world).2.store = { world.store with store := next } ∧
      Gains world.store.store record next
  carries : ∀ record, (service.create request world).1 = .ok record →
    Offers service request world record.toDraft ∧ record.createdAt = request.storing.now
  /-- A document that cannot be looked up is signed as one that is not known. -/
  unknown : ∀ cause, Store.document world.store request.docId = .error cause →
    Passes service request world .integrity ∧
      ∀ record, (service.create request world).1 = .ok record → record.checksum = none
  /-- Content is looked at once at most, and for no request that is refused before. -/
  consulted : ∃ calls, MadeOnce calls (Consults service request world) ∧ ∀ log,
    service.recording.create request ⟨world.store, (world.outside, log)⟩ =
      ((service.create request world).1, ⟨(service.create request world).2.store,
        ((service.create request world).2.outside, log ++ calls)⟩)

theorem Staged.of_error {cause : LedgerError} {next : σ}
    (hstaged : Staged service request world (.error cause) next) :
    next = world.store ∨
      ∃ draft failure, Store.append world.store draft request.storing = (.error failure, next) := by
  cases hstaged with
  | refused => exact .inl rfl
  | unstored _ append => exact .inr ⟨_, _, append⟩

theorem Staged.of_ok {record : Record} {next : σ}
    (hstaged : Staged service request world (.ok record) next) :
    ∃ draft, Offers service request world draft ∧
      Store.append world.store draft request.storing = (.ok record, next) := by
  cases hstaged with
  | stored _ offers append => exact ⟨_, offers, append⟩

theorem atomic_of_gains [FaithfulStore σ] (service : SigningService ν) (request : SigningRequest)
    (world : World (Faulty σ) ν) {Gains : σ → Record → σ → Prop}
    (hgains : ∀ {draft record next last},
      Store.append world.store.store draft request.storing = (.ok record, next) →
      Store.last world.store.store draft.docId = .ok last →
      draft.previous = last.map (·.linkHash) → Gains world.store.store record next) :
    Atomic service request world Gains := by
  have hstaged := create_staged service request world
  have hlookUp {cause : StoreError}
      (hunknown : Store.document world.store request.docId = .error cause) :
      lookUp world.store request.docId = none := by
    rw [lookUp, hunknown]
  constructor
  case refused => exact fun _ => create_refused_iff
  case unchanged =>
    intro cause hcause
    rw [hcause] at hstaged
    rcases hstaged.of_error with hsame | ⟨_, _, happend⟩
    · exact hsame
    · exact FaithfulStore.append_error happend
  case gained =>
    intro record hrecord
    rw [hrecord] at hstaged
    obtain ⟨draft, hoffers, happend⟩ := hstaged.of_ok
    obtain ⟨last, hlast, hprevious⟩ := hoffers.linked
    rw [← hoffers.states.docId] at hlast
    exact ⟨_, Faulty.append_around happend,
      hgains (Faulty.append_ok happend) (Faulty.last_ok hlast) hprevious⟩
  case carries =>
    intro record hrecord
    rw [hrecord] at hstaged
    obtain ⟨draft, hoffers, happend⟩ := hstaged.of_ok
    obtain ⟨id, rfl⟩ := FaithfulStore.append_ok happend
    exact ⟨hoffers, rfl⟩
  case unknown =>
    intro cause hunknown
    refine ⟨passes_integrity_iff.mpr ⟨none, by rw [hlookUp hunknown]; rfl⟩, ?_⟩
    intro record hrecord
    rw [hrecord] at hstaged
    obtain ⟨draft, hoffers, happend⟩ := hstaged.of_ok
    obtain ⟨id, rfl⟩ := FaithfulStore.append_ok happend
    have hchecksum := hoffers.states.checksum
    rw [hlookUp hunknown] at hchecksum
    exact (Except.ok.inj hchecksum).symm
  case consulted => exact create_recording service request world

end SigningService

def Memory.Gains (memory : Memory) (record : Record) (next : Memory) : Prop :=
  next = { memory with records := memory.records ++ [record], lastId := record.id } ∧
    record.previous =
      ((memory.records.filter (·.docId = record.docId)).getLast?).map (·.linkHash)

def Database.Gains (database : Database) (record : Record) (next : Database) : Prop :=
  ∃ row last, readRecord row = .ok record ∧
    next = { database with signatures := ⟨database.signatures.rows ++ [row], row.id⟩ } ∧
    readFirst readRecord ((database.signatures.rows.filter (holds · 0 record.docId)).getLast?) =
      .ok last ∧
    record.previous = last.map (·.linkHash)

namespace SigningService

/-- Whatever a store holds and whichever of its operations fail, whatever the signer, the source of
nonces and the computer do: a request is refused by the first stage that has something against it
and leaves no trace, or it adds one record, which is linked to the last one of its document. -/
theorem create_atomic {ν : Type} (service : SigningService ν) (request : SigningRequest)
    (faults : Faults) (outside : ν) :
    (∀ memory : Memory,
      Atomic service request ⟨faults.around memory, outside⟩ Memory.Gains) ∧
    ∀ database : Database,
      Atomic service request ⟨faults.around database, outside⟩ Database.Gains := by
  constructor
  · intro memory
    apply atomic_of_gains
    intro draft record next last happend hlast hprevious
    obtain ⟨_, rfl, rfl⟩ := Memory.append_ok happend
    cases hlast
    refine ⟨rfl, ?_⟩
    rw [← find?_reverse]
    exact hprevious
  · intro database
    apply atomic_of_gains
    intro draft record next last happend hlast hprevious
    obtain ⟨_, _, rfl, rfl⟩ := Database.append_ok happend
    refine ⟨_, last, Database.read_signatureCells draft _ _, rfl, ?_, hprevious⟩
    rw [← find?_reverse]
    exact hlast

end SigningService

end Signoff
