import Signoff.Proofs.Ledger.Repair
import Signoff.Proofs.Ledger.Signing

namespace Signoff

/-! What becomes of a store when everything that is written to it goes through a ledger. -/

/-- A signer that signs with this key whenever it signs at all. -/
structure Signer.SignsWith (signer : Signer) (key : Ed25519.SigningKey) : Prop where
  publicKey_eq : signer.publicKey = key.publicKey
  sign_eq {statement : Statement} {signed : SignedStatement} :
    signer.sign statement = .ok signed → signed = key.signStatement statement

theorem Ed25519.SigningKey.signer_signsWith (key : SigningKey) : key.signer.SignsWith key where
  publicKey_eq := rfl
  sign_eq hsigned := (Except.ok.inj hsigned).symm

inductive Call where
  | create (request : SigningRequest) (faults : Faults)
  | rebuild (faults : Faults)
  | putDocument (document : Document)

structure Session (σ ν : Type) where
  world : World σ ν
  created : List Record
  rebuilds : List RebuildReport

namespace Session

variable {σ ν : Type} [Store σ]

def start (store : σ) (outside : ν) : Session σ ν := ⟨⟨store, outside⟩, [], []⟩

def step (service : SigningService ν) (session : Session σ ν) : Call → Session σ ν
  | .create request faults =>
    let faulty : World (Faulty σ) ν :=
      ⟨faults.around session.world.store, session.world.outside⟩
    let (result, world) := service.create request faulty
    { session with
      world := ⟨world.store.store, world.outside⟩
      created := session.created ++ result.toOption.toList }
  | .rebuild faults =>
    let (result, faulty) := ChainService.rebuild (faults.around session.world.store)
    { session with
      world := { session.world with store := faulty.store }
      rebuilds := session.rebuilds ++ result.toOption.toList }
  | .putDocument document =>
    { session with
      world := { session.world with store := (Store.putDocument session.world.store document).2 } }

def run (service : SigningService ν) (session : Session σ ν) (calls : List Call) : Session σ ν :=
  calls.foldl (step service) session

/-- What holds after each call of a session that began with an empty store. -/
structure Intact (service : SigningService ν) (key : Ed25519.SigningKey)
    (session : Session σ ν) : Prop where
  /-- The store holds what was created, in order. -/
  records : Store.records session.world.store = .ok session.created
  audit : ChainService.audit session.world.store = .ok ⟨session.created.length, none⟩
  unique : session.created.Pairwise fun left right =>
    ¬ (left.docId = right.docId ∧ left.user.subject = right.user.subject)
  verified : ∀ record ∈ session.created,
    Ed25519.verify key.publicKey record.statement.message (key.sign record.statement.message) =
      .ok () → record.verify service.signer.publicKey = .ok ()
  reports : ∀ report ∈ session.rebuilds, report.updated = 0 ∧ report.failed = 0
  /-- A rebuild that can read the store would find nothing to do. -/
  rebuild : ∀ faults : Faults, faults.fault .records = none →
    ChainService.rebuild (faults.around session.world.store) =
      (.ok ⟨session.created.length, 0, 0⟩, faults.around session.world.store)

/-! The invariant behind this. The store is linked at its end alone, to the last record of a
document, where an audit looks for the record nearest before: both find the same record. -/

def numbers (count : Nat) : List Int64 :=
  (List.range count).map fun index => Int64.ofNat (index + 1)

theorem numbers_succ (count : Nat) :
    numbers (count + 1) = numbers count ++ [Int64.ofNat count + 1] := by
  simp [numbers, List.range_succ, Int64.ofNat_add]

theorem numbers_increasing {count : Nat} (hcount : (count : Int) ≤ Int64.maxValue.toInt) :
    (numbers count).Pairwise (· < ·) := by
  rw [numbers, List.pairwise_map]
  apply List.pairwise_lt_range.imp_of_mem
  intro left right hleft hright hlt
  have hmax : Int64.maxValue.toInt = 9223372036854775807 := rfl
  rw [List.mem_range] at hright
  rw [Int64.lt_iff_toInt_lt, Int64.toInt_ofNat_of_lt (by omega), Int64.toInt_ofNat_of_lt (by omega)]
  omega

structure Invariant [LawfulStore σ] (key : Ed25519.SigningKey) (session : Session σ ν) : Prop where
  holds : LawfulStore.Holds session.world.store session.created
  linked : Chain.Linked session.created
  unique : session.created.Pairwise fun left right =>
    ¬ (left.docId = right.docId ∧ left.user.subject = right.user.subject)
  ids : session.created.map (·.id) = numbers session.created.length
  lastId : LawfulStore.lastId session.world.store = Int64.ofNat session.created.length
  signed : ∀ record ∈ session.created,
    record.payloadHash = record.statement.hash ∧
      record.signature = key.sign record.statement.message
  reports : ∀ report ∈ session.rebuilds, report.updated = 0 ∧ report.failed = 0

variable [LawfulStore σ] {service : SigningService ν} {key : Ed25519.SigningKey}
  {session : Session σ ν}

/-- A record that the store takes is linked to the nearest record of its document. -/
theorem Invariant.append (hkey : service.signer.SignsWith key) (hinv : Invariant key session)
    {faulty next : Faulty σ} (hstore : faulty.store = session.world.store) {draft : Draft}
    {clock : Clock} {record : Record} (hprepared : service.Prepared faulty draft)
    (happend : Store.append faulty draft clock = (.ok record, next)) (outside : ν) :
    Invariant key { session with
      world := ⟨next.store, outside⟩, created := session.created ++ [record] } := by
  have happend := Faulty.append_ok happend
  rw [hstore] at happend
  obtain ⟨rfl, hfresh, hholds, hlast⟩ := LawfulStore.append_ok hinv.holds happend
  obtain ⟨last, hread, hprevious⟩ := hprepared.linked
  have hread := Faulty.last_ok hread
  rw [hstore, LawfulStore.last_eq hinv.holds, Except.ok.injEq] at hread
  have hsigned := hkey.sign_eq hprepared.signed
  constructor
  · exact hholds
  · refine Chain.linked_concat.mpr ⟨hinv.linked, ?_⟩
    rw [Chain.expectedLink]
    exact hread ▸ hprevious
  · exact unique_concat hinv.unique hfresh
  · simp [hinv.ids, numbers_succ, Draft.stored, hinv.lastId]
  · simp [hlast, hinv.lastId, Int64.ofNat_add]
  · intro other hother
    rcases List.mem_append.mp hother with hold | hnew
    · exact hinv.signed other hold
    · rw [List.mem_singleton.mp hnew]
      exact ⟨congrArg SignedStatement.payloadHash hsigned,
        congrArg SignedStatement.signature hsigned⟩
  · exact hinv.reports

theorem Invariant.of_store (hinv : Invariant key session) {store : σ} (outside : ν)
    (reports : List RebuildReport) (hholds : LawfulStore.Holds store session.created)
    (hlast : LawfulStore.lastId store = LawfulStore.lastId session.world.store)
    (hreports : ∀ report ∈ reports, report.updated = 0 ∧ report.failed = 0) :
    Invariant key ⟨⟨store, outside⟩, session.created, session.rebuilds ++ reports⟩ where
  holds := hholds
  linked := hinv.linked
  unique := hinv.unique
  ids := hinv.ids
  lastId := hlast.trans hinv.lastId
  signed := hinv.signed
  reports := by
    intro report hreport
    rcases List.mem_append.mp hreport with hold | hnew
    · exact hinv.reports report hold
    · exact hreports report hnew

theorem Invariant.create (hkey : service.signer.SignsWith key) (hinv : Invariant key session)
    (request : SigningRequest) (faults : Faults) :
    Invariant key (session.step service (.create request faults)) := by
  have hunchanged (outside : ν) : Invariant key { session with
      world := ⟨session.world.store, outside⟩, created := session.created ++ [] } := by
    have hsame := hinv.of_store outside [] hinv.holds rfl (by simp)
    simpa using hsame
  rcases service.create_cases request
      ⟨faults.around session.world.store, session.world.outside⟩ with
    ⟨cause, outside, _, hcreate⟩ | ⟨cause, outside, _, hcreate⟩ |
      ⟨draft, outside, hprepared, _, hcreate⟩
  · simp only [step, hcreate]
    exact hunchanged outside
  · simp only [step, hcreate]
    exact hunchanged outside
  · cases happend : Store.append (faults.around session.world.store) draft request.storing with
    | mk result next =>
        cases result with
        | ok record =>
            simp only [step, hcreate, happend]
            exact hinv.append hkey rfl hprepared happend outside
        | error cause =>
            have hnext : next.store = session.world.store := by
              rcases Faulty.append_error happend with hsame | hfailed
              · exact hsame
              · exact LawfulStore.append_error hinv.holds hfailed
            simp only [step, hcreate, happend, hnext]
            exact hunchanged outside

theorem Invariant.step (hkey : service.signer.SignsWith key) (hinv : Invariant key session)
    (call : Call) : Invariant key (session.step service call) := by
  cases call with
  | create request faults => exact hinv.create hkey request faults
  | rebuild faults =>
      have hrebuild := ChainService.rebuild_linked hinv.holds hinv.linked faults
      cases hfault : faults.fault .records with
      | none =>
          simp only [Session.step, hrebuild, hfault]
          exact hinv.of_store _ _ hinv.holds rfl (by simp [Except.toOption])
      | some cause =>
          simp only [Session.step, hrebuild, hfault]
          exact hinv.of_store _ _ hinv.holds rfl (by simp [Except.toOption])
  | putDocument document =>
      obtain ⟨next, hput, hholds, hlast⟩ := LawfulStore.putDocument_eq hinv.holds document
      have hsame := hinv.of_store session.world.outside [] hholds hlast (by simp)
      simpa [Session.step, hput] using hsame

theorem Invariant.run (hkey : service.signer.SignsWith key) (hinv : Invariant key session)
    (calls : List Call) : Invariant key (session.run service calls) := by
  induction calls generalizing session with
  | nil => exact hinv
  | cons call rest ih => exact ih (hinv.step hkey call)

theorem Invariant.start {store : σ} (hholds : LawfulStore.Holds store [])
    (hlast : LawfulStore.lastId store = 0) (outside : ν) :
    Invariant key (start store outside) where
  holds := hholds
  linked := trivial
  unique := .nil
  ids := rfl
  lastId := hlast
  signed := by simp [Session.start]
  reports := by simp [Session.start]

theorem verify_of_signed {signer : Signer} (hkey : signer.SignsWith key) {record : Record}
    (hhash : record.payloadHash = record.statement.hash)
    (hsignature : record.signature = key.sign record.statement.message)
    (hverify : Ed25519.verify key.publicKey record.statement.message
      (key.sign record.statement.message) = .ok ()) :
    record.verify signer.publicKey = .ok () := by
  simp only [Draft.verify]
  split
  · rw [hkey.publicKey_eq, hsignature, PublicKey.verify, hverify]
    rfl
  · next hne => exact absurd hhash.symm hne

theorem Invariant.intact (hkey : service.signer.SignsWith key) (hinv : Invariant key session) :
    Intact service key session where
  records := LawfulStore.records_eq hinv.holds
  audit := by
    have hread := LawfulStore.records_eq hinv.holds
    have hnone := Chain.firstBreakAfter_eq_none_iff.mpr hinv.linked
    simp [ChainService.audit, hread, Purpose.during, Except.map, Chain.audit,
      Chain.firstBreak, hnone]
  unique := hinv.unique
  verified record hrecord hverify :=
    verify_of_signed hkey (hinv.signed record hrecord).1 (hinv.signed record hrecord).2 hverify
  reports := hinv.reports
  rebuild faults hfault := by
    rw [ChainService.rebuild_linked hinv.holds hinv.linked, hfault]

theorem Invariant.increasing (hinv : Invariant key session)
    (hcount : (session.created.length : Int) ≤ Int64.maxValue.toInt) :
    session.created.Pairwise fun left right => left.id < right.id := by
  have hnumbers := numbers_increasing hcount
  rw [← hinv.ids, List.pairwise_map] at hnumbers
  exact hnumbers

/-- Whatever is asked of a ledger in whatever order, and however its store, its source of nonces
and its computer of checksums fail it, the chains of its store are whole after each call. A store
in memory never holds 2⁶³ records, a database takes no record once its numbers have run out. -/
theorem run_intact {ν : Type} (service : SigningService ν) (key : Ed25519.SigningKey)
    (hkey : service.signer.SignsWith key) (calls : List Call) (clock : Clock) (outside : ν) :
    let memory := (start Memory.empty outside).run service calls
    let database := (start (Database.fresh clock) outside).run service calls
    memory.Intact service key ∧
      ((memory.created.length : Int) ≤ Int64.maxValue.toInt →
        memory.created.Pairwise fun left right => left.id < right.id) ∧
      database.Intact service key ∧
      database.created.Pairwise fun left right => left.id < right.id := by
  intro memory database
  have hmemory : Invariant key memory :=
    (Invariant.start rfl rfl outside).run hkey calls
  have hfresh : (Database.fresh clock).signatures.highest = 0 := by
    rw [Database.signatures_fresh]
    rfl
  have hdatabase : Invariant key database :=
    (Invariant.start (Database.inOrder_fresh clock) hfresh outside).run hkey calls
  exact ⟨hmemory.intact hkey, hmemory.increasing, hdatabase.intact hkey,
    hdatabase.holds.increasing⟩

def twoSigners : List Call :=
  let request := fun (subject : String) (byte : UInt8) => ({
    user := some ⟨subject, subject ++ "@example.com", subject⟩
    docId := "handbook"
    referer := none
    nonce := .ok (.replicate 32 byte)
    clock := ⟨1736870400000⟩
    storing := ⟨1736870400001⟩ } : SigningRequest)
  [.create (request "alice" 1) .none, .create (request "bob" 2) .none,
    .create (request "alice" 3) ⟨fun _ => .none, true⟩, .rebuild .none]

theorem run_intact_twoSigners :
    let key : Ed25519.SigningKey := ⟨.replicate 32 7⟩
    let service : SigningService Unit := ⟨key.signer, fun _ _ outside => (none, outside), none⟩
    let memory := (start Memory.empty ()).run service twoSigners
    let database := (start (Database.fresh ⟨0⟩) ()).run service twoSigners
    service.signer.SignsWith key ∧ memory.created.length = 2 ∧ memory.Intact service key ∧
      (memory.created.Pairwise fun left right => left.id < right.id) ∧
      database.created.length = 2 ∧ database.Intact service key := by
  intro key service memory database
  obtain ⟨hmemory, hincreasing, hdatabase, _⟩ :=
    run_intact service key key.signer_signsWith twoSigners ⟨0⟩ ()
  have htwo : memory.created.length = 2 := by decide +kernel
  have htwoRows : database.created.length = 2 := by decide +kernel
  have hbound : (memory.created.length : Int) ≤ Int64.maxValue.toInt := by rw [htwo]; decide
  exact ⟨key.signer_signsWith, htwo, hmemory, hincreasing hbound, htwoRows, hdatabase⟩

end Session

end Signoff
