import Signoff.Proofs.Database.Documents
import Signoff.Proofs.Database.History
import Signoff.Proofs.Store.Views

namespace Signoff

/-! A store in memory and a new database cannot be told apart. Whatever both are asked, in whatever
order, they answer alike, as long as there are numbers for what they are given to keep. -/

namespace Store

inductive Call where
  | append (draft : Draft)
  | find (docId subject : String)
  | recordsOf (docId : String)
  | recordsBy (subject : String)
  | contains (docId subject : String)
  | hasSigned (docId identifier : String)
  | last (docId : String)
  | records
  | setPrevious (id : Int64) (previous : Option Digest)
  | putDocument (document : Document)
  | document (docId : String)
  | recordVerification (verification : Verification)
  | history (docId : String) (limit : Nat)
  | lastVerification (docId : String)

inductive Answer where
  | done (result : Except StoreError Unit)
  | stored (result : Except StoreError Record)
  | record (result : Except StoreError (Option Record))
  | records (result : Except StoreError (List Record))
  | truth (result : Except StoreError Bool)
  | document (result : Except StoreError (Option Document))
  | verification (result : Except StoreError (Option Verification))
  | verifications (result : Except StoreError (List Verification))

variable {σ : Type} [Store σ]

def Call.run (clock : Clock) (store : σ) : Call → Answer × σ
  | .append draft =>
    let (result, store) := Store.append store draft clock
    (.stored result, store)
  | .find docId subject => (.record (Store.find store docId subject), store)
  | .recordsOf docId => (.records (Store.recordsOf store docId), store)
  | .recordsBy subject => (.records (Store.recordsBy store subject), store)
  | .contains docId subject => (.truth (Store.contains store docId subject), store)
  | .hasSigned docId identifier => (.truth (Store.hasSigned store docId identifier), store)
  | .last docId => (.record (Store.last store docId), store)
  | .records => (.records (Store.records store), store)
  | .setPrevious id previous =>
    let (result, store) := Store.setPrevious store id previous
    (.done result, store)
  | .putDocument written =>
    let (result, store) := Store.putDocument store written
    (.done result, store)
  | .document docId => (.document (Store.document store docId), store)
  | .recordVerification verification =>
    let (result, store) := Store.recordVerification store verification
    (.done result, store)
  | .history docId limit => (.verifications (Store.history store docId limit), store)
  | .lastVerification docId => (.verification (Store.lastVerification store docId), store)

/-- The answers to one call after another, each with the clock as it stands then, and the store
that they leave behind. -/
def run (store : σ) : List (Call × Clock) → List Answer × σ
  | [] => ([], store)
  | (call, clock) :: rest =>
    let (answer, next) := call.run clock store
    let (answers, last) := run next rest
    (answer :: answers, last)

theorem run_cons (store : σ) (call : Call) (clock : Clock) (rest : List (Call × Clock)) :
    run store ((call, clock) :: rest) =
      ((call.run clock store).1 :: (run (call.run clock store).2 rest).1,
        (run (call.run clock store).2 rest).2) := rfl

end Store

namespace Memory

/-- There are numbers left for a record and for a verification. -/
def HasRoom (memory : Memory) : Prop :=
  (memory.records.length : Int) < Int64.maxValue.toInt ∧
    (memory.verifications.length : Int) < Int64.maxValue.toInt

instance (memory : Memory) : Decidable memory.HasRoom :=
  inferInstanceAs (Decidable (_ ∧ _))

theorem length_relinkFirst (id : Int64) (previous : Option Digest) (records : List Record) :
    (relinkFirst id previous records).length = records.length := by
  induction records with
  | nil => rfl
  | cons record rest ih => by_cases hid : record.id = id <;> simp [relinkFirst, hid, ih]

theorem length_run (call : Store.Call) (clock : Clock) (memory : Memory) :
    memory.records.length ≤ (call.run clock memory).2.records.length ∧
      memory.verifications.length ≤ (call.run clock memory).2.verifications.length := by
  cases call with
  | append draft =>
      change _ ≤ (memory.append draft clock).2.records.length ∧
        _ ≤ (memory.append draft clock).2.verifications.length
      simp only [append]
      split <;> simp
  | setPrevious id previous =>
      change _ ≤ (memory.setPrevious id previous).2.records.length ∧
        _ ≤ (memory.setPrevious id previous).2.verifications.length
      simp only [setPrevious]
      split <;> simp [length_relinkFirst]
  | recordVerification verification =>
      change _ ≤ memory.records.length ∧ _ ≤ (memory.verifications ++ [verification]).length
      simp
  | _ => exact ⟨Nat.le_refl _, Nat.le_refl _⟩

theorem HasRoom.of_run {calls : List (Store.Call × Clock)} {memory : Memory}
    (hroom : (Store.run memory calls).2.HasRoom) : memory.HasRoom := by
  induction calls generalizing memory with
  | nil => exact hroom
  | cons first rest ih =>
      rw [Store.run_cons] at hroom
      obtain ⟨hrecords, hverifications⟩ := ih hroom
      obtain ⟨hfewer, hless⟩ := length_run first.1 first.2 memory
      exact ⟨by omega, by omega⟩

end Memory

namespace Database

theorem ofNat_ne_maxValue {length : Nat} (hlength : (length : Int) < Int64.maxValue.toInt) :
    Int64.ofNat length ≠ Int64.maxValue := by
  intro hfull
  have hsmall : length < 2 ^ 63 := by
    have hlargest : Int64.maxValue.toInt = 2 ^ 63 - 1 := rfl
    omega
  rw [← hfull, Int64.toInt_ofNat_of_lt hsmall] at hlength
  omega

/-- A database and a store in memory that have been told the same. -/
structure Mirrors (database : Database) (memory : Memory) : Prop where
  records : InOrder database memory.records
  lastId : memory.lastId = Int64.ofNat memory.records.length
  highestRecord : database.signatures.highest = memory.lastId
  documents : HoldsDocuments database.documents memory.documents
  verifications : Keeps database.verifications memory.verifications
  highestVerification :
    database.verifications.highest = Int64.ofNat memory.verifications.length

namespace Mirrors

variable {database : Database} {memory : Memory}

theorem fresh (clock : Clock) : Mirrors (fresh clock) .empty := by
  obtain ⟨_, _, hfresh⟩ := sameTables_migrate clock empty
  refine ⟨inOrder_fresh clock, rfl, ?_, ?_, ?_, ?_⟩
  · rw [signatures_fresh]
    rfl
  · rw [Database.fresh, hfresh]
    exact holdsDocuments_nil
  · rw [Database.fresh, hfresh]
    exact keeps_empty
  · rw [Database.fresh, hfresh]
    rfl

theorem history_eq (hmirrors : Mirrors database memory) (hroom : memory.HasRoom) (docId : String)
    (limit : Nat) : Store.history database docId limit = Store.history memory docId limit := by
  have hread := verificationsOf_eq hmirrors.verifications docId
  have hlength : (database.verificationsOf docId).length ≤ memory.verifications.length := by
    have hlengths := congrArg List.length hread
    simp only [List.length_map, Memory.verificationsOf, List.length_mergeSort, List.length_reverse]
      at hlengths
    rw [hlengths]
    exact List.length_filter_le _ _
  -- No table holds so many rows that the largest limit cuts it.
  have htake : (database.verificationsOf docId).take (min limit largestLimit) =
      (database.verificationsOf docId).take limit := by
    have hlargest : (largestLimit : Int) = Int64.maxValue.toInt := rfl
    rw [List.take_eq_take_iff]
    have hverifications := hroom.2
    omega
  change readAll readVerification ((database.verificationsOf docId).take _) = _
  rw [htake]
  apply readAll_eq
  rw [List.map_take, hread, ← List.map_take]

theorem append (hmirrors : Mirrors database memory) (hroom : memory.HasRoom) (draft : Draft)
    (clock : Clock) :
    (database.append draft clock).1 = (memory.append draft clock).1 ∧
      Mirrors (database.append draft clock).2 (memory.append draft clock).2 := by
  have hnumber : database.signatures.highest = Int64.ofNat memory.records.length :=
    hmirrors.highestRecord.trans hmirrors.lastId
  -- A number is left, so that the key alone decides.
  obtain ⟨hduplicate, hfresh⟩ := append_eq draft clock hmirrors.records
    (hnumber ▸ ofNat_ne_maxValue hroom.1)
  by_cases hsigned : HasSigned memory.records draft.docId draft.user.subject
  · rw [hduplicate hsigned, Memory.append, if_pos (Memory.any_isOf_iff.mpr hsigned)]
    exact ⟨rfl, hmirrors⟩
  · obtain ⟨signatures, happend⟩ := hfresh hsigned
    obtain ⟨_, _, horder, hhighest⟩ := append_inOrder hmirrors.records happend
    rw [happend, Memory.append, if_neg (mt Memory.any_isOf_iff.mp hsigned),
      ← hmirrors.highestRecord]
    refine ⟨rfl, horder, ?_, hhighest, hmirrors.documents, hmirrors.verifications,
      hmirrors.highestVerification⟩
    rw [List.length_append, Int64.ofNat_add, ← hnumber]
    rfl

theorem setPrevious (hmirrors : Mirrors database memory) (id : Int64) (previous : Option Digest) :
    (database.setPrevious id previous).1 = (memory.setPrevious id previous).1 ∧
      Mirrors (database.setPrevious id previous).2 (memory.setPrevious id previous).2 := by
  by_cases hfound : memory.records.any (·.id = id) = true
  · obtain ⟨record, hmem, hid⟩ := List.any_eq_true.mp hfound
    obtain rfl := of_decide_eq_true hid
    obtain ⟨signatures, hset, horder, hhighest⟩ :=
      setPrevious_inOrder hmirrors.records hmem previous
    rw [hset, Memory.setPrevious, if_pos hfound]
    refine ⟨rfl, horder, ?_, hhighest.trans hmirrors.highestRecord, hmirrors.documents,
      hmirrors.verifications, hmirrors.highestVerification⟩
    rw [Memory.length_relinkFirst]
    exact hmirrors.lastId
  · have hmissing : ∀ record ∈ memory.records, record.id ≠ id := by simpa using hfound
    rw [setPrevious_missing hmirrors.records hmissing, Memory.setPrevious, if_neg hfound]
    exact ⟨rfl, hmirrors⟩

theorem putDocument (hmirrors : Mirrors database memory) (document : Document) :
    Mirrors (database.putDocument document) (memory.putDocument document) :=
  ⟨hmirrors.records.congr rfl, hmirrors.lastId, hmirrors.highestRecord,
    hmirrors.documents.put document, hmirrors.verifications, hmirrors.highestVerification⟩

theorem recordVerification (hmirrors : Mirrors database memory) (hroom : memory.HasRoom)
    (verification : Verification) :
    (database.recordVerification verification).1 = .ok () ∧
      Mirrors (database.recordVerification verification).2
        { memory with verifications := memory.verifications ++ [verification] } := by
  obtain ⟨table, hrecord, hkeeps, hhighest⟩ := recordVerification_keeps hmirrors.verifications
    (hmirrors.highestVerification ▸ ofNat_ne_maxValue hroom.2) verification
  rw [hrecord]
  refine ⟨rfl, hmirrors.records.congr rfl, hmirrors.lastId, hmirrors.highestRecord,
    hmirrors.documents, hkeeps, ?_⟩
  rw [hhighest, hmirrors.highestVerification, List.length_append, Int64.ofNat_add]
  rfl

theorem step (hmirrors : Mirrors database memory) (hroom : memory.HasRoom) (call : Store.Call)
    (clock : Clock) :
    (call.run clock database).1 = (call.run clock memory).1 ∧
      Mirrors (call.run clock database).2 (call.run clock memory).2 := by
  cases call with
  | append draft =>
      obtain ⟨hanswer, hnext⟩ := hmirrors.append hroom draft clock
      exact ⟨congrArg Store.Answer.stored hanswer, hnext⟩
  | find docId subject =>
      exact ⟨congrArg Store.Answer.record
        (ListStore.find_eq hmirrors.records docId subject), hmirrors⟩
  | recordsOf docId =>
      exact ⟨congrArg Store.Answer.records
        (ListStore.recordsOf_eq hmirrors.records docId), hmirrors⟩
  | recordsBy subject =>
      exact ⟨congrArg Store.Answer.records
        (ListStore.recordsBy_eq hmirrors.records subject), hmirrors⟩
  | contains docId subject =>
      exact ⟨congrArg Store.Answer.truth
        (ListStore.contains_eq hmirrors.records docId subject), hmirrors⟩
  | hasSigned docId identifier =>
      exact ⟨congrArg Store.Answer.truth
        (ListStore.hasSigned_eq hmirrors.records docId identifier), hmirrors⟩
  | last docId =>
      exact ⟨congrArg Store.Answer.record (LawfulStore.last_eq hmirrors.records docId), hmirrors⟩
  | records =>
      exact ⟨congrArg Store.Answer.records (LawfulStore.records_eq hmirrors.records), hmirrors⟩
  | setPrevious id previous =>
      obtain ⟨hanswer, hnext⟩ := hmirrors.setPrevious id previous
      exact ⟨congrArg Store.Answer.done hanswer, hnext⟩
  | putDocument document =>
      exact ⟨rfl, hmirrors.putDocument document⟩
  | document docId =>
      exact ⟨congrArg Store.Answer.document (hmirrors.documents docId), hmirrors⟩
  | recordVerification verification =>
      obtain ⟨hanswer, hnext⟩ := hmirrors.recordVerification hroom verification
      exact ⟨congrArg Store.Answer.done hanswer, hnext⟩
  | history docId limit =>
      exact ⟨congrArg Store.Answer.verifications (hmirrors.history_eq hroom docId limit), hmirrors⟩
  | lastVerification docId =>
      refine ⟨congrArg Store.Answer.verification ?_, hmirrors⟩
      change (Store.history database docId 1).map List.head? =
        (Store.history memory docId 1).map List.head?
      rw [hmirrors.history_eq hroom]

theorem run (hmirrors : Mirrors database memory) {calls : List (Store.Call × Clock)}
    (hroom : (Store.run memory calls).2.HasRoom) :
    (Store.run database calls).1 = (Store.run memory calls).1 ∧
      Mirrors (Store.run database calls).2 (Store.run memory calls).2 := by
  induction calls generalizing database memory with
  | nil => exact ⟨rfl, hmirrors⟩
  | cons first rest ih =>
      obtain ⟨hanswer, hnext⟩ := hmirrors.step hroom.of_run first.1 first.2
      rw [Store.run_cons] at hroom
      obtain ⟨hanswers, hlast⟩ := ih hnext hroom
      rw [Store.run_cons, Store.run_cons, hanswer, hanswers]
      exact ⟨rfl, hlast⟩

end Mirrors

end Database

namespace Store

/-- Whatever is asked of a store in memory and of a new database, and whenever, the answers are the
same. -/
theorem answers_agree (start : Clock) (calls : List (Call × Clock))
    (hroom : (run Memory.empty calls).2.HasRoom) :
    (run (Database.fresh start) calls).1 = (run Memory.empty calls).1 :=
  ((Database.Mirrors.fresh start).run hroom).1

def signedTwice : List (Call × Clock) :=
  let draft := fun (subject : String) (byte : UInt8) => ({
    docId := "handbook"
    user := ⟨subject, subject ++ "@example.com", subject⟩
    signedAt := 1736870400000
    checksum := none
    payloadHash := .replicate 32 byte
    signature := .replicate 64 byte
    nonce := .replicate 32 byte
    referer := some "https://example.com/"
    previous := none
    version := Draft.currentVersion } : Draft)
  let verification := fun (verifiedBy : String) => ({
    docId := "handbook"
    verifiedBy
    verifiedAt := -1
    stored := "AB"
    calculated := "ab"
    algorithm := "sha256"
    valid := true
    error := none } : Verification)
  [(.append (draft "alice" 1), ⟨1736870400000⟩), (.append (draft "alice" 2), ⟨1736870400001⟩),
    (.append (draft "b\x00b" 3), ⟨1736870400002⟩), (.hasSigned "handbook" "ALICE@Example.com", ⟨0⟩),
    (.setPrevious 2 (some (.replicate 32 9)), ⟨0⟩), (.setPrevious 3 none, ⟨0⟩),
    (.putDocument ⟨"handbook", none, none, none⟩, ⟨0⟩),
    (.putDocument ⟨"handbook", some "https://example.com/", none, none⟩, ⟨0⟩),
    (.document "handbook", ⟨0⟩), (.recordVerification (verification "first"), ⟨0⟩),
    (.recordVerification (verification "second"), ⟨0⟩),
    (.history "handbook" 18446744073709551615, ⟨0⟩), (.records, ⟨0⟩)]

theorem answers_agree_signedTwice :
    (run Memory.empty signedTwice).2.HasRoom ∧
      (run Memory.empty signedTwice).2.records.map (·.id) = [1, 2] ∧
      (run (Database.fresh ⟨0⟩) signedTwice).1 = (run Memory.empty signedTwice).1 := by
  have hroom : (run Memory.empty signedTwice).2.HasRoom := by decide +kernel
  exact ⟨hroom, by decide +kernel, answers_agree ⟨0⟩ signedTwice hroom⟩

end Store

end Signoff
