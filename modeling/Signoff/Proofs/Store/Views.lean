import Signoff.Proofs.Database.History
import Signoff.Proofs.Database.Laws

namespace Signoff

/-! The queries of a store are views of one list. None of them can tell of a record what another
does not. -/

/-- A store that holds its records as one list and looks up everything there. -/
class ListStore (σ : Type) [Store σ] extends LawfulStore σ where
  Room : σ → Prop
  recordsOf_eq {store : σ} {records : List Record} (holds : Holds store records)
    (docId : String) : Store.recordsOf store docId = .ok (records.filter (·.docId = docId))
  recordsBy_eq {store : σ} {records : List Record} (holds : Holds store records)
    (subject : String) :
    Store.recordsBy store subject = .ok (records.filter (·.user.subject = subject))
  find_eq {store : σ} {records : List Record} (holds : Holds store records)
    (docId subject : String) :
    Store.find store docId subject = .ok (records.find? (Memory.isOf docId subject))
  contains_eq {store : σ} {records : List Record} (holds : Holds store records)
    (docId subject : String) :
    Store.contains store docId subject = .ok (records.any (Memory.isOf docId subject))
  hasSigned_eq {store : σ} {records : List Record} (holds : Holds store records)
    (docId identifier : String) :
    Store.hasSigned store docId identifier = .ok (records.any (Memory.isKnownAs docId identifier))
  append_signed {store : σ} {records : List Record} (holds : Holds store records)
    (room : Room store) {draft : Draft} (clock : Clock)
    (hsigned : HasSigned records draft.docId draft.user.subject) :
    Store.append store draft clock =
      (.error (.duplicate draft.docId draft.user.subject), store)
  append_fresh {store : σ} {records : List Record} (holds : Holds store records)
    (room : Room store) {draft : Draft} (clock : Clock)
    (hfresh : ¬ HasSigned records draft.docId draft.user.subject) :
    ∃ record, (Store.append store draft clock).1 = .ok record
  append_duplicate {store : σ} {records : List Record} (holds : Holds store records)
    {draft : Draft} {clock : Clock} {docId subject : String}
    (happend : (Store.append store draft clock).1 = .error (.duplicate docId subject)) :
    docId = draft.docId ∧ subject = draft.user.subject ∧ HasSigned records docId subject
  setPrevious_missing {store : σ} {records : List Record} (holds : Holds store records)
    {id : Int64} (hmissing : ∀ record ∈ records, record.id ≠ id) (previous : Option Digest) :
    Store.setPrevious store id previous = (.error (.noRecord id), store)
  lastId_setPrevious {store : σ} {records : List Record} (holds : Holds store records)
    (id : Int64) (previous : Option Digest) :
    lastId (Store.setPrevious store id previous).2 = lastId store
  recordVerification_holds {store : σ} {records : List Record} (holds : Holds store records)
    (verification : Verification) :
    Holds (Store.recordVerification store verification).2 records ∧
      lastId (Store.recordVerification store verification).2 = lastId store
  recordVerification_error {store next : σ} {verification : Verification} {cause : StoreError}
    (hrecord : Store.recordVerification store verification = (.error cause, next)) : next = store

namespace Memory

instance : ListStore Memory where
  Room _ := True
  recordsOf_eq := by
    rintro memory _ rfl docId
    rfl
  recordsBy_eq := by
    rintro memory _ rfl subject
    rfl
  find_eq := by
    rintro memory _ rfl docId subject
    rfl
  contains_eq := by
    rintro memory _ rfl docId subject
    rfl
  hasSigned_eq := by
    rintro memory _ rfl docId identifier
    rfl
  append_signed := by
    rintro memory _ rfl - draft clock hsigned
    exact if_pos (any_isOf_iff.mpr hsigned)
  append_fresh := by
    rintro memory _ rfl - draft clock hfresh
    change ∃ record, (memory.append draft clock).1 = .ok record
    rw [append, if_neg (mt any_isOf_iff.mp hfresh)]
    exact ⟨_, rfl⟩
  append_duplicate := by
    rintro memory _ rfl draft clock docId subject happend
    change (memory.append draft clock).1 = _ at happend
    by_cases hsigned : memory.records.any (isOf draft.docId draft.user.subject) = true
    · rw [append, if_pos hsigned] at happend
      cases happend
      exact ⟨rfl, rfl, any_isOf_iff.mp hsigned⟩
    · rw [append, if_neg hsigned] at happend
      cases happend
  setPrevious_missing := by
    rintro memory _ rfl id hmissing previous
    have hnone : ¬ memory.records.any (·.id = id) = true := by simpa using hmissing
    exact if_neg hnone
  lastId_setPrevious := by
    rintro memory _ rfl id previous
    change (memory.setPrevious id previous).2.lastId = memory.lastId
    rw [setPrevious]
    split <;> rfl
  recordVerification_holds := by
    rintro memory _ rfl verification
    exact ⟨rfl, rfl⟩
  recordVerification_error := recordVerification_error

end Memory

namespace Database

theorem append_full {database : Database} (hfull : database.signatures.highest = Int64.maxValue)
    (draft : Draft) (clock : Clock) :
    database.append draft clock = (.error (.database .full), database) := by
  simp only [append, Table.insert, if_pos hfull]

theorem sameSignatures_recordVerification (database : Database) (verification : Verification) :
    (database.recordVerification verification).2.signatures = database.signatures := by
  simp only [recordVerification]
  split <;> rfl

instance : ListStore Database where
  Room database := database.signatures.highest ≠ Int64.maxValue
  recordsOf_eq horder docId := readAll_eq (filter_readable horder.readable (chooses_docId docId))
  recordsBy_eq horder subject :=
    readAll_eq (filter_readable horder.readable (chooses_subject subject))
  find_eq horder docId subject := readFirst_find horder.readable (chooses_isOf docId subject)
  contains_eq horder docId subject :=
    congrArg Except.ok (any_readable horder.readable (chooses_isOf docId subject))
  hasSigned_eq horder docId identifier :=
    congrArg Except.ok (any_readable horder.readable (chooses_isKnownAs docId identifier))
  append_signed horder hroom draft clock hsigned :=
    (append_eq draft clock horder hroom).1 hsigned
  append_fresh horder hroom draft clock hfresh := by
    obtain ⟨signatures, happend⟩ := (append_eq draft clock horder hroom).2 hfresh
    exact ⟨_, congrArg Prod.fst happend⟩
  append_duplicate {database records} horder draft clock docId subject happend := by
    change (database.append draft clock).1 = _ at happend
    by_cases hfull : database.signatures.highest = Int64.maxValue
    · rw [append_full hfull] at happend
      cases happend
    · obtain ⟨hduplicate, hstored⟩ := append_eq draft clock horder hfull
      by_cases hsigned : HasSigned records draft.docId draft.user.subject
      · rw [hduplicate hsigned] at happend
        cases happend
        exact ⟨rfl, rfl, hsigned⟩
      · obtain ⟨signatures, happended⟩ := hstored hsigned
        rw [happended] at happend
        cases happend
  setPrevious_missing horder _ hmissing previous := setPrevious_missing horder hmissing previous
  lastId_setPrevious {database records} horder id previous := by
    change (database.setPrevious id previous).2.signatures.highest = database.signatures.highest
    by_cases hfound : ∃ record ∈ records, record.id = id
    · obtain ⟨record, hmem, rfl⟩ := hfound
      obtain ⟨signatures, hset, _, hhighest⟩ := setPrevious_inOrder horder hmem previous
      rw [hset]
      exact hhighest
    · rw [setPrevious_missing horder fun record hmem hid => hfound ⟨record, hmem, hid⟩]
  recordVerification_holds {database _} horder verification :=
    ⟨horder.congr (sameSignatures_recordVerification database verification),
      congrArg Table.highest (sameSignatures_recordVerification database verification)⟩
  recordVerification_error := recordVerification_error

end Database

namespace Store

variable {σ : Type} [Store σ]

/-- What every query answers while the store holds these records. -/
structure Views (store : σ) (records : List Record) : Prop where
  listed : Store.records store = .ok records
  recordsOf : ∀ docId, Store.recordsOf store docId = .ok (records.filter (·.docId = docId))
  recordsBy : ∀ subject,
    Store.recordsBy store subject = .ok (records.filter (·.user.subject = subject))
  last : ∀ docId,
    Store.last store docId = .ok ((records.filter (·.docId = docId)).getLast?)
  find : ∀ docId subject, ∃ found, Store.find store docId subject = .ok found ∧
    ∀ record, found = some record ↔
      record ∈ records ∧ record.docId = docId ∧ record.user.subject = subject
  contains : ∀ docId subject, ∃ found, Store.contains store docId subject = .ok found ∧
    (found = true ↔ HasSigned records docId subject)
  hasSigned : ∀ docId identifier, ∃ known, Store.hasSigned store docId identifier = .ok known ∧
    (known = true ↔ ∃ record ∈ records.filter (·.docId = docId),
      record.user.subject = identifier ∨
        Text.asciiLowercase record.user.email = Text.asciiLowercase identifier)

theorem find?_eq_some_iff_of_unique {records : List Record}
    (hunique : records.Pairwise fun left right =>
      ¬ (left.docId = right.docId ∧ left.user.subject = right.user.subject))
    {docId subject : String} {record : Record} :
    records.find? (Memory.isOf docId subject) = some record ↔
      record ∈ records ∧ record.docId = docId ∧ record.user.subject = subject := by
  constructor
  · intro hfind
    have hchosen := List.find?_some hfind
    exact ⟨List.mem_of_find?_eq_some hfind, by simpa [Memory.isOf] using hchosen⟩
  · rintro ⟨hmem, rfl, rfl⟩
    obtain ⟨front, back, rfl⟩ := List.append_of_mem hmem
    have hfront : front.find? (Memory.isOf record.docId record.user.subject) = none := by
      rw [List.find?_eq_none]
      intro other hother hsame
      have hdistinct := (List.pairwise_append.mp hunique).2.2 other hother record (by simp)
      exact hdistinct (by simpa [Memory.isOf] using hsame)
    simp [hfront, Memory.isOf]

theorem views_of_holds [ListStore σ] {store : σ} {records : List Record}
    (hholds : LawfulStore.Holds store records)
    (hunique : records.Pairwise fun left right =>
      ¬ (left.docId = right.docId ∧ left.user.subject = right.user.subject)) :
    Views store records where
  listed := LawfulStore.records_eq hholds
  recordsOf := ListStore.recordsOf_eq hholds
  recordsBy := ListStore.recordsBy_eq hholds
  last docId := by rw [LawfulStore.last_eq hholds, find?_reverse]
  find docId subject :=
    ⟨_, ListStore.find_eq hholds docId subject, fun _ => find?_eq_some_iff_of_unique hunique⟩
  contains docId subject :=
    ⟨_, ListStore.contains_eq hholds docId subject, Memory.any_isOf_iff⟩
  hasSigned docId identifier := by
    refine ⟨_, ListStore.hasSigned_eq hholds docId identifier, ?_⟩
    simp [Memory.isKnownAs, and_assoc]

end Store

end Signoff
