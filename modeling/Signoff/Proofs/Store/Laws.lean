import Signoff.Store.Faulty
import Signoff.Store.Memory

namespace Signoff

/-! What a store promises about its records. It holds a list of them, hands it out whole, and a
write either does what it says to that list or changes nothing. -/

namespace Store

variable {σ : Type} [Store σ]

/-- Two stores that tell the same of documents and verifications. -/
structure SameBesideRecords (before after : σ) : Prop where
  document : ∀ docId, Store.document after docId = Store.document before docId
  history : ∀ docId limit, Store.history after docId limit = Store.history before docId limit

namespace SameBesideRecords

theorem refl (store : σ) : SameBesideRecords store store :=
  ⟨fun _ => rfl, fun _ _ => rfl⟩

theorem trans {first second third : σ} (hfirst : SameBesideRecords first second)
    (hsecond : SameBesideRecords second third) : SameBesideRecords first third where
  document docId := (hsecond.document docId).trans (hfirst.document docId)
  history docId limit := (hsecond.history docId limit).trans (hfirst.history docId limit)

end SameBesideRecords

end Store

def HasSigned (records : List Record) (docId subject : String) : Prop :=
  ∃ record ∈ records, record.docId = docId ∧ record.user.subject = subject

theorem unique_concat {records : List Record} {record : Record}
    (hunique : records.Pairwise fun left right =>
      ¬ (left.docId = right.docId ∧ left.user.subject = right.user.subject))
    (hfresh : ¬ HasSigned records record.docId record.user.subject) :
    (records ++ [record]).Pairwise fun left right =>
      ¬ (left.docId = right.docId ∧ left.user.subject = right.user.subject) := by
  refine List.pairwise_append.mpr ⟨hunique, List.pairwise_singleton _ _, ?_⟩
  intro left hleft right hright hsame
  rw [List.mem_singleton.mp hright] at hsame
  exact hfresh ⟨left, hleft, hsame⟩

theorem find?_reverse {α : Type} (items : List α) (chosen : α → Bool) :
    items.reverse.find? chosen = (items.filter chosen).getLast? := by
  rw [← List.head?_filter, List.filter_reverse, List.head?_reverse]

class LawfulStore (σ : Type) [Store σ] where
  /-- The store is in order and these are its records. -/
  Holds : σ → List Record → Prop
  lastId : σ → Int64
  records_eq {store : σ} {records : List Record} (holds : Holds store records) :
    Store.records store = .ok records
  last_eq {store : σ} {records : List Record} (holds : Holds store records) (docId : String) :
    Store.last store docId = .ok (records.reverse.find? (·.docId = docId))
  append_ok {store next : σ} {records : List Record} {draft : Draft} {clock : Clock}
    {record : Record} (holds : Holds store records)
    (happend : Store.append store draft clock = (.ok record, next)) :
    record = draft.stored (lastId store + 1) clock.now ∧
      ¬ HasSigned records draft.docId draft.user.subject ∧
      Holds next (records ++ [record]) ∧ lastId next = lastId store + 1
  append_error {store next : σ} {records : List Record} {draft : Draft} {clock : Clock}
    {cause : StoreError} (holds : Holds store records)
    (happend : Store.append store draft clock = (.error cause, next)) : next = store
  setPrevious_eq {store : σ} {records : List Record} (holds : Holds store records)
    {record : Record} (hmem : record ∈ records) (previous : Option Digest) :
    ∃ next, Store.setPrevious store record.id previous = (.ok (), next) ∧
      Holds next (Memory.relinkFirst record.id previous records) ∧
      Store.SameBesideRecords store next
  putDocument_eq {store : σ} {records : List Record} (holds : Holds store records)
    (document : Document) :
    ∃ next, Store.putDocument store document = (.ok (), next) ∧ Holds next records ∧
      lastId next = lastId store

namespace Memory

theorem any_isOf_iff {records : List Record} {docId subject : String} :
    records.any (isOf docId subject) = true ↔ HasSigned records docId subject := by
  simp [isOf, HasSigned]

theorem recordVerification_error {memory next : Memory} {verification : Verification}
    {cause : StoreError}
    (hrecord : Store.recordVerification memory verification = (.error cause, next)) :
    next = memory := by
  cases hrecord

theorem append_ok {memory next : Memory} {draft : Draft} {clock : Clock} {record : Record}
    (happend : memory.append draft clock = (.ok record, next)) :
    memory.records.any (isOf draft.docId draft.user.subject) = false ∧
      record = draft.stored (memory.lastId + 1) clock.now ∧
      next = { memory with
        records := memory.records ++ [record], lastId := memory.lastId + 1 } := by
  simp only [append] at happend
  split at happend
  · cases happend
  · next hnone =>
      cases happend
      exact ⟨Bool.eq_false_iff.mpr hnone, rfl, rfl⟩

instance : LawfulStore Memory where
  Holds memory records := memory.records = records
  lastId memory := memory.lastId
  records_eq := by
    rintro memory _ rfl
    rfl
  last_eq := by
    rintro memory _ rfl docId
    rfl
  append_ok := by
    rintro memory next _ draft clock record rfl happend
    obtain ⟨hnone, hrecord, rfl⟩ := append_ok happend
    have hfresh : ¬ HasSigned memory.records draft.docId draft.user.subject :=
      mt any_isOf_iff.mpr (Bool.eq_false_iff.mp hnone)
    exact ⟨hrecord, hfresh, rfl, rfl⟩
  append_error := by
    rintro memory next _ draft clock cause rfl happend
    change memory.append draft clock = _ at happend
    by_cases hsigned : memory.records.any (isOf draft.docId draft.user.subject) = true
    · simp only [append, hsigned, if_true, Prod.mk.injEq] at happend
      exact happend.2.symm
    · simp [append, hsigned] at happend
  setPrevious_eq := by
    rintro memory _ rfl record hmem previous
    have hfound : memory.records.any (·.id = record.id) = true := by
      simpa using ⟨record, hmem, rfl⟩
    refine ⟨{ memory with records := relinkFirst record.id previous memory.records }, ?_, rfl,
      fun _ => rfl, fun _ _ => rfl⟩
    change memory.setPrevious record.id previous = _
    simp [setPrevious, hfound]
  putDocument_eq := by
    rintro memory _ rfl document
    exact ⟨memory.putDocument document, rfl, rfl, rfl⟩

theorem relinkFirst_append_cons {done rest : List Record} {record : Record}
    (hfresh : record.id ∉ done.map (·.id)) (previous : Option Digest) :
    relinkFirst record.id previous (done ++ record :: rest) =
      done ++ record.withPrevious previous :: rest := by
  induction done with
  | nil => simp [relinkFirst]
  | cons first done ih =>
      simp only [List.map_cons, List.mem_cons, not_or] at hfresh
      have hfirst : first.id ≠ record.id := fun heq => hfresh.1 heq.symm
      simp [relinkFirst, hfirst, ih hfresh.2]

end Memory

/-- Which operations of a store fail, and whether it overlooks existing records. -/
structure Faults where
  fault : Store.Operation → Option StoreError
  blind : Bool

namespace Faults

def none : Faults := ⟨fun _ => .none, false⟩

def around {σ : Type} (faults : Faults) (store : σ) : Faulty σ :=
  ⟨store, faults.fault, faults.blind⟩

end Faults

namespace Faulty

variable {σ : Type} [Store σ]

theorem append_ok {faulty next : Faulty σ} {draft : Draft} {clock : Clock} {record : Record}
    (happend : Store.append faulty draft clock = (.ok record, next)) :
    Store.append faulty.store draft clock = (.ok record, next.store) := by
  change faulty.write .append (Store.append · draft clock) = _ at happend
  cases hfault : faulty.fault .append with
  | some cause => simp [write, hfault] at happend
  | none =>
      simp only [write, hfault, Prod.mk.injEq] at happend
      obtain ⟨hresult, rfl⟩ := happend
      exact Prod.ext hresult rfl

theorem append_around {faulty next : Faulty σ} {draft : Draft} {clock : Clock}
    {record : Record} (happend : Store.append faulty draft clock = (.ok record, next)) :
    next = { faulty with store := next.store } := by
  change faulty.write .append (Store.append · draft clock) = _ at happend
  cases hfault : faulty.fault .append with
  | some cause => simp [write, hfault] at happend
  | none =>
      simp only [write, hfault, Prod.mk.injEq] at happend
      rw [← happend.2]

theorem append_error {faulty next : Faulty σ} {draft : Draft} {clock : Clock}
    {cause : StoreError} (happend : Store.append faulty draft clock = (.error cause, next)) :
    next.store = faulty.store ∨
      Store.append faulty.store draft clock = (.error cause, next.store) := by
  change faulty.write .append (Store.append · draft clock) = _ at happend
  cases hfault : faulty.fault .append with
  | some fault =>
      simp only [write, hfault, Prod.mk.injEq] at happend
      exact .inl (by rw [happend.2])
  | none =>
      simp only [write, hfault, Prod.mk.injEq] at happend
      obtain ⟨hresult, rfl⟩ := happend
      exact .inr (Prod.ext hresult rfl)

theorem last_ok {faulty : Faulty σ} {docId : String} {last : Option Record}
    (hlast : Store.last faulty docId = .ok last) :
    Store.last faulty.store docId = .ok last := by
  change faulty.read .last (Store.last · docId) = _ at hlast
  cases hfault : faulty.fault .last with
  | some cause => simp [read, hfault] at hlast
  | none => simpa [read, hfault] using hlast

end Faulty

namespace Faults

variable {σ : Type} [Store σ] {faults : Faults}

theorem records_fails {cause : StoreError} (hfault : faults.fault .records = some cause)
    (store : σ) : Store.records (faults.around store) = .error cause := by
  change (faults.around store).read .records Store.records = _
  simp [Faulty.read, around, hfault]

theorem records_reaches (hfault : faults.fault .records = .none) (store : σ) :
    Store.records (faults.around store) = Store.records store := by
  change (faults.around store).read .records Store.records = _
  simp [Faulty.read, around, hfault]

theorem setPrevious_fails {id : Int64} {cause : StoreError}
    (hfault : faults.fault (.setPrevious id) = some cause) (previous : Option Digest) (store : σ) :
    Store.setPrevious (faults.around store) id previous = (.error cause, faults.around store) := by
  change (faults.around store).write (.setPrevious id) (Store.setPrevious · id previous) = _
  simp [Faulty.write, around, hfault]

theorem setPrevious_reaches {id : Int64} (hfault : faults.fault (.setPrevious id) = .none)
    (previous : Option Digest) (store : σ) :
    Store.setPrevious (faults.around store) id previous =
      ((Store.setPrevious store id previous).1,
        faults.around (Store.setPrevious store id previous).2) := by
  change (faults.around store).write (.setPrevious id) (Store.setPrevious · id previous) = _
  simp [Faulty.write, around, hfault]

end Faults

end Signoff
