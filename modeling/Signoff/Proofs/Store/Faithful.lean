import Signoff.Proofs.Database.Constraints

namespace Signoff

/-! Stores that can be trusted with a record. They keep what they accept as it was given, and what
they refuse changes nothing. This asks less of a store than that it be in order. -/

class FaithfulStore (σ : Type) [Store σ] : Prop where
  append_ok {store next : σ} {draft : Draft} {clock : Clock} {record : Record}
    (happend : Store.append store draft clock = (.ok record, next)) :
    ∃ id, record = draft.stored id clock.now
  /-- Whoever looks for the record finds it, if the store can be read at all. -/
  find_append {store next : σ} {draft : Draft} {clock : Clock} {record : Record}
    {found : Option Record} (happend : Store.append store draft clock = (.ok record, next))
    (hfind : Store.find next draft.docId draft.user.subject = .ok found) : found = some record
  append_error {store next : σ} {draft : Draft} {clock : Clock} {cause : StoreError}
    (happend : Store.append store draft clock = (.error cause, next)) : next = store

namespace Memory

instance : FaithfulStore Memory where
  append_ok happend := ⟨_, (append_ok happend).2.1⟩
  find_append {memory next draft clock record found} happend hfind := by
    obtain ⟨hnone, hrecord, rfl⟩ := append_ok happend
    change Except.ok ((memory.records ++ [record]).find?
      (isOf draft.docId draft.user.subject)) = _ at hfind
    have hmissing : memory.records.find? (isOf draft.docId draft.user.subject) = none := by
      rw [List.find?_eq_none]
      exact List.any_eq_false.mp hnone
    have hfound : isOf draft.docId draft.user.subject record = true := by
      simp [hrecord, isOf, Draft.stored]
    rw [List.find?_append, hmissing, List.find?_singleton, hfound] at hfind
    cases hfind
    rfl
  append_error {memory next draft clock cause} happend :=
    LawfulStore.append_error (rfl : memory.records = memory.records) happend

end Memory

namespace Database

theorem not_isOf_of_check {others : List Row} {row : Row} {docId subject : String}
    (hrow : isOf docId subject row = true)
    (hcheck : Schema.signatures.check others row = .ok ()) :
    ∀ other ∈ others, ¬ isOf docId subject other = true := by
  intro other hother hsame
  apply (apart_of_check hcheck other hother).keys
  rw [isOf_iff_keyOf.mp hsame, isOf_iff_keyOf.mp hrow]

instance : FaithfulStore Database where
  append_ok happend := ⟨_, (append_ok happend).2.2.1⟩
  find_append {database next draft clock record found} happend hfind := by
    obtain ⟨_, hcheck, rfl, rfl⟩ := append_ok happend
    have hread := read_signatureCells draft (database.signatures.highest + 1) clock.now
    have hrow : isOf draft.docId draft.user.subject
        ⟨database.signatures.highest + 1, signatureCells draft clock.now⟩ = true := by
      rw [chooses_isOf _ _ hread]
      simp [Memory.isOf, Draft.stored]
    have hmissing :
        database.signatures.rows.find? (isOf draft.docId draft.user.subject) = none :=
      List.find?_eq_none.mpr (not_isOf_of_check hrow hcheck)
    change readFirst readRecord ((database.signatures.rows ++ _).find?
      (isOf draft.docId draft.user.subject)) = _ at hfind
    rw [List.find?_append, hmissing, List.find?_singleton, hrow] at hfind
    simp only [if_true, Option.none_or, readFirst, hread] at hfind
    cases hfind
    rfl
  append_error happend := append_error happend

end Database

namespace Faulty

variable {σ : Type} [Store σ]

theorem find_ok {faulty : Faulty σ} {docId subject : String} {found : Option Record}
    (hfind : Store.find faulty docId subject = .ok found) :
    Store.find faulty.store docId subject = .ok found := by
  change faulty.read .find (Store.find · docId subject) = _ at hfind
  cases hfault : faulty.fault .find with
  | some cause => simp [read, hfault] at hfind
  | none => simpa [read, hfault] using hfind

instance [FaithfulStore σ] : FaithfulStore (Faulty σ) where
  append_ok happend := FaithfulStore.append_ok (append_ok happend)
  find_append happend hfind := FaithfulStore.find_append (append_ok happend) (find_ok hfind)
  append_error {faulty next draft clock cause} happend := by
    change faulty.write .append (Store.append · draft clock) = _ at happend
    cases hfault : faulty.fault .append with
    | some fault =>
        simp only [write, hfault, Prod.mk.injEq] at happend
        exact happend.2.symm
    | none =>
        simp only [write, hfault, Prod.mk.injEq] at happend
        obtain ⟨hresult, rfl⟩ := happend
        have hinner : Store.append faulty.store draft clock =
            (.error cause, (Store.append faulty.store draft clock).2) := Prod.ext hresult rfl
        rw [FaithfulStore.append_error hinner]

end Faulty

end Signoff
