import Signoff.Proofs.Database.History
import Signoff.Proofs.Store.Laws

namespace Signoff

/-! The audit trail of a store, whatever else the store may hold. An entry is put at its end or not
at all. -/

class TrailStore (σ : Type) [Store σ] where
  /-- The later store is the earlier one with these entries at the end of its trail. Nothing else
  differs. -/
  Grows : σ → List Verification → σ → Prop
  Accepts : σ → Prop
  grows_nil (store : σ) : Grows store [] store
  grows_append {first second third : σ} {front back : List Verification}
    (hfirst : Grows first front second) (hsecond : Grows second back third) :
    Grows first (front ++ back) third
  document_eq {store next : σ} {entries : List Verification} (hgrows : Grows store entries next)
    (docId : String) : Store.document next docId = Store.document store docId
  record_accepted {store : σ} (haccepts : Accepts store) (entry : Verification) :
    ∃ next, Store.recordVerification store entry = (.ok (), next)
  record_ok {store next : σ} {entry : Verification}
    (hrecord : Store.recordVerification store entry = (.ok (), next)) : Grows store [entry] next
  record_error {store next : σ} {entry : Verification} {cause : StoreError}
    (hrecord : Store.recordVerification store entry = (.error cause, next)) : next = store

namespace Memory

instance : TrailStore Memory where
  Grows before entries after :=
    after = { before with verifications := before.verifications ++ entries }
  Accepts _ := True
  grows_nil memory := by simp
  grows_append := by
    rintro first _ _ front back rfl rfl
    simp
  document_eq := by
    rintro memory _ entries rfl docId
    rfl
  record_accepted _ _ := ⟨_, rfl⟩
  record_ok := by
    rintro memory _ entry ⟨⟩
    rfl
  record_error := recordVerification_error

end Memory

namespace Database

def TrailGrows (before : Database) (entries : List Verification) (after : Database) : Prop :=
  ∃ rows lastId, rows.map readVerification = entries.map Except.ok ∧
    after = { before with verifications := ⟨before.verifications.rows ++ rows, lastId⟩ }

theorem recordVerification_ok {database next : Database} {entry : Verification}
    (hrecord : database.recordVerification entry = (.ok (), next)) :
    database.TrailGrows [entry] next := by
  simp only [recordVerification] at hrecord
  split at hrecord
  · next row table hinsert =>
      obtain ⟨_, rfl, _, rfl⟩ := Table.insert_ok hinsert
      cases hrecord
      refine ⟨[⟨database.verifications.highest + 1, verificationCells entry⟩], _, ?_, rfl⟩
      exact congrArg ([·]) (readVerification_row (database.verifications.highest + 1, entry))
  · cases hrecord

theorem recordVerification_accepted {database : Database}
    (hroom : database.verifications.highest ≠ Int64.maxValue) (entry : Verification) :
    ∃ next, database.recordVerification entry = (.ok (), next) := by
  have hcheck := check_verification entry (Table.id_fresh hroom)
  simp only [recordVerification, Table.insert_eq _ hroom, hcheck, Except.map]
  exact ⟨_, rfl⟩

instance : TrailStore Database where
  Grows := TrailGrows
  Accepts database := database.verifications.highest ≠ Int64.maxValue
  grows_nil database := ⟨[], database.verifications.lastId, rfl, by simp⟩
  grows_append := by
    rintro first _ _ front back ⟨rows, _, hrows, rfl⟩ ⟨others, lastId, hothers, rfl⟩
    exact ⟨rows ++ others, lastId, by simp [hrows, hothers], by simp⟩
  document_eq := by
    rintro database _ entries ⟨rows, lastId, _, rfl⟩ docId
    rfl
  record_accepted := recordVerification_accepted
  record_ok := recordVerification_ok
  record_error := recordVerification_error

end Database

namespace Faulty

variable {σ : Type} [Store σ]

theorem recordVerification_cases (faulty : Faulty σ) (entry : Verification) :
    (∃ cause, faulty.fault .recordVerification = some cause ∧
      Store.recordVerification faulty entry = (.error cause, faulty)) ∨
    (faulty.fault .recordVerification = none ∧
      Store.recordVerification faulty entry =
        ((Store.recordVerification faulty.store entry).1,
          { faulty with store := (Store.recordVerification faulty.store entry).2 })) := by
  change (∃ cause, _ ∧ faulty.write .recordVerification (Store.recordVerification · entry) = _) ∨
    (_ ∧ faulty.write .recordVerification (Store.recordVerification · entry) = _)
  cases hfault : faulty.fault .recordVerification with
  | some cause => exact .inl ⟨cause, rfl, by simp [write, hfault]⟩
  | none => exact .inr ⟨rfl, by simp [write, hfault]⟩

instance [TrailStore σ] : TrailStore (Faulty σ) where
  Grows before entries after :=
    after = { before with store := after.store } ∧
      TrailStore.Grows before.store entries after.store
  Accepts faulty :=
    faulty.fault .recordVerification = none ∧ TrailStore.Accepts faulty.store
  grows_nil faulty := ⟨rfl, TrailStore.grows_nil faulty.store⟩
  grows_append := by
    rintro first second third front back ⟨hsecond, hfront⟩ ⟨hthird, hback⟩
    refine ⟨?_, TrailStore.grows_append hfront hback⟩
    rw [hthird, hsecond]
  document_eq := by
    rintro faulty next entries ⟨hnext, hgrows⟩ docId
    change next.read .document (Store.document · docId) =
      faulty.read .document (Store.document · docId)
    rw [hnext]
    simp only [read, TrailStore.document_eq hgrows]
  record_accepted := by
    rintro faulty ⟨hfault, haccepts⟩ entry
    obtain ⟨next, hrecord⟩ := TrailStore.record_accepted haccepts entry
    rcases recordVerification_cases faulty entry with ⟨cause, hfails, _⟩ | ⟨_, hreaches⟩
    · rw [hfault] at hfails
      cases hfails
    · exact ⟨_, by rw [hreaches, hrecord]⟩
  record_ok := by
    intro faulty next entry hrecord
    rcases recordVerification_cases faulty entry with ⟨cause, _, hfails⟩ | ⟨_, hreaches⟩
    · rw [hfails] at hrecord
      cases hrecord
    · rw [hreaches, Prod.mk.injEq] at hrecord
      obtain ⟨hresult, rfl⟩ := hrecord
      exact ⟨rfl, TrailStore.record_ok (Prod.ext hresult rfl)⟩
  record_error := by
    intro faulty next entry cause hrecord
    rcases recordVerification_cases faulty entry with ⟨fault, _, hfails⟩ | ⟨_, hreaches⟩
    · rw [hfails, Prod.mk.injEq] at hrecord
      exact hrecord.2.symm
    · rw [hreaches, Prod.mk.injEq] at hrecord
      obtain ⟨hresult, rfl⟩ := hrecord
      have hinner : (Store.recordVerification faulty.store entry).2 = faulty.store :=
        TrailStore.record_error (Prod.ext hresult rfl)
      rw [hinner]

end Faulty

end Signoff
