import Signoff.Proofs.Ledger.Session
import Signoff.Proofs.Store.Agreement

namespace Signoff

/-! The records of a store are only ever appended to. Whatever a store is asked, each call adds one
record, or changes the link of one, or leaves them all as they are. -/

theorem Memory.relinkFirst_eq {records : List Record} {id : Int64}
    (hfound : ∃ record ∈ records, record.id = id) (previous : Option Digest) :
    ∃ front record back, records = front ++ record :: back ∧ record.id = id ∧
      (∀ other ∈ front, other.id ≠ id) ∧
      relinkFirst id previous records = front ++ record.withPrevious previous :: back := by
  have hsome : (records.find? (·.id = id)).isSome = true := by
    simpa [List.find?_isSome] using hfound
  obtain ⟨record, hrecord⟩ := Option.isSome_iff_exists.mp hsome
  obtain ⟨hid, front, back, rfl, hfront⟩ := List.find?_eq_some_iff_append.mp hrecord
  obtain rfl := of_decide_eq_true hid
  have hfirst : ∀ other ∈ front, other.id ≠ record.id := by simpa using hfront
  have hnone : record.id ∉ front.map (·.id) := by simpa using hfirst
  exact ⟨front, record, back, rfl, rfl, hfirst, relinkFirst_append_cons hnone previous⟩

namespace Store

def Answer.Fails : Answer → Prop
  | .done result => ¬ result.isOk
  | .stored result => ¬ result.isOk
  | .record result => ¬ result.isOk
  | .records result => ¬ result.isOk
  | .truth result => ¬ result.isOk
  | .document result => ¬ result.isOk
  | .verification result => ¬ result.isOk
  | .verifications result => ¬ result.isOk

def Answer.created? : Answer → Option Record
  | .stored (.ok created) => some created
  | _ => none

def Call.Writes : Call → Prop
  | .append _ => True
  | .setPrevious _ _ => True
  | _ => False

/-- What becomes of the records of a store when it answers a call in this way. -/
inductive Changes (clock : Clock) (records : List Record) : Call → Answer → List Record → Prop
  | append {draft : Draft} (fresh : ¬ HasSigned records draft.docId draft.user.subject) :
      Changes clock records (.append draft)
        (.stored (.ok (draft.stored (Int64.ofNat (records.length + 1)) clock.now)))
        (records ++ [draft.stored (Int64.ofNat (records.length + 1)) clock.now])
  | setPrevious {front back : List Record} {record : Record} {previous : Option Digest}
      (split : records = front ++ record :: back) (first : ∀ other ∈ front, other.id ≠ record.id) :
      Changes clock records (.setPrevious record.id previous) (.done (.ok ()))
        (front ++ record.withPrevious previous :: back)
  | failed {call : Call} {answer : Answer} (fails : answer.Fails) :
      Changes clock records call answer records
  | other {call : Call} {answer : Answer} (reads : ¬ call.Writes) :
      Changes clock records call answer records

variable {σ : Type} [Store σ]

/-- A store after it has given these answers. `room` says that there are numbers left. -/
structure AppendOnly (room : Prop) (store : σ) (answers : List Answer) (records : List Record) :
    Prop where
  views : Views store records
  unique : records.Pairwise fun left right =>
    ¬ (left.docId = right.docId ∧ left.user.subject = right.user.subject)
  ids : records.map (·.id) = Session.numbers records.length
  /-- The records stand in the order of their creation and differ in their links at most from what
  was handed back then. -/
  created : records.map (·.withPrevious none) =
    (answers.filterMap Answer.created?).map (·.withPrevious none)
  changes : ∀ (call : Call) (clock : Clock), ∃ next,
    Changes clock records call (call.run clock store).1 next ∧ Views (call.run clock store).2 next
  /-- What fails changes nothing, not even the number of the next record. -/
  failed : ∀ (call : Call) (clock : Clock), (call.run clock store).1.Fails →
    (call.run clock store).2 = store
  signed : ∀ draft clock docId subject,
    (Store.append store draft clock).1 = .error (.duplicate docId subject) →
      docId = draft.docId ∧ subject = draft.user.subject ∧ HasSigned records docId subject
  duplicate : room → ∀ draft clock, HasSigned records draft.docId draft.user.subject →
    (Store.append store draft clock).1 = .error (.duplicate draft.docId draft.user.subject)
  fresh : room → ∀ draft clock, ¬ HasSigned records draft.docId draft.user.subject →
    ∃ record, (Store.append store draft clock).1 = .ok record
  set : ∀ id previous, (∃ record ∈ records, record.id = id) →
    (Store.setPrevious store id previous).1 = .ok ()
  missing : ∀ id previous, (∀ record ∈ records, record.id ≠ id) →
    (Store.setPrevious store id previous).1 = .error (.noRecord id)

structure Lists [ListStore σ] (store : σ) (answers : List Answer) (records : List Record) :
    Prop where
  holds : LawfulStore.Holds store records
  unique : records.Pairwise fun left right =>
    ¬ (left.docId = right.docId ∧ left.user.subject = right.user.subject)
  ids : records.map (·.id) = Session.numbers records.length
  lastId : LawfulStore.lastId store = Int64.ofNat records.length
  created : records.map (·.withPrevious none) =
    (answers.filterMap Answer.created?).map (·.withPrevious none)

namespace Lists

variable [ListStore σ] {store : σ} {answers : List Answer} {records : List Record}

theorem keep (hlists : Lists store answers records) {next : σ} {answer : Answer}
    (hholds : LawfulStore.Holds next records)
    (hlast : LawfulStore.lastId next = LawfulStore.lastId store)
    (hanswer : answer.created? = none) : Lists next (answers ++ [answer]) records where
  holds := hholds
  unique := hlists.unique
  ids := hlists.ids
  lastId := hlast.trans hlists.lastId
  created := by simp [hlists.created, hanswer]

theorem append (hlists : Lists store answers records) {draft : Draft} {clock : Clock}
    {record : Record} {next : σ}
    (happend : Store.append store draft clock = (.ok record, next)) :
    Changes clock records (.append draft) (.stored (.ok record)) (records ++ [record]) ∧
      Lists next (answers ++ [.stored (.ok record)]) (records ++ [record]) := by
  obtain ⟨rfl, hfresh, hholds, hlast⟩ := LawfulStore.append_ok hlists.holds happend
  rw [hlists.lastId] at hholds hlast ⊢
  have hnumber : Int64.ofNat records.length + 1 = Int64.ofNat (records.length + 1) := by
    rw [Int64.ofNat_add]
    rfl
  constructor
  · rw [hnumber]
    exact .append hfresh
  constructor
  · exact hholds
  · exact unique_concat hlists.unique hfresh
  · simp [hlists.ids, Session.numbers_succ, Draft.stored]
  · rw [hlast, hnumber, List.length_append, List.length_singleton]
  · have hcreated : [Answer.stored (.ok (draft.stored (Int64.ofNat records.length + 1)
        clock.now))].filterMap Answer.created? =
          [draft.stored (Int64.ofNat records.length + 1) clock.now] := rfl
    rw [List.filterMap_append, hcreated, List.map_append, List.map_append, hlists.created]

theorem setPrevious (hlists : Lists store answers records) {id : Int64}
    (hfound : ∃ record ∈ records, record.id = id) (previous : Option Digest) (clock : Clock) :
    ∃ next after, Store.setPrevious store id previous = (.ok (), next) ∧
      Changes clock records (.setPrevious id previous) (.done (.ok ())) after ∧
      Lists next (answers ++ [.done (.ok ())]) after := by
  obtain ⟨front, record, back, rfl, rfl, hfirst, hrelink⟩ := Memory.relinkFirst_eq hfound previous
  obtain ⟨next, hset, hholds, _⟩ :=
    LawfulStore.setPrevious_eq hlists.holds (by simp : record ∈ front ++ record :: back) previous
  have hlast := ListStore.lastId_setPrevious hlists.holds record.id previous
  rw [hset] at hlast
  rw [hrelink] at hholds
  refine ⟨next, _, hset, .setPrevious rfl hfirst, hholds, ?_, ?_, ?_, ?_⟩
  · have hunique := hlists.unique
    simp only [List.pairwise_append, List.pairwise_cons, List.mem_cons, forall_eq_or_imp]
      at hunique ⊢
    exact hunique
  · have hids := hlists.ids
    simp only [List.map_append, List.map_cons, List.length_append, List.length_cons] at hids ⊢
    exact hids
  · rw [hlast, hlists.lastId]
    simp only [List.length_append, List.length_cons]
  · have hcreated := hlists.created
    have hnone : [Answer.done (.ok ())].filterMap Answer.created? = [] := rfl
    rw [List.filterMap_append, hnone, List.append_nil, ← hcreated, List.map_append, List.map_append]
    rfl

theorem step (hlists : Lists store answers records) (call : Call) (clock : Clock) :
    ∃ next, Changes clock records call (call.run clock store).1 next ∧
      Lists (call.run clock store).2 (answers ++ [(call.run clock store).1]) next ∧
      ((call.run clock store).1.Fails → (call.run clock store).2 = store) := by
  cases call with
  | append draft =>
      cases happend : Store.append store draft clock with
      | mk result next =>
          simp only [Call.run, happend]
          cases result with
          | ok record =>
              obtain ⟨hchanges, hnext⟩ := hlists.append happend
              exact ⟨_, hchanges, hnext, fun hfails => absurd rfl hfails⟩
          | error cause =>
              obtain rfl := LawfulStore.append_error hlists.holds happend
              exact ⟨records, .failed Bool.false_ne_true, hlists.keep hlists.holds rfl rfl, fun _ => rfl⟩
  | setPrevious id previous =>
      by_cases hfound : ∃ record ∈ records, record.id = id
      -- The link of the first record with this number is set, or there is none.
      · obtain ⟨next, after, hset, hchanges, hafter⟩ := hlists.setPrevious hfound previous clock
        simp only [Call.run, hset]
        exact ⟨after, hchanges, hafter, fun hfails => absurd rfl hfails⟩
      · have hmissing : ∀ record ∈ records, record.id ≠ id :=
          fun record hmem hid => hfound ⟨record, hmem, hid⟩
        simp only [Call.run, ListStore.setPrevious_missing hlists.holds hmissing]
        exact ⟨records, .failed Bool.false_ne_true, hlists.keep hlists.holds rfl rfl, fun _ => trivial⟩
  | putDocument document =>
      obtain ⟨next, hput, hholds, hlast⟩ := LawfulStore.putDocument_eq hlists.holds document
      simp only [Call.run, hput]
      exact ⟨records, .other id, hlists.keep hholds hlast rfl, fun hfails => absurd rfl hfails⟩
  | recordVerification verification =>
      obtain ⟨hholds, hlast⟩ := ListStore.recordVerification_holds hlists.holds verification
      refine ⟨records, .other id, hlists.keep hholds hlast rfl, ?_⟩
      cases hrecord : Store.recordVerification store verification with
      | mk result next =>
          simp only [Call.run, hrecord]
          cases result with
          | ok => exact fun hfails => absurd rfl hfails
          | error cause => exact fun _ => ListStore.recordVerification_error hrecord
  | _ => exact ⟨records, .other id, hlists.keep hlists.holds rfl rfl, fun _ => rfl⟩

theorem run (hlists : Lists store answers records) (calls : List (Call × Clock)) :
    ∃ last, Lists (run store calls).2 (answers ++ (run store calls).1) last := by
  induction calls generalizing store answers records with
  | nil => exact ⟨records, by simpa [Store.run] using hlists⟩
  | cons first rest ih =>
      obtain ⟨next, _, hnext, _⟩ := hlists.step first.1 first.2
      obtain ⟨last, hlast⟩ := ih hnext
      refine ⟨last, ?_⟩
      rw [run_cons]
      simpa using hlast

theorem start {store : σ} (hholds : LawfulStore.Holds store [])
    (hlast : LawfulStore.lastId store = 0) : Lists store [] [] where
  holds := hholds
  unique := .nil
  ids := rfl
  lastId := hlast
  created := rfl

theorem appendOnly (hlists : Lists store answers records) {room : Prop}
    (hroom : room → ListStore.Room store) : AppendOnly room store answers records where
  views := views_of_holds hlists.holds hlists.unique
  unique := hlists.unique
  ids := hlists.ids
  created := hlists.created
  changes call clock := by
    obtain ⟨next, hchanges, hnext, _⟩ := hlists.step call clock
    exact ⟨next, hchanges, views_of_holds hnext.holds hnext.unique⟩
  failed call clock := by
    obtain ⟨_, _, _, hfailed⟩ := hlists.step call clock
    exact hfailed
  signed _ _ _ _ happend := ListStore.append_duplicate hlists.holds happend
  duplicate hleft draft clock hsigned := by
    rw [ListStore.append_signed hlists.holds (hroom hleft) clock hsigned]
  fresh hleft _ clock hfresh := ListStore.append_fresh hlists.holds (hroom hleft) clock hfresh
  set id previous hfound := by
    obtain ⟨next, _, hset, _⟩ := hlists.setPrevious hfound previous ⟨0⟩
    rw [hset]
  missing id previous hmissing := by
    rw [ListStore.setPrevious_missing hlists.holds hmissing]

theorem increasing (hlists : Lists store answers records)
    (hlength : (records.length : Int) ≤ Int64.maxValue.toInt) :
    records.Pairwise fun left right => left.id < right.id := by
  have hnumbers := Session.numbers_increasing hlength
  rw [← hlists.ids, List.pairwise_map] at hnumbers
  exact hnumbers

end Lists

/-- Whatever either store has been asked since it was empty, its records are one list that only
grows. A store in memory never holds 2⁶³ records, a database takes no record once its numbers have
run out. -/
theorem run_appendOnly (start : Clock) (calls : List (Call × Clock)) :
    let memory := run Memory.empty calls
    let database := run (Database.fresh start) calls
    (∃ records, AppendOnly True memory.2 memory.1 records ∧
      ((records.length : Int) ≤ Int64.maxValue.toInt →
        records.Pairwise fun left right => left.id < right.id)) ∧
    ∃ records,
      AppendOnly ((records.length : Int) < Int64.maxValue.toInt) database.2 database.1 records ∧
        records.Pairwise fun left right => left.id < right.id := by
  intro memory database
  have hmemory : Lists Memory.empty [] [] := .start rfl rfl
  have hdatabase : Lists (Database.fresh start) [] [] := by
    refine .start (Database.inOrder_fresh start) ?_
    change (Database.fresh start).signatures.highest = 0
    rw [Database.signatures_fresh]
    rfl
  obtain ⟨records, hrecords⟩ := hmemory.run calls
  obtain ⟨rows, hrows⟩ := hdatabase.run calls
  refine ⟨⟨records, hrecords.appendOnly fun _ => trivial, hrecords.increasing⟩, rows,
    hrows.appendOnly fun hlength hfull => ?_, Database.InOrder.increasing hrows.holds⟩
  exact Database.ofNat_ne_maxValue hlength (hrows.lastId.symm.trans hfull)

end Store

end Signoff
