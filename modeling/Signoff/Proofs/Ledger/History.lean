import Signoff.Ledger.Verification
import Signoff.Proofs.Store.Agreement

namespace Signoff

/-! The history of a document is all that was recorded about it, newest first, as far as it is asked
for. -/

/-- Later times come first, and of one time what was recorded later. Each verification stands with
its place among all that were recorded. -/
def Newer (left right : Verification × Nat) : Prop :=
  right.1.verifiedAt < left.1.verifiedAt ∨
    left.1.verifiedAt = right.1.verifiedAt ∧ right.2 < left.2

def NewestFirst (recorded : List Verification) (docId : String) (listed : List Verification) :
    Prop :=
  ∃ placed : List (Verification × Nat),
    placed.Perm (recorded.zipIdx.filter (·.1.docId = docId)) ∧ placed.Pairwise Newer ∧
      placed.map (·.1) = listed

theorem pairwise_zipIdx {α : Type} (items : List α) :
    items.zipIdx.Pairwise fun left right => left.2 < right.2 := by
  apply List.pairwise_map.mp
  change (items.zipIdx.map Prod.snd).Pairwise (· < ·)
  rw [List.zipIdx_map_snd]
  exact List.pairwise_lt_range'

theorem Memory.newestFirst (memory : Memory) (docId : String) :
    NewestFirst memory.verifications docId (memory.verificationsOf docId) := by
  have hplaces := (pairwise_zipIdx memory.verifications).filter (·.1.docId = docId)
  refine ⟨(memory.verifications.zipIdx.filter (·.1.docId = docId)).reverse.mergeSort
    fun left right => laterFirst left.1 right.1, ?_, ?_, ?_⟩
  · exact (List.mergeSort_perm _ _).trans (List.reverse_perm _)
  · apply pairwise_laterFirst
    · refine hplaces.imp fun {left right} hplace hlater => ?_
      rcases Int64.lt_or_eq_of_le hlater with hlt | heq
      · exact .inl hlt
      · exact .inr ⟨heq.symm, hplace⟩
    · exact fun first second hlater => .inl hlater
  · have hfilter : (memory.verifications.zipIdx.filter (·.1.docId = docId)).map (·.1) =
        memory.verifications.filter (·.docId = docId) := by
      have hitems := List.zipIdx_map_fst 0 memory.verifications
      exact List.filter_map.symm.trans (congrArg (List.filter (·.docId = docId)) hitems)
    rw [verificationsOf, ← hfilter, ← List.map_reverse]
    exact List.map_mergeSort fun left _ right _ => rfl

namespace Store

def Call.recorded? : Call → Answer → Option Verification
  | .recordVerification verification, .done (.ok ()) => some verification
  | _, _ => none

def Call.offered? : Call → Option Verification
  | .recordVerification verification => some verification
  | _ => none

def offered (calls : List (Call × Clock)) : List Verification :=
  calls.filterMap (·.1.offered?)

variable {σ : Type} [Store σ]

def recorded (store : σ) : List (Call × Clock) → List Verification
  | [] => []
  | (call, clock) :: rest =>
    let (answer, next) := call.run clock store
    (call.recorded? answer).toList ++ recorded next rest

end Store

/-- A store that keeps all that is put on record. -/
class HistoryStore (σ : Type) [Store σ] where
  Keeps : σ → List Verification → Prop
  Accepts : Nat → Prop
  step {store : σ} {recorded : List Verification} (keeps : Keeps store recorded)
    (call : Store.Call) (clock : Clock) :
    Keeps (call.run clock store).2
      (recorded ++ (call.recorded? (call.run clock store).1).toList)
  accepted {store : σ} {recorded : List Verification} (keeps : Keeps store recorded)
    (accepts : Accepts recorded.length) (verification : Verification) :
    (Store.recordVerification store verification).1 = .ok ()
  listed {store : σ} {recorded : List Verification} (keeps : Keeps store recorded)
    (docId : String) : ∃ listed, NewestFirst recorded docId listed ∧
      (∀ limit ≤ Database.largestLimit, Store.history store docId limit = .ok (listed.take limit)) ∧
      Store.lastVerification store docId = .ok listed.head?

instance : HistoryStore Memory where
  Keeps memory recorded := memory.verifications = recorded
  Accepts _ := True
  step := by
    rintro memory _ rfl call clock
    cases call with
    | append draft =>
        change (memory.append draft clock).2.verifications = memory.verifications ++ []
        simp only [Memory.append, List.append_nil]
        split <;> rfl
    | setPrevious id previous =>
        change (memory.setPrevious id previous).2.verifications = memory.verifications ++ []
        simp only [Memory.setPrevious, List.append_nil]
        split <;> rfl
    | recordVerification verification => rfl
    | _ => exact (List.append_nil _).symm
  accepted _ _ _ := rfl
  listed := by
    rintro memory _ rfl docId
    refine ⟨memory.verificationsOf docId, memory.newestFirst docId, fun limit _ => rfl, ?_⟩
    change Except.ok ((memory.verificationsOf docId).take 1).head? = _
    rw [List.head?_take]
    rfl

namespace Database

theorem verifications_append (database : Database) (draft : Draft) (clock : Clock) :
    (database.append draft clock).2.verifications = database.verifications := by
  simp only [append]
  split <;> rfl

theorem verifications_setPrevious (database : Database) (id : Int64) (previous : Option Digest) :
    (database.setPrevious id previous).2.verifications = database.verifications := by
  simp only [setPrevious]
  split
  · rfl
  · next hupdate =>
      obtain ⟨_, _, hresult⟩ := bind_eq_ok_iff.mp hupdate
      cases hresult
      rfl
  · rfl

/-- The rows of a table that has given out no number but theirs. -/
structure Records (table : Table) (recorded : List Verification) : Prop where
  keeps : Keeps table recorded
  highest : table.highest = Int64.ofNat recorded.length
  numbered : (recorded.length : Int) ≤ Int64.maxValue.toInt

theorem records_empty : Records .empty [] := ⟨keeps_empty, rfl, by decide⟩

theorem Records.accepted {database : Database} {recorded : List Verification}
    (hrecords : Records database.verifications recorded)
    (hroom : (recorded.length : Int) < Int64.maxValue.toInt) (verification : Verification) :
    ∃ table, database.recordVerification verification =
        (.ok (), { database with verifications := table }) ∧
      Records table (recorded ++ [verification]) := by
  obtain ⟨table, hrecord, hkeeps, hhighest⟩ := recordVerification_keeps hrecords.keeps
    (hrecords.highest ▸ ofNat_ne_maxValue hroom) verification
  refine ⟨table, hrecord, hkeeps, ?_, ?_⟩
  · rw [hhighest, hrecords.highest, List.length_append, Int64.ofNat_add]
    rfl
  · rw [List.length_append, List.length_singleton]
    omega

theorem Records.refused {database : Database} {recorded : List Verification}
    (hrecords : Records database.verifications recorded)
    (hfull : ¬ (recorded.length : Int) < Int64.maxValue.toInt) (verification : Verification) :
    database.recordVerification verification = (.error (.database .full), database) := by
  have hlength : recorded.length = Int64.maxValue.toInt.toNat := by
    have hnumbered := hrecords.numbered
    omega
  have hhighest : database.verifications.highest = Int64.maxValue := by
    rw [hrecords.highest, hlength]
    rfl
  simp only [recordVerification, Table.insert, if_pos hhighest]

theorem Records.listed {database : Database} {recorded : List Verification}
    (hrecords : Records database.verifications recorded) (docId : String) :
    ∃ listed, NewestFirst recorded docId listed ∧
      (∀ limit ≤ largestLimit, Store.history database docId limit = .ok (listed.take limit)) ∧
      Store.lastVerification database docId = .ok listed.head? := by
  have hnewest := Memory.newestFirst { Memory.empty with verifications := recorded } docId
  have hread := @verificationsOf_eq database { Memory.empty with verifications := recorded }
    hrecords.keeps docId
  have hhistory (limit : Nat) (hlimit : limit ≤ largestLimit) :
      Store.history database docId limit =
        .ok ((Memory.verificationsOf { Memory.empty with verifications := recorded } docId).take
          limit) := by
    apply readAll_eq
    rw [Nat.min_eq_left hlimit, List.map_take, hread, ← List.map_take]
  refine ⟨_, hnewest, hhistory, ?_⟩
  change (Store.history database docId 1).map List.head? = _
  rw [hhistory 1 (by decide)]
  change Except.ok (List.head? _) = _
  rw [List.head?_take]
  rfl

instance : HistoryStore Database where
  Keeps database recorded := Records database.verifications recorded
  Accepts count := (count : Int) < Int64.maxValue.toInt
  step {database recorded} hrecords call clock := by
    cases call with
    | append draft =>
        change Records (database.append draft clock).2.verifications (recorded ++ [])
        rw [verifications_append, List.append_nil]
        exact hrecords
    | setPrevious id previous =>
        change Records (database.setPrevious id previous).2.verifications (recorded ++ [])
        rw [verifications_setPrevious, List.append_nil]
        exact hrecords
    | recordVerification verification =>
        by_cases hroom : (recorded.length : Int) < Int64.maxValue.toInt
        · obtain ⟨table, hrecord, hnext⟩ := hrecords.accepted hroom verification
          have hstore : Store.recordVerification database verification = _ := hrecord
          simp only [Store.Call.run, hstore]
          exact hnext
        · have hstore : Store.recordVerification database verification = _ :=
            hrecords.refused hroom verification
          simpa only [Store.Call.run, hstore, Store.Call.recorded?, Option.toList,
            List.append_nil] using hrecords
    | _ => exact (List.append_nil recorded).symm ▸ hrecords
  accepted {database recorded} hrecords hroom verification := by
    obtain ⟨table, hrecord, _⟩ := hrecords.accepted hroom verification
    exact congrArg Prod.fst hrecord
  listed := Records.listed

end Database

namespace Store

variable {σ : Type} [Store σ] [HistoryStore σ]

theorem keeps_run {store : σ} {trail : List Verification} (hkeeps : HistoryStore.Keeps store trail)
    (calls : List (Call × Clock)) :
    HistoryStore.Keeps (run store calls).2 (trail ++ recorded store calls) := by
  induction calls generalizing store trail with
  | nil => simpa [run, recorded] using hkeeps
  | cons first rest ih =>
      have hnext := ih (HistoryStore.step hkeeps first.1 first.2)
      rw [run_cons]
      simpa [recorded] using hnext

theorem offered_cons (call : Call) (clock : Clock) (rest : List (Call × Clock)) :
    offered ((call, clock) :: rest) = call.offered?.toList ++ offered rest := by
  cases hoffered : call.offered? <;> simp [offered, hoffered]

theorem recorded?_eq_offered? {store : σ} {trail : List Verification}
    (hkeeps : HistoryStore.Keeps store trail) {call : Call} (clock : Clock)
    (haccepts : call.offered?.isSome → HistoryStore.Accepts σ trail.length) :
    call.recorded? (call.run clock store).1 = call.offered? := by
  cases call with
  | recordVerification verification =>
      have hresult := HistoryStore.accepted hkeeps (haccepts rfl) verification
      simp only [Call.run, hresult]
      rfl
  | _ => rfl

/-- Nothing is lost as long as the store accepts it. -/
theorem recorded_eq_offered {store : σ} {trail : List Verification}
    (hkeeps : HistoryStore.Keeps store trail) {calls : List (Call × Clock)}
    (haccepts : ∀ count < trail.length + (offered calls).length, HistoryStore.Accepts σ count) :
    recorded store calls = offered calls := by
  induction calls generalizing store trail with
  | nil => rfl
  | cons first rest ih =>
      obtain ⟨call, clock⟩ := first
      rw [offered_cons, List.length_append] at haccepts
      have hcall : call.recorded? (call.run clock store).1 = call.offered? := by
        refine recorded?_eq_offered? hkeeps clock fun hsome => haccepts _ ?_
        have hone : call.offered?.toList.length = 1 := by simp [hsome]
        omega
      have hnext := HistoryStore.step hkeeps call clock
      rw [hcall] at hnext
      have hrest := ih hnext fun count hcount => haccepts count (by simp at hcount; omega)
      simp only [recorded, hcall, hrest, offered_cons]

end Store

/-- What the ledger tells about a document of which these verifications are listed. -/
structure Remembers {σ : Type} [Store σ] (store : σ) (docId : String)
    (listed : List Verification) : Prop where
  history : ∀ limit : Int64, ChecksumService.history store docId limit =
    .ok (listed.take (if 0 < limit then limit.toInt.toNat else 20))
  last : ChecksumService.lastVerification store docId = .ok listed.head?

theorem remembers_of_keeps {σ : Type} [Store σ] [HistoryStore σ] {store : σ}
    {trail : List Verification} (hkeeps : HistoryStore.Keeps store trail) (docId : String) :
    ∃ listed, NewestFirst trail docId listed ∧ Remembers store docId listed := by
  obtain ⟨listed, hnewest, hhistory, hlast⟩ := HistoryStore.listed hkeeps docId
  refine ⟨listed, hnewest, fun limit => ?_, ?_⟩
  · have hlimit : (if 0 < limit then limit.toNatClampNeg else ChecksumService.defaultHistoryLimit) ≤
        Database.largestLimit := by
      split
      · exact Int.toNat_le_toNat (Int64.le_iff_toInt_le.mp (Int64.le_maxValue limit))
      · decide
    rw [ChecksumService.history, hhistory _ hlimit]
    rfl
  · rw [ChecksumService.lastVerification, hlast]
    rfl

namespace Store

/-- Whatever else a store is asked, its history of a document is what was recorded about it, newest
first, as far as it is asked for. Memory takes any number of verifications, a database as many as
it has numbers. -/
theorem history_newestFirst (start : Clock) (calls : List (Call × Clock)) (docId : String) :
    (∃ listed, NewestFirst (recorded Memory.empty calls) docId listed ∧
      Remembers (run Memory.empty calls).2 docId listed) ∧
    recorded Memory.empty calls = offered calls ∧
    (∃ listed, NewestFirst (recorded (Database.fresh start) calls) docId listed ∧
      Remembers (run (Database.fresh start) calls).2 docId listed) ∧
    (((offered calls).length : Int) ≤ Int64.maxValue.toInt →
      recorded (Database.fresh start) calls = offered calls) := by
  have hmemory : HistoryStore.Keeps Memory.empty [] := rfl
  have hdatabase : HistoryStore.Keeps (Database.fresh start) [] := by
    obtain ⟨_, _, hfresh⟩ := Database.sameTables_migrate start Database.empty
    change Database.Records (Database.fresh start).verifications []
    rw [Database.fresh, hfresh]
    exact Database.records_empty
  refine ⟨?_, ?_, ?_, fun hlength => ?_⟩
  · exact remembers_of_keeps (keeps_run hmemory calls) docId
  · exact recorded_eq_offered hmemory fun _ _ => trivial
  · exact remembers_of_keeps (keeps_run hdatabase calls) docId
  · apply recorded_eq_offered hdatabase
    intro count hcount
    change (count : Int) < Int64.maxValue.toInt
    simp only [List.length_nil, Nat.zero_add] at hcount
    omega

end Store

end Signoff
