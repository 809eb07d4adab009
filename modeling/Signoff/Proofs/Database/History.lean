import Signoff.Database
import Signoff.Proofs.Database.Queries
import Signoff.Proofs.Database.Table
import Signoff.Proofs.Database.Values
import Signoff.Store.Memory

namespace Signoff

/-! The history of a document, newest first. A list in memory turns around what it holds and sorts
it by time alone; a table sorts its rows by time and then by number. Both come to the same. -/

theorem pairwise_mergeSort_of_ties {α : Type} {le : α → α → Bool} {before : α → α → Prop}
    {items : List α}
    (trans : ∀ first second third, le first second → le second third → le first third)
    (total : ∀ first second, le first second || le second first)
    (hties : items.Pairwise fun first second => le first second → before first second)
    (hstrict : ∀ first second, le first second → ¬ le second first → before first second) :
    (items.mergeSort le).Pairwise before := by
  induction items with
  | nil => simp
  | cons item rest ih =>
      obtain ⟨front, back, hsorted, hrest, hfront⟩ := List.mergeSort_cons trans total item rest
      have hordered := List.pairwise_mergeSort trans total (item :: rest)
      have hbefore := ih hties.tail
      rw [hsorted, List.pairwise_append, List.pairwise_cons] at hordered
      rw [hrest, List.pairwise_append] at hbefore
      obtain ⟨_, ⟨hback, _⟩, hall⟩ := hordered
      rw [hsorted, List.pairwise_append, List.pairwise_cons]
      refine ⟨hbefore.1, ⟨fun other hother => ?_, hbefore.2.1⟩, fun other hother last hlast => ?_⟩
      · have hmem : other ∈ rest := by
          have hsorted : other ∈ rest.mergeSort le := hrest ▸ List.mem_append_right front hother
          exact List.mem_mergeSort.mp hsorted
        exact List.rel_of_pairwise_cons hties hmem (hback other hother)
      · rcases List.mem_cons.mp hlast with rfl | hlater
        · have hne : ¬ le last other := by simpa using hfront other hother
          exact hstrict other last (hall other hother last List.mem_cons_self) hne
        · exact hbefore.2.2 other hother last hlater

namespace Memory

theorem laterFirst_trans (first second third : Verification) (hfirst : laterFirst first second)
    (hsecond : laterFirst second third) : laterFirst first third := by
  simp only [laterFirst, decide_eq_true_eq] at *
  exact Int64.le_trans hsecond hfirst

theorem laterFirst_total (first second : Verification) :
    laterFirst first second || laterFirst second first := by
  simpa [laterFirst] using Int64.le_total second.verifiedAt first.verifiedAt

/-- A list that is turned around and sorted by time alone is in any order that decides by time and,
where times are equal, for what stood further back. -/
theorem pairwise_laterFirst {α : Type} {verification : α → Verification} {before : α → α → Prop}
    {items : List α}
    (hback : items.Pairwise fun first second =>
      (verification first).verifiedAt ≤ (verification second).verifiedAt → before second first)
    (hlater : ∀ first second, (verification second).verifiedAt < (verification first).verifiedAt →
      before first second) :
    (items.reverse.mergeSort fun first second =>
      laterFirst (verification first) (verification second)).Pairwise before := by
  apply pairwise_mergeSort_of_ties
  · exact fun _ _ _ => laterFirst_trans _ _ _
  · exact fun _ _ => laterFirst_total _ _
  · rw [List.pairwise_reverse]
    exact hback.imp fun hbefore hlater => hbefore (of_decide_eq_true hlater)
  · intro first second _ hearlier
    rw [laterFirst, decide_eq_true_eq, Int64.not_le] at hearlier
    exact hlater first second hearlier

end Memory

namespace Database

abbrev Entry := Int64 × Verification

namespace Entry

def row (entry : Entry) : Row := ⟨entry.1, verificationCells entry.2⟩

/-- The later comes first, and of two at one time the one with the larger number. -/
def before (left right : Entry) : Bool :=
  if left.2.verifiedAt = right.2.verifiedAt then right.1 ≤ left.1
  else right.2.verifiedAt ≤ left.2.verifiedAt

theorem before_antisymm {left right : Entry} (hleft : before left right)
    (hright : before right left) : left.1 = right.1 := by
  simp only [before] at hleft hright
  split at hleft
  · next hsame =>
      rw [if_pos hsame.symm] at hright
      exact Int64.le_antisymm (of_decide_eq_true hright) (of_decide_eq_true hleft)
  · next hdiffer =>
      rw [if_neg (Ne.symm hdiffer)] at hright
      exact absurd (Int64.le_antisymm (of_decide_eq_true hright) (of_decide_eq_true hleft)) hdiffer

theorem before_total (left right : Entry) : before left right || before right left := by
  simp only [before]
  by_cases hsame : left.2.verifiedAt = right.2.verifiedAt
  · simpa [hsame] using Int64.le_total right.1 left.1
  · simpa [hsame, Ne.symm hsame] using Int64.le_total right.2.verifiedAt left.2.verifiedAt

theorem before_trans (first second third : Entry) (hfirst : before first second)
    (hsecond : before second third) : before first third := by
  simp only [before, Int64.le_iff_toInt_le, ← Int64.toInt_inj] at *
  grind

end Entry

theorem readVerification_row (entry : Entry) : readVerification entry.row = .ok entry.2 := by
  obtain ⟨id, docId, verifiedBy, verifiedAt, stored, calculated, algorithm, valid, error⟩ := entry
  cases valid <;> cases error <;> rfl

theorem holds_row (entry : Entry) (docId : String) :
    holds entry.row 0 docId = decide (entry.2.docId = docId) := by
  simp [holds, Entry.row, Row.cell, verificationCells]

theorem mergeSort_before {entries : List Entry}
    (hordered : entries.Pairwise fun left right => left.1 < right.1) :
    entries.mergeSort Entry.before =
      entries.reverse.mergeSort fun left right => Memory.laterFirst left.2 right.2 := by
  have hperm : (entries.mergeSort Entry.before).Perm
      (entries.reverse.mergeSort fun left right => Memory.laterFirst left.2 right.2) :=
    (List.mergeSort_perm _ _).trans
      ((List.reverse_perm entries).symm.trans (List.mergeSort_perm _ _).symm)
  have hinjective : ∀ left ∈ entries, ∀ right ∈ entries, left.1 = right.1 → left = right := by
    apply List.Pairwise.forall_of_forall_of_flip
    · exact fun _ _ _ => rfl
    · exact hordered.imp fun hlt heq => absurd heq (Int64.ne_of_lt hlt)
    · exact hordered.imp fun hlt heq => absurd heq.symm (Int64.ne_of_lt hlt)
  -- Two lists of the same entries in one order are equal, since no two entries share a number.
  refine hperm.eq_of_pairwise (fun left right hleft hright hbefore hafter => ?_)
    (List.pairwise_mergeSort Entry.before_trans Entry.before_total entries) ?_
  · exact hinjective left (List.mem_mergeSort.mp hleft) right
      (List.mem_reverse.mp (List.mem_mergeSort.mp hright)) (Entry.before_antisymm hbefore hafter)
  · apply Memory.pairwise_laterFirst
    · refine hordered.imp fun {left right} hlt hlater => ?_
      simp only [Entry.before]
      split
      · exact decide_eq_true (Int64.le_of_lt hlt)
      · exact decide_eq_true hlater
    · intro first second hlater
      have hdiffer : first.2.verifiedAt ≠ second.2.verifiedAt := (Int64.ne_of_lt hlater).symm
      simpa [Entry.before, hdiffer] using Int64.le_of_lt hlater

/-- A table whose rows were written for these verifications, in this order. -/
def Keeps (table : Table) (verifications : List Verification) : Prop :=
  ∃ entries : List Entry, table.rows = entries.map Entry.row ∧
    entries.map (·.2) = verifications ∧ entries.Pairwise fun left right => left.1 < right.1

theorem keeps_empty : Keeps .empty [] := ⟨[], rfl, rfl, List.Pairwise.nil⟩

theorem check_verification {others : List Row} {id : Int64} (verification : Verification)
    (hids : ∀ other ∈ others, other.id ≠ id) :
    Schema.verifications.check others ⟨id, verificationCells verification⟩ = .ok () := by
  have hrequired : (Schema.verifications.columns.zip (verificationCells verification)).find?
      (fun cell => cell.1.required && cell.2 = .null) = none := by
    simp [Schema.verifications, verificationCells]
  have hnone : others.any (·.id = id) = false := by simpa using hids
  simp only [Layout.check, hrequired, hnone]
  rfl

theorem recordVerification_error {database next : Database} {verification : Verification}
    {cause : StoreError} (hrecord : database.recordVerification verification = (.error cause, next)) :
    next = database := by
  simp only [recordVerification] at hrecord
  split at hrecord <;> cases hrecord
  rfl

theorem recordVerification_keeps {database : Database} {verifications : List Verification}
    (hkeeps : Keeps database.verifications verifications)
    (hroom : database.verifications.highest ≠ Int64.maxValue) (verification : Verification) :
    ∃ table, database.recordVerification verification =
        (.ok (), { database with verifications := table }) ∧
      Keeps table (verifications ++ [verification]) ∧
      table.highest = database.verifications.highest + 1 := by
  have hcheck := check_verification verification (Table.id_fresh hroom)
  refine ⟨⟨database.verifications.rows ++
      [⟨database.verifications.highest + 1, verificationCells verification⟩],
    database.verifications.highest + 1⟩, ?_, ?_, Table.highest_insert hroom⟩
  · simp only [recordVerification, Table.insert_eq _ hroom, hcheck, Except.map]
  · obtain ⟨entries, hrows, hverifications, hordered⟩ := hkeeps
    refine ⟨entries ++ [(database.verifications.highest + 1, verification)], ?_, ?_, ?_⟩
    · simp [hrows, Entry.row]
    · simp [hverifications]
    · refine List.pairwise_append.mpr ⟨hordered, List.pairwise_singleton _ _, ?_⟩
      intro left hleft right hright
      have hmem : left.row ∈ database.verifications.rows := hrows ▸ List.mem_map_of_mem hleft
      rw [List.mem_singleton.mp hright]
      exact Int64.lt_of_le_of_lt (Table.le_highest hmem) (Table.lt_add_one hroom)

theorem verificationsOf_eq {database : Database} {memory : Memory}
    (hkeeps : Keeps database.verifications memory.verifications) (docId : String) :
    (database.verificationsOf docId).map readVerification =
      (memory.verificationsOf docId).map Except.ok := by
  obtain ⟨entries, hrows, hverifications, hordered⟩ := hkeeps
  have hrow (left right : Entry) : Entry.before left right =
      if left.row.cell 2 = right.row.cell 2 then decide (right.row.id ≤ left.row.id)
      else (right.row.cell 2).le (left.row.cell 2) := by
    by_cases hsame : left.2.verifiedAt = right.2.verifiedAt
    · simp [Entry.before, Entry.row, Row.cell, verificationCells, hsame]
    · simp [Entry.before, Entry.row, Row.cell, verificationCells, hsame, Value.le_integer]
  have hread : readVerification ∘ Entry.row = Except.ok ∘ Prod.snd :=
    funext readVerification_row
  have hfilter : (database.verifications.rows.filter (holds · 0 docId)) =
      (entries.filter (·.2.docId = docId)).map Entry.row := by
    rw [hrows, List.filter_map]
    exact congrArg _ (List.filter_congr fun entry _ => holds_row entry docId)
  have hmemory : memory.verificationsOf docId =
      ((entries.filter (·.2.docId = docId)).reverse.mergeSort
        fun left right => Memory.laterFirst left.2 right.2).map Prod.snd := by
    rw [Memory.verificationsOf, ← hverifications, List.filter_map, ← List.map_reverse]
    symm
    apply List.map_mergeSort
    exact fun left _ right _ => rfl
  simp only [verificationsOf]
  rw [hfilter, ← List.map_mergeSort fun left _ right _ => hrow left right, List.map_map, hread,
    ← List.map_map, mergeSort_before (hordered.filter _), hmemory]

end Database
end Signoff
