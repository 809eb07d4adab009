import Signoff.Database
import Signoff.Proofs.Database.Codec
import Signoff.Store.Memory

namespace Signoff.Database

theorem readAll_eq {α : Type} {read : Row → Except DatabaseError α} {rows : List Row}
    {items : List α} (hreadable : rows.map read = items.map Except.ok) :
    readAll read rows = .ok items := by
  rw [readAll, mapM_eq_ok_iff.mpr hreadable]
  rfl

/-- A condition on rows that holds of each as another does of its record. -/
def Chooses (selects : Row → Bool) (chosen : Record → Bool) : Prop :=
  ∀ {row record}, readRecord row = .ok record → selects row = chosen record

section

variable {rows : List Row} {records : List Record} {selects : Row → Bool} {chosen : Record → Bool}

theorem filter_readable (hreadable : rows.map readRecord = records.map Except.ok)
    (hchooses : Chooses selects chosen) :
    (rows.filter selects).map readRecord = (records.filter chosen).map Except.ok := by
  induction records generalizing rows with
  | nil =>
      obtain rfl := List.map_eq_nil_iff.mp hreadable
      rfl
  | cons record records ih =>
      obtain ⟨row, rest, rfl, hread, hrest⟩ := List.map_eq_cons_iff.mp hreadable
      have hselects := hchooses hread
      cases hchosen : chosen record with
      | true => simp [hselects, hchosen, hread, ih hrest]
      | false => simp [hselects, hchosen, ih hrest]

theorem any_readable (hreadable : rows.map readRecord = records.map Except.ok)
    (hchooses : Chooses selects chosen) : rows.any selects = records.any chosen := by
  have hfilter := congrArg List.length (filter_readable hreadable hchooses)
  simp only [List.length_map, ← List.countP_eq_length_filter] at hfilter
  rw [Bool.eq_iff_iff, List.any_eq_true, List.any_eq_true, ← List.countP_pos_iff, hfilter,
    List.countP_pos_iff]

theorem readFirst_find (hreadable : rows.map readRecord = records.map Except.ok)
    (hchooses : Chooses selects chosen) :
    readFirst readRecord (rows.find? selects) = .ok (records.find? chosen) := by
  have hfilter := congrArg List.head? (filter_readable hreadable hchooses)
  rw [List.head?_map, List.head?_map, List.head?_filter, List.head?_filter] at hfilter
  cases hrow : rows.find? selects with
  | none =>
      rw [hrow] at hfilter
      rw [Option.map_eq_none_iff.mp hfilter.symm]
      rfl
  | some row =>
      rw [hrow] at hfilter
      obtain ⟨record, hrecord, hread⟩ := Option.map_eq_some_iff.mp hfilter.symm
      rw [hrecord, readFirst, ← hread]
      rfl

end

theorem chooses_docId (docId : String) : Chooses (holds · 0 docId) (·.docId = docId) := by
  intro row record hread
  have hcells := (readRecord_eq_ok_iff.mp hread).2
  have hdoc : row.cell 0 = .text record.docId := cell_of_take hcells (by decide)
  simp [holds, hdoc]

theorem chooses_subject (subject : String) :
    Chooses (holds · 1 subject) (·.user.subject = subject) := by
  intro row record hread
  have hcells := (readRecord_eq_ok_iff.mp hread).2
  have hsubject : row.cell 1 = .text record.user.subject := cell_of_take hcells (by decide)
  simp [holds, hsubject]

theorem chooses_isOf (docId subject : String) :
    Chooses (isOf docId subject) (Memory.isOf docId subject) := by
  intro row record hread
  have hdoc : holds row 0 docId = _ := chooses_docId docId hread
  have hsubject : holds row 1 subject = _ := chooses_subject subject hread
  rw [isOf, Memory.isOf, hdoc, hsubject]

theorem isOf_iff_keyOf {row : Row} {docId subject : String} :
    isOf docId subject row = true ↔
      Schema.signatures.keyOf row = [.text docId, .text subject] := by
  change (decide (row.cell 0 = .text docId) && decide (row.cell 1 = .text subject)) = true ↔
    [row.cell 0, row.cell 1] = _
  simp

theorem chooses_isKnownAs (docId identifier : String) :
    Chooses (isKnownAs docId identifier) (Memory.isKnownAs docId identifier) := by
  intro row record hread
  have hcells := (readRecord_eq_ok_iff.mp hread).2
  have hemail : row.cell 2 = .text record.user.email := cell_of_take hcells (by decide)
  have hdoc : holds row 0 docId = _ := chooses_docId docId hread
  have hsubject : holds row 1 identifier = _ := chooses_subject identifier hread
  rw [isKnownAs, Memory.isKnownAs, hdoc, hsubject, hemail]
  simp [lowerText?]

end Signoff.Database
