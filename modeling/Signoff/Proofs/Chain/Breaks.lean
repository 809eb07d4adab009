import Signoff.Proofs.Chain.Places

namespace Signoff

/-! The breaks of a list: the records that do not carry the link meant for them. An audit reports
the first of them and a plan mends them all. Those of one document have no part in those of
another. -/

namespace Chain

def Break.correction (found : Break) : Correction where
  id := found.record.id
  stored := found.record.previous
  expected := found.expected

def breaksAfter (earlier records : List Record) : List Break :=
  (List.zipWith Break.mk records ((relinkAfter earlier records).map (·.previous))).filter
    fun found => found.record.previous ≠ found.expected

def breaks (records : List Record) : List Break := breaksAfter [] records

theorem breaksAfter_cons (earlier : List Record) (record : Record) (rest : List Record) :
    breaksAfter earlier (record :: rest) =
      if record.previous = expectedLink earlier record.docId then
        breaksAfter (record.withPrevious (expectedLink earlier record.docId) :: earlier) rest
      else
        ⟨record, expectedLink earlier record.docId⟩ ::
          breaksAfter (record.withPrevious (expectedLink earlier record.docId) :: earlier)
            rest := by
  simp only [breaksAfter, relinkAfter, List.map_cons, List.zipWith_cons_cons,
    Record.previous_withPrevious]
  split
  · next hlink =>
      apply List.filter_cons_of_neg
      simp [hlink]
  · next hlink =>
      apply List.filter_cons_of_pos
      simp [hlink]

theorem breaksAfter_sublist (earlier records : List Record) :
    ((breaksAfter earlier records).map (·.record)).Sublist records := by
  induction records generalizing earlier with
  | nil => apply List.Sublist.refl
  | cons record rest ih =>
      rw [breaksAfter_cons]
      split
      · apply List.Sublist.cons
        apply ih
      · apply List.Sublist.cons_cons
        apply ih

theorem breaks_sublist (records : List Record) :
    ((breaks records).map (·.record)).Sublist records :=
  breaksAfter_sublist [] records

theorem correctionsAfter_eq_map (earlier records : List Record) :
    correctionsAfter earlier records = (breaksAfter earlier records).map (·.correction) := by
  induction records generalizing earlier with
  | nil => rfl
  | cons record rest ih =>
      rw [breaksAfter_cons, correctionsAfter, ih]
      split
      · rfl
      · rfl

/-- Up to the first break every record is as it should be, so that an audit and a plan look for the
same links. -/
theorem head?_breaksAfter (earlier records : List Record) :
    (breaksAfter earlier records).head? = firstBreakAfter earlier records := by
  induction records generalizing earlier with
  | nil => rfl
  | cons record rest ih =>
      rw [breaksAfter_cons, firstBreakAfter]
      split
      · next hlink =>
          rw [Record.withPrevious_of_eq hlink]
          apply ih
      · rfl

theorem corrections_eq_map (records : List Record) :
    corrections records = (breaks records).map (·.correction) :=
  correctionsAfter_eq_map [] records

theorem break?_eq_head? (records : List Record) :
    (audit records).break? = (breaks records).head? :=
  (head?_breaksAfter [] records).symm

theorem audit_isValid_iff_breaks {records : List Record} :
    (audit records).isValid = true ↔ breaks records = [] := by
  rw [Audit.isValid, break?_eq_head?, Option.isNone_iff_eq_none, List.head?_eq_none_iff]

/-- An audit accepts a list exactly if a plan for it is empty. Where it stops at a record, the plan
begins with this one: it names the record, the link that it carries, and the link that the audit
held it against. -/
theorem audit_agrees_with_plan (records : List Record) :
    ((audit records).isValid = true ↔ corrections records = []) ∧
      (audit records).breakAt = (corrections records).head?.map (·.id) ∧
      ∀ found, (audit records).break? = some found →
        ∃ index later, BrokenFirst records index found.record ∧
          CallsFor records found.record.docId index found.expected ∧
          corrections records =
            ⟨found.record.id, found.record.previous, found.expected⟩ :: later := by
  rw [corrections_eq_map]
  refine ⟨?_, ?_, ?_⟩
  · rw [audit_isValid_iff_breaks, List.map_eq_nil_iff]
  · rw [Audit.breakAt, break?_eq_head?, List.head?_map, Option.map_map]
    rfl
  · intro found hfound
    obtain ⟨index, hfirst, hcalls⟩ := firstBreak_eq_some_iff.mp hfound
    rw [break?_eq_head?, List.head?_eq_some_iff] at hfound
    obtain ⟨later, hbreaks⟩ := hfound
    refine ⟨index, later.map (·.correction), hfirst, hcalls, ?_⟩
    rw [hbreaks, List.map_cons]
    rfl

theorem breaksAfter_filter (keep : String → Bool) (earlier records : List Record) :
    breaksAfter (earlier.filter (keep ·.docId)) (records.filter (keep ·.docId)) =
      (breaksAfter earlier records).filter (keep ·.record.docId) := by
  induction records generalizing earlier with
  | nil => rfl
  | cons record rest ih =>
      let linked := record.withPrevious (expectedLink earlier record.docId)
      have hrest := ih (linked :: earlier)
      rw [breaksAfter_cons]
      cases hkeep : keep record.docId with
      | true =>
          have hearlier : (linked :: earlier).filter (keep ·.docId) =
              linked :: earlier.filter (keep ·.docId) := List.filter_cons_of_pos hkeep
          have hrecords : (record :: rest).filter (keep ·.docId) =
              record :: rest.filter (keep ·.docId) := List.filter_cons_of_pos hkeep
          rw [hrecords, breaksAfter_cons, expectedLink_filter keep earlier hkeep, ← hearlier, hrest]
          split
          · rfl
          · symm
            apply List.filter_cons_of_pos
            exact hkeep
      | false =>
          have hdropped : ¬ keep record.docId = true := Bool.eq_false_iff.mp hkeep
          have hearlier : (linked :: earlier).filter (keep ·.docId) =
              earlier.filter (keep ·.docId) := List.filter_cons_of_neg hdropped
          have hrecords : (record :: rest).filter (keep ·.docId) =
              rest.filter (keep ·.docId) := List.filter_cons_of_neg hdropped
          rw [hrecords, ← hearlier, hrest]
          split
          · rfl
          · symm
            apply List.filter_cons_of_neg
            exact hdropped

theorem breaks_filter (keep : String → Bool) (records : List Record) :
    breaks (records.filter (keep ·.docId)) = (breaks records).filter (keep ·.record.docId) :=
  breaksAfter_filter keep [] records

/-- The corrections that a plan has for records of these documents. -/
def correctionsFor (keep : String → Bool) (records : List Record) : List Correction :=
  ((breaks records).filter (keep ·.record.docId)).map (·.correction)

theorem correctionsFor_eq (keep : String → Bool) (records : List Record) :
    correctionsFor keep records = corrections (records.filter (keep ·.docId)) := by
  rw [correctionsFor, ← breaks_filter, corrections_eq_map]

/-- The same records in the same order within each document, however the documents take turns. -/
def SameByDocument (records other : List Record) : Prop :=
  ∀ docId, records.filter (·.docId = docId) = other.filter (·.docId = docId)

theorem SameByDocument.breaks_perm {records other : List Record}
    (hsame : SameByDocument records other) : (breaks records).Perm (breaks other) := by
  rw [List.perm_iff_count]
  intro found
  have hcount (records : List Record) : (breaks records).count found =
      (breaks (records.filter (·.docId = found.record.docId))).count found := by
    rw [breaks_filter (· = found.record.docId)]
    symm
    apply List.count_filter
    exact decide_eq_true rfl
  rw [hcount records, hcount other, hsame]

theorem breaks_eq_nil_iff {records : List Record} :
    breaks records = [] ↔ ∀ docId, breaks (records.filter (·.docId = docId)) = [] := by
  constructor
  · intro hnone docId
    rw [breaks_filter (· = docId), hnone]
    rfl
  · intro hnone
    rw [List.eq_nil_iff_forall_not_mem]
    intro found hmem
    have hdocument := hnone found.record.docId
    rw [breaks_filter (· = found.record.docId), List.filter_eq_nil_iff] at hdocument
    exact hdocument found hmem (decide_eq_true rfl)

/-- Each document has a chain of its own. The corrections for some documents are those of a list
that holds these documents alone, and a list is intact exactly if each of its documents is. So it
does not matter how documents take turns, and whatever happens to the records of one document, the
corrections for all others stay. -/
theorem documents_independent (records : List Record) :
    corrections records = (breaks records).map (·.correction) ∧
      ((breaks records).map (·.record)).Sublist records ∧
      (∀ keep : String → Bool,
        correctionsFor keep records = corrections (records.filter (keep ·.docId))) ∧
      ((audit records).isValid = true ↔
        ∀ docId, (audit (records.filter (·.docId = docId))).isValid = true) ∧
      (∀ other, SameByDocument records other →
        (audit records).isValid = (audit other).isValid ∧
          (corrections records).Perm (corrections other)) ∧
      ∀ docId other, records.filter (·.docId ≠ docId) = other.filter (·.docId ≠ docId) →
        ∀ keep : String → Bool, keep docId = false →
          correctionsFor keep records = correctionsFor keep other := by
  refine ⟨corrections_eq_map records, breaks_sublist records, (correctionsFor_eq · records),
    ?_, ?_, ?_⟩
  · simp only [audit_isValid_iff_breaks]
    exact breaks_eq_nil_iff
  · intro other hsame
    have hperm := hsame.breaks_perm
    constructor
    · rw [Bool.eq_iff_iff, audit_isValid_iff_breaks, audit_isValid_iff_breaks]
      exact ⟨fun hnone => (hnone ▸ hperm).nil_eq.symm, fun hnone => (hnone ▸ hperm).eq_nil⟩
    · rw [corrections_eq_map, corrections_eq_map]
      exact hperm.map _
  · intro docId other hothers keep hkeep
    have hinner (records : List Record) : records.filter (keep ·.docId) =
        (records.filter (·.docId ≠ docId)).filter (keep ·.docId) := by
      rw [List.filter_filter]
      apply List.filter_congr
      intro record _
      by_cases hdoc : record.docId = docId <;> simp [hdoc, hkeep]
    rw [correctionsFor_eq, correctionsFor_eq, hinner records, hothers, ← hinner]

end Chain

end Signoff
