import Signoff.Proofs.Chain.Breaks
import Signoff.Proofs.Store.Laws

namespace Signoff

/-! What a repair plans. The link that a record should carry follows from the records before it as
they should be, which the list holds nowhere; still the plan names just the records that carry
another. -/

namespace Chain

/-- The records that carry another link than the one meant for them, in their order. -/
def changes (records : List Record) (links : List (Option Digest)) : List Correction :=
  ((records.zip links).filter fun pair => pair.1.previous ≠ pair.2).map fun pair =>
    ⟨pair.1.id, pair.1.previous, pair.2⟩

/-- The records after these corrections, each made to the first record with its number. -/
def applyAll (corrections : List Correction) (records : List Record) : List Record :=
  corrections.foldl
    (fun records correction => Memory.relinkFirst correction.id correction.expected records) records

theorem changes_eq_map (records : List Record) (links : List (Option Digest)) :
    changes records links =
      ((List.zipWith Break.mk records links).filter
        fun found => found.record.previous ≠ found.expected).map (·.correction) := by
  rw [← List.map_uncurry_zip_eq_zipWith, List.filter_map, List.map_map]
  rfl

theorem correctionsAfter_eq_changes (earlier records : List Record) :
    correctionsAfter earlier records =
      changes records ((relinkAfter earlier records).map (·.previous)) := by
  rw [correctionsAfter_eq_map, changes_eq_map]
  rfl

theorem applyAll_correctionsAfter (earlier written : List Record) {rest : List Record}
    (hids : ((written ++ rest).map (·.id)).Nodup) :
    applyAll (correctionsAfter earlier rest) (written ++ rest) =
      written ++ relinkAfter earlier rest := by
  induction rest generalizing earlier written with
  | nil => rfl
  | cons record rest ih =>
      -- The records passed so far now end with this one, under its number.
      have hnext (link : Option Digest) := ih (record.withPrevious link :: earlier)
        (written ++ [record.withPrevious link]) (by simpa using hids)
      simp only [List.append_assoc, List.singleton_append] at hnext
      by_cases hlink : record.previous = expectedLink earlier record.docId
      · have hsame := Record.withPrevious_of_eq hlink
        have hrest := hnext (expectedLink earlier record.docId)
        rw [hsame] at hrest
        simp only [correctionsAfter, relinkAfter, if_pos hlink, hsame]
        exact hrest
      · have hfresh : record.id ∉ written.map (·.id) := by
          rw [List.map_append, List.map_cons, List.nodup_append] at hids
          exact fun hmem => hids.2.2 record.id hmem record.id (by simp) rfl
        simp only [correctionsAfter, relinkAfter, if_neg hlink]
        rw [applyAll, List.foldl_cons, Memory.relinkFirst_append_cons hfresh]
        exact hnext (expectedLink earlier record.docId)

theorem applyAll_corrections {records : List Record} (hids : (records.map (·.id)).Nodup) :
    applyAll (corrections records) records = withLinks records (links records) := by
  rw [withLinks_links]
  exact applyAll_correctionsAfter [] [] hids

/-- There is one way to set the links of a list so that an audit accepts it. The plan names each
record that carries another link than this, once and in order, with the link it carries and the one
it should. Where no two records share a number, carrying out the plan leaves nothing to correct, and
whoever sets the links right must change as many. -/
theorem corrections_minimal (records : List Record) :
    ∃ links : List (Option Digest), links.length = records.length ∧
      (∀ other : List (Option Digest), other.length = records.length →
        ((audit (withLinks records other)).isValid = true ↔ other = links)) ∧
      corrections records = changes records links ∧
      ((records.map (·.id)).Nodup →
        applyAll (corrections records) records = withLinks records links ∧
          (audit (applyAll (corrections records) records)).isValid = true ∧
          corrections (applyAll (corrections records) records) = []) ∧
      ∀ other : List (Option Digest), other.length = records.length →
        (audit (withLinks records other)).isValid = true →
          (corrections records).length ≤ (changes records other).length := by
  have hunique (other : List (Option Digest)) (hlength : other.length = records.length) :
      (audit (withLinks records other)).isValid = true ↔ other = links records := by
    rw [audit_isValid_iff, linked_withLinks_iff hlength]
  have hplan : corrections records = changes records (links records) :=
    correctionsAfter_eq_changes [] records
  refine ⟨links records, length_links records, hunique, hplan, fun hids => ?_, ?_⟩
  · have hlinked : Linked (withLinks records (links records)) :=
      (linked_withLinks_iff (length_links records)).mpr rfl
    rw [applyAll_corrections hids]
    exact ⟨rfl, audit_isValid_iff.mpr hlinked, hlinked.corrections_eq_nil⟩
  · intro other hlength hvalid
    apply Nat.le_of_eq
    rw [(hunique other hlength).mp hvalid, hplan]

end Chain

end Signoff
