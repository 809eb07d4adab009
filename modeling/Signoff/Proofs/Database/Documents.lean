import Signoff.Proofs.Database.Queries

namespace Signoff.Database

theorem readDocument_cells (document : Document) :
    readDocument (documentCells document) = .ok document := by
  obtain ⟨docId, url, checksum, algorithm⟩ := document
  cases url <;> cases checksum <;> cases algorithm <;> rfl

theorem find?_upsert (cells : List Value) (rows : List (List Value)) (head : Option Value) :
    (upsert cells rows).find? (·.head? = head) =
      if cells.head? = head then some cells else rows.find? (·.head? = head) := by
  induction rows with
  | nil => by_cases hcells : cells.head? = head <;> simp [upsert, hcells]
  | cons other rest ih =>
      by_cases hsame : other.head? = cells.head?
      · by_cases hcells : cells.head? = head <;> simp [upsert, hsame, hcells]
      · by_cases hcells : cells.head? = head
        -- The row that is passed bears another name than the one looked for.
        · have hother : ¬ other.head? = head := fun hother => hsame (hother.trans hcells.symm)
          simp [upsert, hother, ih, hcells]
        · simp [upsert, hsame, List.find?_cons, ih, hcells]

theorem find?_putDocument (memory : Memory) (document : Document) (docId : String) :
    (memory.putDocument document).documents.find? (·.docId = docId) =
      if document.docId = docId then some document
      else memory.documents.find? (·.docId = docId) := by
  simp only [Memory.putDocument, List.find?_append, List.find?_filter]
  by_cases hsame : document.docId = docId
  · have hnone : memory.documents.find? (fun _ => false) = none := by simp
    simp [hsame, hnone]
  · have hothers : (fun other : Document =>
        !decide (other.docId = document.docId) && decide (other.docId = docId)) =
          fun other => decide (other.docId = docId) := by
      funext other
      by_cases hother : other.docId = docId
      · simp [hother, Ne.symm hsame]
      · simp [hother]
    simp [hsame, hothers]

/-- What is read under any name is the document that bears it. -/
def HoldsDocuments (rows : List (List Value)) (documents : List Document) : Prop :=
  ∀ docId, readFirst readDocument (rows.find? (·.head? = some (.text docId))) =
    .ok (documents.find? (·.docId = docId))

theorem holdsDocuments_nil : HoldsDocuments [] [] := fun _ => rfl

theorem HoldsDocuments.put {database : Database} {memory : Memory}
    (hdocuments : HoldsDocuments database.documents memory.documents) (document : Document) :
    HoldsDocuments (database.putDocument document).documents
      (memory.putDocument document).documents := by
  intro docId
  have hhead : (documentCells document).head? = some (.text docId) ↔ document.docId = docId := by
    simp [documentCells]
  rw [find?_putDocument, putDocument, find?_upsert]
  by_cases hsame : document.docId = docId
  · rw [if_pos (hhead.mpr hsame), if_pos hsame, readFirst, readDocument_cells]
    rfl
  · rw [if_neg (mt hhead.mp hsame), if_neg hsame]
    exact hdocuments docId

end Signoff.Database
