import Signoff.Chain

namespace Signoff

/-! Chains told record by record: which lists are linked throughout, what an audit makes of them,
and the one way to link a list whose records are given. -/

namespace Chain

def LinkedAfter (earlier : List Record) : List Record → Prop
  | [] => True
  | record :: rest =>
    record.previous = expectedLink earlier record.docId ∧ LinkedAfter (record :: earlier) rest

def Linked (records : List Record) : Prop := LinkedAfter [] records

theorem firstBreakAfter_eq_none_iff {earlier records : List Record} :
    firstBreakAfter earlier records = none ↔ LinkedAfter earlier records := by
  induction records generalizing earlier with
  | nil => simp [firstBreakAfter, LinkedAfter]
  | cons record rest ih =>
      by_cases hlink : record.previous = expectedLink earlier record.docId
      · simp [firstBreakAfter, LinkedAfter, hlink, ih]
      · simp [firstBreakAfter, LinkedAfter, hlink]

theorem audit_isValid_iff {records : List Record} :
    (audit records).isValid = true ↔ Linked records := by
  simp [audit, Audit.isValid, firstBreak, Linked, firstBreakAfter_eq_none_iff]

theorem linkedAfter_append {earlier front back : List Record} :
    LinkedAfter earlier (front ++ back) ↔
      LinkedAfter earlier front ∧ LinkedAfter (front.reverse ++ earlier) back := by
  induction front generalizing earlier with
  | nil => simp [LinkedAfter]
  | cons record rest ih => simp [LinkedAfter, ih, and_assoc]

theorem linked_concat {records : List Record} {record : Record} :
    Linked (records ++ [record]) ↔
      Linked records ∧ record.previous = expectedLink records.reverse record.docId := by
  simp [Linked, linkedAfter_append, LinkedAfter]

theorem expectedLink_filter (keep : String → Bool) (earlier : List Record) {docId : String}
    (hkeep : keep docId = true) :
    expectedLink (earlier.filter (keep ·.docId)) docId = expectedLink earlier docId := by
  have hfind : (earlier.filter (keep ·.docId)).find? (·.docId = docId) =
      earlier.find? (·.docId = docId) := by
    rw [List.find?_filter]
    congr 1
    funext record
    by_cases hdoc : record.docId = docId <;> simp [hdoc, hkeep]
  rw [expectedLink, hfind, expectedLink]

theorem LinkedAfter.filter {earlier records : List Record} (docId : String)
    (hlinked : LinkedAfter earlier records) :
    LinkedAfter (earlier.filter (·.docId = docId)) (records.filter (·.docId = docId)) := by
  induction records generalizing earlier with
  | nil => trivial
  | cons record rest ih =>
      obtain ⟨hlink, hrest⟩ := hlinked
      by_cases hdoc : record.docId = docId
      · subst hdoc
        have htail := ih hrest
        simp only [List.filter_cons, decide_true, if_true] at htail ⊢
        have hkept := expectedLink_filter (· = record.docId) earlier (decide_eq_true rfl)
        exact ⟨hlink.trans hkept.symm, htail⟩
      · have htail := ih hrest
        simpa [List.filter_cons, hdoc] using htail

theorem Linked.filter {records : List Record} (docId : String) (hlinked : Linked records) :
    Linked (records.filter (·.docId = docId)) :=
  LinkedAfter.filter docId hlinked

def withLinks (records : List Record) (links : List (Option Digest)) : List Record :=
  List.zipWith Record.withPrevious records links

def links (records : List Record) : List (Option Digest) :=
  (relink records).map (·.previous)

theorem length_relinkAfter (earlier records : List Record) :
    (relinkAfter earlier records).length = records.length := by
  induction records generalizing earlier with
  | nil => rfl
  | cons record rest ih => simp [relinkAfter, ih]

@[simp] theorem length_links (records : List Record) :
    (links records).length = records.length := by
  simp [links, relink, length_relinkAfter]

theorem linkedAfter_relinkAfter (earlier records : List Record) :
    LinkedAfter earlier (relinkAfter earlier records) := by
  induction records generalizing earlier with
  | nil => trivial
  | cons record rest ih => exact ⟨rfl, ih _⟩

theorem LinkedAfter.relinkAfter_eq {earlier records : List Record}
    (hlinked : LinkedAfter earlier records) : relinkAfter earlier records = records := by
  induction records generalizing earlier with
  | nil => rfl
  | cons record rest ih =>
      obtain ⟨hlink, hrest⟩ := hlinked
      simp only [relinkAfter, Record.withPrevious_of_eq hlink, ih hrest]

theorem relinkAfter_withLinks {earlier records : List Record} {links : List (Option Digest)}
    (hlength : links.length = records.length) :
    relinkAfter earlier (withLinks records links) = relinkAfter earlier records := by
  induction records generalizing earlier links with
  | nil => simp [withLinks]
  | cons record rest ih =>
      cases links with
      | nil => simp at hlength
      | cons link links =>
          have htail : links.length = rest.length := by simpa using hlength
          exact congrArg (List.cons _) (ih htail)

theorem withLinks_relinkAfter (earlier records : List Record) :
    withLinks records ((relinkAfter earlier records).map (·.previous)) =
      relinkAfter earlier records := by
  induction records generalizing earlier with
  | nil => rfl
  | cons record rest ih => exact congrArg (List.cons _) (ih _)

theorem withLinks_links (records : List Record) :
    withLinks records (links records) = relink records :=
  withLinks_relinkAfter [] records

theorem previous_withLinks {records : List Record} {links : List (Option Digest)}
    (hlength : links.length = records.length) :
    (withLinks records links).map (·.previous) = links := by
  induction records generalizing links with
  | nil => simp_all [withLinks]
  | cons record rest ih =>
      cases links with
      | nil => simp at hlength
      | cons link links =>
          have htail : links.length = rest.length := by simpa using hlength
          exact congrArg (List.cons link) (ih htail)

theorem links_withLinks {records : List Record} {other : List (Option Digest)}
    (hlength : other.length = records.length) :
    links (withLinks records other) = links records := by
  simp only [links, relink, relinkAfter_withLinks hlength]

/-- A list of records can be linked in one way. -/
theorem linked_withLinks_iff {records : List Record} {other : List (Option Digest)}
    (hlength : other.length = records.length) :
    Linked (withLinks records other) ↔ other = links records := by
  constructor
  · intro hlinked
    have hsame : withLinks records other = relink records := by
      rw [← LinkedAfter.relinkAfter_eq hlinked]
      exact relinkAfter_withLinks hlength
    rw [← previous_withLinks hlength, hsame]
    rfl
  · rintro rfl
    rw [withLinks_links]
    exact linkedAfter_relinkAfter [] records

theorem linked_iff_links {records : List Record} :
    Linked records ↔ records.map (·.previous) = links records := by
  have hsame : withLinks records (records.map (·.previous)) = records := by
    simp [withLinks, List.zipWith_map_right]
  rw [← linked_withLinks_iff (by simp), hsame]

theorem LinkedAfter.correctionsAfter_eq_nil {earlier records : List Record}
    (hlinked : LinkedAfter earlier records) : correctionsAfter earlier records = [] := by
  induction records generalizing earlier with
  | nil => rfl
  | cons record rest ih =>
      obtain ⟨hlink, hrest⟩ := hlinked
      simp only [correctionsAfter, Record.withPrevious_of_eq hlink, ih hrest, if_pos hlink]

theorem Linked.corrections_eq_nil {records : List Record} (hlinked : Linked records) :
    corrections records = [] :=
  LinkedAfter.correctionsAfter_eq_nil hlinked

def handbookRecord (id : Int64) (subject name : String) (previous : Option Digest) : Record where
  docId := "handbook"
  user := ⟨subject, "mail@example.com", name⟩
  signedAt := 0
  checksum := none
  payloadHash := .replicate 32 0
  signature := .replicate 64 0
  nonce := .replicate 32 0
  referer := none
  previous := previous
  version := 1
  id := id
  createdAt := 0

end Chain

end Signoff
