import Signoff.Proofs.Chain.Links

namespace Signoff

/-! An audit told by places in the list. It goes through the records once and keeps what it needs
of those it has passed; here each record is held against the nearest one before it of the same
document, wherever that stands. -/

namespace Chain

/-- The nearest record of a document before a place in the list. -/
structure Nearest (records : List Record) (docId : String) (index place : Nat) (record : Record) :
    Prop where
  before : place < index
  stands : records[place]? = some record
  same : record.docId = docId
  largest : ∀ other otherRecord, other < index → records[other]? = some otherRecord →
    otherRecord.docId = docId → other ≤ place

/-- The link that the next record of a document has to carry if it stands at this place. -/
inductive CallsFor (records : List Record) (docId : String) (index : Nat) : Option Digest → Prop
  | first (fresh : ∀ place record, place < index → records[place]? = some record →
      record.docId ≠ docId) : CallsFor records docId index none
  | next {place : Nat} {record : Record} (nearest : Nearest records docId index place record) :
      CallsFor records docId index (some record.linkHash)

/-- The record at this place carries another link than the one called for. -/
def BrokenAt (records : List Record) (index : Nat) : Prop :=
  ∃ record, records[index]? = some record ∧
    ¬ CallsFor records record.docId index record.previous

/-- The first place at which a list is broken, and the record that stands there. -/
structure BrokenFirst (records : List Record) (index : Nat) (record : Record) : Prop where
  stands : records[index]? = some record
  broken : BrokenAt records index
  least : ∀ earlier, earlier < index → ¬ BrokenAt records earlier

theorem Nearest.append {front back : List Record} {docId : String} {index place : Nat}
    {record : Record} (hindex : index ≤ front.length) :
    Nearest (front ++ back) docId index place record ↔ Nearest front docId index place record := by
  have hsame {other : Nat} (hother : other < index) : (front ++ back)[other]? = front[other]? :=
    List.getElem?_append_left (by omega)
  constructor
  · rintro ⟨hbefore, hstands, hdoc, hlargest⟩
    refine ⟨hbefore, hsame hbefore ▸ hstands, hdoc, fun other otherRecord hother hfound => ?_⟩
    exact hlargest other otherRecord hother ((hsame hother).trans hfound)
  · rintro ⟨hbefore, hstands, hdoc, hlargest⟩
    refine ⟨hbefore, (hsame hbefore).trans hstands, hdoc, fun other otherRecord hother hfound => ?_⟩
    exact hlargest other otherRecord hother (hsame hother ▸ hfound)

theorem CallsFor.append {front back : List Record} {docId : String} {index : Nat}
    {link : Option Digest} (hindex : index ≤ front.length) :
    CallsFor (front ++ back) docId index link ↔ CallsFor front docId index link := by
  have hsame {place : Nat} (hplace : place < index) : (front ++ back)[place]? = front[place]? :=
    List.getElem?_append_left (by omega)
  constructor
  · rintro (hfresh | hnearest)
    · refine .first fun place record hplace hfound => ?_
      exact hfresh place record hplace ((hsame hplace).trans hfound)
    · exact .next ((Nearest.append hindex).mp hnearest)
  · rintro (hfresh | hnearest)
    · refine .first fun place record hplace hfound => ?_
      exact hfresh place record hplace (hsame hplace ▸ hfound)
    · exact .next ((Nearest.append hindex).mpr hnearest)

theorem expectedLink_cons (record : Record) (earlier : List Record) (docId : String) :
    expectedLink (record :: earlier) docId =
      if record.docId = docId then some record.linkHash else expectedLink earlier docId := by
  by_cases hdoc : record.docId = docId <;> simp [expectedLink, hdoc]

theorem callsFor_concat_same {front : List Record} {record : Record} {link : Option Digest} :
    CallsFor (front ++ [record]) record.docId (front.length + 1) link ↔
      link = some record.linkHash := by
  have hlast : (front ++ [record])[front.length]? = some record := by simp
  have hnearest : Nearest (front ++ [record]) record.docId (front.length + 1) front.length record :=
    ⟨by omega, hlast, rfl, fun other _ hother _ _ => by omega⟩
  constructor
  · rintro (hfresh | ⟨hbefore, hstands, hdoc, hlargest⟩)
    · exact absurd rfl (hfresh front.length record (by omega) hlast)
    · have hplace := hlargest front.length record (by omega) hlast rfl
      obtain rfl : _ = front.length := Nat.le_antisymm (by omega) hplace
      rw [hlast, Option.some.injEq] at hstands
      rw [hstands]
  · rintro rfl
    exact .next hnearest

theorem callsFor_concat_other {front : List Record} {record : Record} {docId : String}
    {link : Option Digest} (hdoc : record.docId ≠ docId) :
    CallsFor (front ++ [record]) docId (front.length + 1) link ↔
      CallsFor front docId front.length link := by
  have hbefore : CallsFor (front ++ [record]) docId front.length link ↔
      CallsFor front docId front.length link := CallsFor.append (Nat.le_refl _)
  rw [← hbefore]
  have hlast : (front ++ [record])[front.length]? = some record := by simp
  have hearlier {place : Nat} {other : Record} (hplace : place < front.length + 1)
      (hfound : (front ++ [record])[place]? = some other) (hsame : other.docId = docId) :
      place < front.length := by
    have hne : place ≠ front.length := by
      rintro rfl
      rw [hlast, Option.some.injEq] at hfound
      exact hdoc (hfound ▸ hsame)
    omega
  constructor
  · rintro (hfresh | ⟨hbefore, hstands, hsame, hlargest⟩)
    · exact .first fun place other hplace => hfresh place other (by omega)
    · refine .next ⟨hearlier hbefore hstands hsame, hstands, hsame, ?_⟩
      exact fun place other hplace => hlargest place other (by omega)
  · rintro (hfresh | ⟨hbefore, hstands, hsame, hlargest⟩)
    · refine .first fun place other hplace hfound hsame => ?_
      exact hfresh place other (hearlier hplace hfound hsame) hfound hsame
    · refine .next ⟨by omega, hstands, hsame, fun place other hplace hfound hother => ?_⟩
      exact hlargest place other (hearlier hplace hfound hother) hfound hother

theorem callsFor_reverse (earlier : List Record) (docId : String) (link : Option Digest) :
    CallsFor earlier.reverse docId earlier.length link ↔ link = expectedLink earlier docId := by
  induction earlier with
  | nil =>
      constructor
      · rintro (_ | ⟨hbefore, _, _, _⟩)
        · rfl
        · exact absurd hbefore (Nat.not_lt_zero _)
      · rintro rfl
        exact .first fun place _ hplace => absurd hplace (Nat.not_lt_zero _)
  | cons record earlier ih =>
      rw [List.reverse_cons, expectedLink_cons, List.length_cons, ← List.length_reverse]
      by_cases hdoc : record.docId = docId
      · subst hdoc
        rw [callsFor_concat_same, if_pos rfl]
      · rw [callsFor_concat_other hdoc, if_neg hdoc, List.length_reverse, ih]

theorem callsFor_at {front back : List Record} {docId : String} {link : Option Digest} :
    CallsFor (front ++ back) docId front.length link ↔ link = expectedLink front.reverse docId := by
  rw [CallsFor.append (Nat.le_refl _), ← callsFor_reverse, List.reverse_reverse,
    List.length_reverse]

theorem brokenAt_iff {front back : List Record} {record : Record} :
    BrokenAt (front ++ record :: back) front.length ↔
      record.previous ≠ expectedLink front.reverse record.docId := by
  have hstands : (front ++ record :: back)[front.length]? = some record := by simp
  constructor
  · rintro ⟨other, hother, hbroken⟩
    rw [hstands, Option.some.injEq] at hother
    subst hother
    exact fun hlink => hbroken (callsFor_at.mpr hlink)
  · intro hlink
    exact ⟨record, hstands, fun hcalls => hlink (callsFor_at.mp hcalls)⟩

theorem BrokenAt.append {front back : List Record} {index : Nat} (hindex : index < front.length) :
    BrokenAt (front ++ back) index ↔ BrokenAt front index := by
  have hsame : (front ++ back)[index]? = front[index]? := List.getElem?_append_left hindex
  simp only [BrokenAt, hsame, CallsFor.append (Nat.le_of_lt hindex)]

theorem linkedAfter_iff {earlier records : List Record} :
    LinkedAfter earlier records ↔
      ∀ index, earlier.length ≤ index → ¬ BrokenAt (earlier.reverse ++ records) index := by
  induction records generalizing earlier with
  | nil =>
      refine iff_of_true trivial fun index hindex ⟨record, hfound, _⟩ => ?_
      have hnone : (earlier.reverse ++ [])[index]? = none := List.getElem?_eq_none (by simpa)
      rw [hnone] at hfound
      cases hfound
  | cons record rest ih =>
      have hsplit : earlier.reverse ++ record :: rest = (record :: earlier).reverse ++ rest := by
        simp
      have hhere : BrokenAt (earlier.reverse ++ record :: rest) earlier.reverse.length ↔
          record.previous ≠ expectedLink earlier.reverse.reverse record.docId := brokenAt_iff
      rw [List.length_reverse, List.reverse_reverse] at hhere
      rw [LinkedAfter, ih, ← hsplit, List.length_cons]
      constructor
      · rintro ⟨hlink, hrest⟩ index hindex
        rcases Nat.eq_or_lt_of_le hindex with rfl | hlater
        · exact fun hbroken => hhere.mp hbroken hlink
        · exact hrest index hlater
      · intro hnone
        refine ⟨Decidable.not_not.mp fun hlink => hnone _ (Nat.le_refl _) (hhere.mpr hlink), ?_⟩
        exact fun index hindex => hnone index (by omega)

theorem linked_iff {records : List Record} :
    Linked records ↔ ∀ index, ¬ BrokenAt records index := by
  rw [Linked, linkedAfter_iff]
  simp

theorem firstBreakAfter_eq_some_iff {earlier records : List Record} {found : Break} :
    firstBreakAfter earlier records = some found ↔
      ∃ front back, records = front ++ found.record :: back ∧ LinkedAfter earlier front ∧
        found.expected = expectedLink (front.reverse ++ earlier) found.record.docId ∧
        found.record.previous ≠ found.expected := by
  induction records generalizing earlier with
  | nil => simp [firstBreakAfter]
  | cons record rest ih =>
      by_cases hlink : record.previous = expectedLink earlier record.docId
      · rw [firstBreakAfter, if_pos hlink, ih]
        constructor
        · rintro ⟨front, back, rfl, hlinked, hexpected, hbroken⟩
          refine ⟨record :: front, back, rfl, ⟨hlink, hlinked⟩, ?_, hbroken⟩
          simpa using hexpected
        · rintro ⟨_ | ⟨first, front⟩, back, hsplit, hlinked, hexpected, hbroken⟩
          · cases hsplit
            exact absurd (hlink.trans hexpected.symm) hbroken
          · cases hsplit
            refine ⟨front, back, rfl, hlinked.2, ?_, hbroken⟩
            simpa using hexpected
      · rw [firstBreakAfter, if_neg hlink]
        constructor
        · intro hfound
          cases hfound
          exact ⟨[], rest, rfl, trivial, rfl, hlink⟩
        · rintro ⟨_ | ⟨first, front⟩, back, hsplit, hlinked, hexpected, hbroken⟩
          · cases hsplit
            exact congrArg some (by cases found; simp_all)
          · cases hsplit
            exact absurd hlinked.1 hlink

theorem exists_split {records : List Record} {index : Nat} {record : Record}
    (hstands : records[index]? = some record) :
    ∃ front back, records = front ++ record :: back ∧ index = front.length := by
  obtain ⟨hindex, rfl⟩ := List.getElem?_eq_some_iff.mp hstands
  exact ⟨records.take index, records.drop (index + 1), by simp, by simp; omega⟩

theorem brokenFirst_iff {records : List Record} {index : Nat} {record : Record} :
    BrokenFirst records index record ↔
      ∃ front back, records = front ++ record :: back ∧ index = front.length ∧ Linked front ∧
        record.previous ≠ expectedLink front.reverse record.docId := by
  constructor
  · rintro ⟨hstands, hbroken, hleast⟩
    obtain ⟨front, back, rfl, rfl⟩ := exists_split hstands
    refine ⟨front, back, rfl, rfl, linked_iff.mpr fun earlier hearlier => ?_,
      brokenAt_iff.mp hbroken⟩
    obtain ⟨other, hother, _⟩ := id hearlier
    have hbound : earlier < front.length := (List.getElem?_eq_some_iff.mp hother).1
    exact hleast earlier hbound ((BrokenAt.append hbound).mpr hearlier)
  · rintro ⟨front, back, rfl, rfl, hlinked, hbroken⟩
    refine ⟨by simp, brokenAt_iff.mpr hbroken, fun earlier hearlier => ?_⟩
    rw [BrokenAt.append hearlier]
    exact linked_iff.mp hlinked earlier

theorem firstBreak_eq_some_iff {records : List Record} {found : Break} :
    firstBreak records = some found ↔
      ∃ index, BrokenFirst records index found.record ∧
        CallsFor records found.record.docId index found.expected := by
  rw [firstBreak, firstBreakAfter_eq_some_iff]
  constructor
  · rintro ⟨front, back, rfl, hlinked, hexpected, hbroken⟩
    rw [List.append_nil] at hexpected
    refine ⟨front.length, brokenFirst_iff.mpr ⟨front, back, rfl, rfl, hlinked, ?_⟩,
      callsFor_at.mpr hexpected⟩
    exact hexpected ▸ hbroken
  · rintro ⟨index, hfirst, hcalls⟩
    obtain ⟨front, back, hsplit, rfl, hlinked, hbroken⟩ := brokenFirst_iff.mp hfirst
    rw [hsplit, callsFor_at] at hcalls
    refine ⟨front, back, hsplit, hlinked, ?_, hcalls ▸ hbroken⟩
    rw [List.append_nil]
    exact hcalls

/-- An audit accepts a list if every record carries the link of the nearest record before it of the
same document, or none if there is no such record. Otherwise it names the first record that does
not. It counts all records in either case. -/
theorem audit_finds_first (records : List Record) :
    (audit records).total = records.length ∧
      ((audit records).isValid = true ↔ ∀ index record, records[index]? = some record →
        CallsFor records record.docId index record.previous) ∧
      ((audit records).breakAt = none ↔ (audit records).isValid = true) ∧
      (∀ id, (audit records).breakAt = some id ↔
        ∃ index record, BrokenFirst records index record ∧ record.id = id) ∧
      ∀ found, (audit records).break? = some found ↔
        ∃ index, BrokenFirst records index found.record ∧
          CallsFor records found.record.docId index found.expected := by
  have hbreak (found : Break) : (audit records).break? = some found ↔ _ :=
    firstBreak_eq_some_iff
  refine ⟨rfl, ?_, by simp [Audit.breakAt, Audit.isValid], fun id => ?_, hbreak⟩
  · rw [audit_isValid_iff, linked_iff]
    constructor
    · intro hlinked index record hstands
      exact Classical.not_not.mp fun hbroken => hlinked index ⟨record, hstands, hbroken⟩
    · rintro hcalls index ⟨record, hstands, hbroken⟩
      exact hbroken (hcalls index record hstands)
  · rw [Audit.breakAt, Option.map_eq_some_iff]
    constructor
    · rintro ⟨found, hfound, rfl⟩
      obtain ⟨index, hfirst, _⟩ := (hbreak found).mp hfound
      exact ⟨index, found.record, hfirst, rfl⟩
    · rintro ⟨index, record, hfirst, rfl⟩
      obtain ⟨front, back, hsplit, hindex, _⟩ := brokenFirst_iff.mp hfirst
      refine ⟨⟨record, expectedLink front.reverse record.docId⟩, (hbreak _).mpr ?_, rfl⟩
      refine ⟨index, hfirst, ?_⟩
      rw [hsplit, hindex]
      exact callsFor_at.mpr rfl

end Chain

end Signoff
