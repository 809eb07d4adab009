import Signoff.Proofs.Chain.Links
import Signoff.Proofs.Message

namespace Signoff

namespace Chain

/-! The last record of a document vouches for all the records before it, as long as nobody finds
two messages with one hash. -/

/-- What the links of a document vouch for, record by record. -/
def history (docId : String) (records : List Record) : List LinkFields :=
  (records.filter (·.docId = docId)).map (·.linkFields)

/-- Two link messages, one of a record on either side, that differ and have the same hash. -/
def Collision (left right : List Record) : Prop :=
  ∃ first ∈ left, ∃ second ∈ right,
    first.linkMessage ≠ second.linkMessage ∧ sha256 first.linkMessage = sha256 second.linkMessage

theorem Collision.mono {left right left' right' : List Record} (hcollision : Collision left right)
    (hleft : left ⊆ left') (hright : right ⊆ right') : Collision left' right' := by
  obtain ⟨first, hfirst, second, hsecond, hdiffer, hhash⟩ := hcollision
  exact ⟨first, hleft hfirst, second, hright hsecond, hdiffer, hhash⟩

def LinkedBack : List Record → Prop
  | [] => True
  | record :: earlier =>
    record.previous = earlier.head?.map (·.linkHash) ∧ LinkedBack earlier

theorem expectedLink_of_forall {earlier : List Record} {docId : String}
    (hdocs : ∀ record ∈ earlier, record.docId = docId) :
    expectedLink earlier docId = earlier.head?.map (·.linkHash) := by
  cases earlier with
  | nil => rfl
  | cons record rest => simp [expectedLink, hdocs record (by simp)]

theorem LinkedAfter.linkedBack {earlier records : List Record} (docId : String)
    (hlinked : LinkedAfter earlier records) (hearlier : LinkedBack earlier)
    (hdocs : ∀ record ∈ earlier ++ records, record.docId = docId) :
    LinkedBack (records.reverse ++ earlier) := by
  induction records generalizing earlier with
  | nil => exact hearlier
  | cons record rest ih =>
      obtain ⟨hlink, hrest⟩ := hlinked
      have hdoc : record.docId = docId := hdocs record (by simp)
      rw [hdoc, expectedLink_of_forall fun other hother => hdocs other (by simp [hother])] at hlink
      have hdocsRest : ∀ other ∈ record :: earlier ++ rest, other.docId = docId := by
        intro other hother
        apply hdocs other
        simp only [List.cons_append, List.mem_cons, List.mem_append] at hother ⊢
        rcases hother with hsame | hold | hnew
        · exact .inr (.inl hsame)
        · exact .inl hold
        · exact .inr (.inr hnew)
      simpa using ih hrest ⟨hlink, hearlier⟩ hdocsRest

theorem Linked.linkedBack_filter {records : List Record} (hlinked : Linked records)
    (docId : String) : LinkedBack (records.filter (·.docId = docId)).reverse := by
  have hback := LinkedAfter.linkedBack docId (hlinked.filter docId) trivial (by simp)
  simpa using hback

/-- Going back from two records with one link hash, the links call for the same fields at each
step, and for a first record at the same step. -/
theorem LinkedBack.fields_eq {left right : List Record} (hleft : LinkedBack left)
    (hright : LinkedBack right) (hsizedLeft : ∀ record ∈ left, record.Sized)
    (hsizedRight : ∀ record ∈ right, record.Sized)
    (hhead : left.head?.map (·.linkHash) = right.head?.map (·.linkHash)) :
    left.map (·.linkFields) = right.map (·.linkFields) ∨ Collision left right := by
  induction left generalizing right with
  | nil =>
      cases right with
      | nil => exact .inl rfl
      | cons second right => simp at hhead
  | cons first left ih =>
      cases right with
      | nil => simp at hhead
      | cons second right =>
          simp only [List.head?_cons, Option.map_some, Option.some.injEq] at hhead
          by_cases hmessage : first.linkMessage = second.linkMessage
          · have hfields := (Draft.linkMessage_inj (hsizedLeft first (by simp))
              (hsizedRight second (by simp))).mp hmessage
            have hprevious : first.previous = second.previous :=
              congrArg LinkFields.previous hfields
            rw [hleft.1, hright.1] at hprevious
            rcases ih hleft.2 hright.2 (fun record hrecord => hsizedLeft record (by simp [hrecord]))
              (fun record hrecord => hsizedRight record (by simp [hrecord])) hprevious with
              hrest | ⟨found, hfound, other, hother, hcollision⟩
            · exact .inl (by simp [hfields, hrest])
            · exact .inr ⟨found, by simp [hfound], other, by simp [hother], hcollision⟩
          · exact .inr ⟨first, by simp, second, by simp, hmessage, hhead⟩

theorem LinkedBack.of_append {front back : List Record} (hlinked : LinkedBack (front ++ back)) :
    LinkedBack back := by
  induction front with
  | nil => exact hlinked
  | cons record front ih => exact ih hlinked.2

theorem LinkedBack.distinct {records : List Record} (hlinked : LinkedBack records)
    (hsized : ∀ record ∈ records, record.Sized) :
    (records.Pairwise fun left right => left.linkFields ≠ right.linkFields) ∨
      Collision records records := by
  induction records with
  | nil => exact .inl .nil
  | cons record rest ih =>
      rcases ih hlinked.2 (fun other hother => hsized other (by simp [hother])) with
        hdistinct | hcollision
      · by_cases hfound : ∃ other ∈ rest, record.linkFields = other.linkFields
        · obtain ⟨other, hother, hfields⟩ := hfound
          obtain ⟨front, back, rfl⟩ := List.append_of_mem hother
          have hback : LinkedBack (other :: back) := hlinked.2.of_append
          have hsizedBack : ∀ later ∈ other :: back, later.Sized := by
            intro later hlater
            exact hsized later (by simp_all)
          have hmessage := (Draft.linkMessage_inj (hsized record (by simp))
            (hsized other (by simp))).mpr hfields
          rcases hlinked.fields_eq hback hsized hsizedBack
            (congrArg (fun message => some (sha256 message)) hmessage) with hsame | hcollision
          · have hlength := congrArg List.length hsame
            simp only [List.length_map, List.length_cons, List.length_append] at hlength
            omega
          · exact .inr (hcollision.mono (List.Subset.refl _) (by simp))
        · exact .inl (.cons (fun other hother hfields => hfound ⟨other, hother, hfields⟩) hdistinct)
      · exact .inr (hcollision.mono (by simp) (by simp))

theorem history_eq_or_collision {left right : List Record} {docId : String} {first second : Record}
    (hleft : Linked left) (hright : Linked right)
    (hsized : ∀ record ∈ left ++ right, record.Sized)
    (hfirst : (left.filter (·.docId = docId)).getLast? = some first)
    (hsecond : (right.filter (·.docId = docId)).getLast? = some second)
    (hhash : first.linkHash = second.linkHash) :
    history docId left = history docId right ∨ Collision left right := by
  have hsizedLeft : ∀ record ∈ (left.filter (·.docId = docId)).reverse, record.Sized := by
    intro record hrecord
    exact hsized record (by simp_all)
  have hsizedRight : ∀ record ∈ (right.filter (·.docId = docId)).reverse, record.Sized := by
    intro record hrecord
    exact hsized record (by simp_all)
  have hhead : (left.filter (·.docId = docId)).reverse.head?.map (·.linkHash) =
      (right.filter (·.docId = docId)).reverse.head?.map (·.linkHash) := by
    rw [List.head?_reverse, List.head?_reverse, hfirst, hsecond]
    exact congrArg some hhash
  rcases (hleft.linkedBack_filter docId).fields_eq (hright.linkedBack_filter docId) hsizedLeft
    hsizedRight hhead with hfields | ⟨found, hfound, other, hother, hcollision⟩
  · rw [List.map_reverse, List.map_reverse] at hfields
    exact .inl (List.reverse_inj.mp hfields)
  · refine .inr ⟨found, ?_, other, ?_, hcollision⟩
    · simp_all
    · simp_all

inductive Tampered (docId : String) : List Record → List Record → Prop where
  | edit {front back : List Record} {record edited : Record} (hdoc : record.docId = docId)
      (hfields : edited.linkFields ≠ record.linkFields)
      (hlater : ∃ later ∈ back, later.docId = docId) :
      Tampered docId (front ++ record :: back) (front ++ edited :: back)
  | delete {front back : List Record} {record : Record} (hdoc : record.docId = docId)
      (hlater : ∃ later ∈ back, later.docId = docId) :
      Tampered docId (front ++ record :: back) (front ++ back)
  | insert {front back : List Record} {record : Record} (hdoc : record.docId = docId)
      (hlater : ∃ later ∈ back, later.docId = docId) :
      Tampered docId (front ++ back) (front ++ record :: back)
  | reorder {front moved back : List Record} (hperm : front.Perm moved)
      (horder : front.filter (·.docId = docId) ≠ moved.filter (·.docId = docId))
      (hlater : ∃ later ∈ back, later.docId = docId) :
      Tampered docId (front ++ back) (moved ++ back)

theorem history_append (docId : String) (front back : List Record) :
    history docId (front ++ back) = history docId front ++ history docId back := by
  simp [history]

theorem history_cons {docId : String} {record : Record} (hdoc : record.docId = docId)
    (back : List Record) :
    history docId (record :: back) = record.linkFields :: history docId back := by
  simp [history, hdoc]

theorem history_cons_other {docId : String} {record : Record} (hdoc : record.docId ≠ docId)
    (back : List Record) : history docId (record :: back) = history docId back := by
  simp [history, hdoc]

theorem history_insert_ne {docId : String} {record : Record} (hdoc : record.docId = docId)
    (front back : List Record) :
    history docId (front ++ record :: back) ≠ history docId (front ++ back) := by
  intro hsame
  have hlength := congrArg List.length hsame
  simp [history_append, history_cons hdoc] at hlength

theorem filter_eq_of_history_eq {front moved : List Record} {docId : String}
    (hperm : front.Perm moved)
    (hdistinct : (front.filter (·.docId = docId)).Pairwise fun left right =>
      left.linkFields ≠ right.linkFields)
    (hhistory : history docId front = history docId moved) :
    front.filter (·.docId = docId) = moved.filter (·.docId = docId) := by
  have hpermDoc := hperm.filter (·.docId = docId)
  have hinj : ∀ left ∈ front.filter (·.docId = docId), ∀ right ∈ front.filter (·.docId = docId),
      left.linkFields = right.linkFields → left = right := by
    apply List.Pairwise.forall_of_forall_of_flip
    · exact fun _ _ _ => rfl
    · exact hdistinct.imp fun hne heq => absurd heq hne
    · exact hdistinct.imp fun hne heq => absurd heq.symm hne
  apply List.ext_getElem hpermDoc.length_eq
  intro index hfront hmoved
  apply hinj _ (List.getElem_mem hfront) _ (hpermDoc.mem_iff.mpr (List.getElem_mem hmoved))
  have hget := congrArg (fun fields => fields[index]?) hhistory
  simpa [history, hfront, hmoved] using hget

theorem Tampered.history_ne {docId : String} {before after : List Record}
    (htampered : Tampered docId before after) (hlinked : Linked before)
    (hsized : ∀ record ∈ before, record.Sized) :
    history docId before ≠ history docId after ∨ Collision before after := by
  cases htampered with
  | @edit front back record edited hdoc hfields hlater =>
      left
      by_cases hedited : edited.docId = docId
      · rw [history_append, history_append, history_cons hdoc, history_cons hedited]
        intro hsame
        have htail := List.append_cancel_left hsame
        exact hfields (List.cons.inj htail).1.symm
      · intro hsame
        apply history_insert_ne hdoc front back
        rw [hsame, history_append, history_append, history_cons_other hedited]
  | delete hdoc hlater => exact .inl (history_insert_ne hdoc _ _)
  | insert hdoc hlater => exact .inl (history_insert_ne hdoc _ _).symm
  | @reorder front moved back hperm horder hlater =>
      have hsizedDoc : ∀ record ∈ ((front ++ back).filter (·.docId = docId)).reverse,
          record.Sized := by
        intro record hrecord
        exact hsized record (List.mem_filter.mp (List.mem_reverse.mp hrecord)).1
      rcases (hlinked.linkedBack_filter docId).distinct hsizedDoc with hdistinct | hcollision
      · left
        rw [history_append, history_append]
        intro hsame
        apply horder
        apply filter_eq_of_history_eq hperm ?_ (List.append_cancel_right hsame)
        rw [List.pairwise_reverse, List.filter_append, List.pairwise_append] at hdistinct
        exact hdistinct.1.imp Ne.symm
      · right
        have hsubset : ((front ++ back).filter (·.docId = docId)).reverse ⊆ front ++ back := by
          intro record hrecord
          exact (List.mem_filter.mp (List.mem_reverse.mp hrecord)).1
        have hmoved : front ++ back ⊆ moved ++ back := (hperm.append_right back).subset
        exact hcollision.mono hsubset (List.Subset.trans hsubset hmoved)

theorem getLast?_filter_append {docId : String} {back : List Record}
    (hlater : ∃ later ∈ back, later.docId = docId) :
    ∃ last, ∀ front : List Record,
      ((front ++ back).filter (·.docId = docId)).getLast? = some last := by
  obtain ⟨later, hmem, hdoc⟩ := hlater
  have hnonempty : back.filter (·.docId = docId) ≠ [] :=
    List.ne_nil_of_mem (List.mem_filter.mpr ⟨hmem, by simpa using hdoc⟩)
  refine ⟨(back.filter (·.docId = docId)).getLast hnonempty, fun front => ?_⟩
  rw [List.filter_append, List.getLast?_append, List.getLast?_eq_some_getLast hnonempty]
  rfl

theorem Tampered.getLast?_eq {docId : String} {before after : List Record}
    (htampered : Tampered docId before after) :
    ∃ last, (before.filter (·.docId = docId)).getLast? = some last ∧
      (after.filter (·.docId = docId)).getLast? = some last := by
  cases htampered with
  | @edit front back record edited hdoc hfields hlater =>
      obtain ⟨last, hlast⟩ := getLast?_filter_append hlater
      have hrecord := hlast (front ++ [record])
      have hedited := hlast (front ++ [edited])
      rw [List.append_assoc] at hrecord hedited
      exact ⟨last, hrecord, hedited⟩
  | @delete front back record hdoc hlater =>
      obtain ⟨last, hlast⟩ := getLast?_filter_append hlater
      have hrecord := hlast (front ++ [record])
      rw [List.append_assoc] at hrecord
      exact ⟨last, hrecord, hlast front⟩
  | @insert front back record hdoc hlater =>
      obtain ⟨last, hlast⟩ := getLast?_filter_append hlater
      have hrecord := hlast (front ++ [record])
      rw [List.append_assoc] at hrecord
      exact ⟨last, hlast front, hrecord⟩
  | reorder hperm horder hlater =>
      obtain ⟨last, hlast⟩ := getLast?_filter_append hlater
      exact ⟨last, hlast _, hlast _⟩

/-- Of two intact lists whose last records of a document have one hash, either both hold the same
history of the document, or they hold a collision. So a change before the last record of a
document shows in the audit unless it comes with a collision. -/
theorem head_binds_history {left right : List Record} (hleft : (audit left).isValid = true)
    (hright : (audit right).isValid = true) (hsized : ∀ record ∈ left ++ right, record.Sized) :
    (∀ docId first second, (left.filter (·.docId = docId)).getLast? = some first →
      (right.filter (·.docId = docId)).getLast? = some second →
      first.linkHash = second.linkHash →
        history docId left = history docId right ∨ Collision left right) ∧
    ∀ docId, Tampered docId left right → Collision left right := by
  have hlinkedLeft := audit_isValid_iff.mp hleft
  have hlinkedRight := audit_isValid_iff.mp hright
  constructor
  · intro docId first second hfirst hsecond hhash
    exact history_eq_or_collision hlinkedLeft hlinkedRight hsized hfirst hsecond hhash
  · intro docId htampered
    obtain ⟨last, hbefore, hafter⟩ := htampered.getLast?_eq
    have hsizedLeft : ∀ record ∈ left, record.Sized :=
      fun record hrecord => hsized record (by simp [hrecord])
    rcases htampered.history_ne hlinkedLeft hsizedLeft with hdiffer | hcollision
    · rcases history_eq_or_collision hlinkedLeft hlinkedRight hsized hbefore hafter rfl with
        hsame | hcollision
      · exact absurd hsame hdiffer
      · exact hcollision
    · exact hcollision

theorem head_binds_history_renamed :
    let first := handbookRecord 1 "alice" "Alice" none
    let renamed := handbookRecord 1 "alice" "Alicia" none
    let last := handbookRecord 2 "bob" "Bob" (some first.linkHash)
    (audit [first, last]).isValid = true ∧ (audit [renamed, last]).isValid = true ∧
      (∀ record ∈ [first, last] ++ [renamed, last], record.Sized) ∧
      (history "handbook" [first, last] = history "handbook" [renamed, last] ∨
        Collision [first, last] [renamed, last]) := by
  intro first renamed last
  have hdoc (id : Int64) (subject name : String) (previous : Option Digest) :
      (handbookRecord id subject name previous).docId = "handbook" := rfl
  have hlink (name : String) :
      last.previous = expectedLink [handbookRecord 1 "alice" name none] last.docId := by
    simp only [expectedLink, List.find?, hdoc, last, decide_true]
    rfl
  have hleft : (audit [first, last]).isValid = true :=
    audit_isValid_iff.mpr ⟨rfl, hlink "Alice", trivial⟩
  have hright : (audit [renamed, last]).isValid = true :=
    audit_isValid_iff.mpr ⟨rfl, hlink "Alicia", trivial⟩
  have htext {text : String} (hsize : text.utf8ByteSize < Bytes.capacity 8) :
      (Text.bytes text).length < Bytes.capacity 8 := by
    rwa [Text.length_bytes]
  have hsized : ∀ record ∈ [first, last] ++ [renamed, last], record.Sized := by
    intro record hrecord
    simp only [List.cons_append, List.nil_append, List.mem_cons, List.not_mem_nil, or_false]
      at hrecord
    rcases hrecord with rfl | rfl | rfl | rfl <;>
      exact ⟨htext (by decide), htext (by decide), htext (by decide)⟩
  obtain ⟨hbinds, _⟩ := head_binds_history hleft hright hsized
  exact ⟨hleft, hright, hsized, hbinds "handbook" last last rfl rfl rfl⟩

end Chain

end Signoff
