import Mathlib.Data.List.Forall2
import Signoff.Proofs.Database.Constraints

namespace Signoff.Database

/-! Rows that stand for no record. A query that selects one of them fails, and all that it has read
before is lost. -/

/-- A row stands for a record: each column holds what the record has, byte by byte. -/
structure Stands (row : Row) (record : Record) : Prop where
  id : Schema.signatures.value row "id" = .integer record.id
  docId : Schema.signatures.value row "doc_id" = .text record.docId
  subject : Schema.signatures.value row "user_sub" = .text record.user.subject
  email : Schema.signatures.value row "user_email" = .text record.user.email
  name : Schema.signatures.value row "user_name" = .text record.user.name
  signedAt : Schema.signatures.value row "signed_at" = .integer record.signedAt
  checksum : Schema.signatures.value row "doc_checksum" = Cell.ofOption .text record.checksum
  payloadHash : Schema.signatures.value row "payload_hash" = .blob record.payloadHash.bytes
  signature : Schema.signatures.value row "signature" = .blob record.signature.bytes
  nonce : Schema.signatures.value row "nonce" = .blob record.nonce.bytes
  referer : Schema.signatures.value row "referer" = Cell.ofOption .text record.referer
  previous : Schema.signatures.value row "prev_hash" =
    Cell.ofOption (fun previous : Digest => .blob previous.bytes) record.previous
  createdAt : Schema.signatures.value row "created_at" = .integer record.createdAt
  version : Schema.signatures.value row "hash_version" =
    .integer (Int64.ofNat record.version.toNat)

def Malformed (row : Row) : Prop := ∀ record, ¬ Stands row record

/-- A blob of the wrong length in the place of a digest, a signature or a nonce. -/
inductive Clipped (row : Row) : Prop
  | payloadHash {bytes : List UInt8}
      (holds : Schema.signatures.value row "payload_hash" = .blob bytes)
      (length : bytes.length ≠ 32)
  | signature {bytes : List UInt8}
      (holds : Schema.signatures.value row "signature" = .blob bytes)
      (length : bytes.length ≠ 64)
  | nonce {bytes : List UInt8}
      (holds : Schema.signatures.value row "nonce" = .blob bytes)
      (length : bytes.length ≠ 32)
  | previous {bytes : List UInt8}
      (holds : Schema.signatures.value row "prev_hash" = .blob bytes)
      (length : bytes.length ≠ 32)

theorem stands_iff {row : Row} {record : Record} :
    Stands row record ↔ readRecord row = .ok record := by
  rw [readRecord_eq_ok_iff]
  constructor
  · intro hstands
    -- A row with something in the last column has cells in all of them.
    have hlast : row.cell 12 ≠ .null := by
      have hversion : row.cell 12 = _ := hstands.version
      simp [hversion]
    have hwidth : signatureWidth ≤ row.cells.length := lt_length_of_cell hlast
    refine ⟨Value.integer.inj hstands.id, ?_⟩
    rw [take_eq_map_cell hwidth]
    simp only [signatureWidth, Schema.signatures, List.length_cons, List.length_nil, List.range,
      List.range.loop, List.map_cons, List.map_nil, signatureCells, List.cons.injEq]
    exact ⟨hstands.docId, hstands.subject, hstands.email, hstands.name, hstands.signedAt,
      hstands.checksum, hstands.payloadHash, hstands.signature, hstands.nonce, hstands.referer,
      hstands.previous, hstands.createdAt, hstands.version, trivial⟩
  · rintro ⟨hid, hcells⟩
    have hcell {index : Nat} (hindex : index < signatureWidth) := cell_of_take hcells hindex
    exact {
      id := congrArg Value.integer hid
      docId := hcell (by decide : 0 < signatureWidth)
      subject := hcell (by decide : 1 < signatureWidth)
      email := hcell (by decide : 2 < signatureWidth)
      name := hcell (by decide : 3 < signatureWidth)
      signedAt := hcell (by decide : 4 < signatureWidth)
      checksum := hcell (by decide : 5 < signatureWidth)
      payloadHash := hcell (by decide : 6 < signatureWidth)
      signature := hcell (by decide : 7 < signatureWidth)
      nonce := hcell (by decide : 8 < signatureWidth)
      referer := hcell (by decide : 9 < signatureWidth)
      previous := hcell (by decide : 10 < signatureWidth)
      createdAt := hcell (by decide : 11 < signatureWidth)
      version := hcell (by decide : 12 < signatureWidth) }

theorem malformed_iff {row : Row} :
    Malformed row ↔ ∃ cause, readRecord row = .error cause := by
  simp only [Malformed, stands_iff]
  cases readRecord row <;> simp

theorem Clipped.malformed {row : Row} (hclipped : Clipped row) : Malformed row := by
  intro record hstands
  cases hclipped with
  | payloadHash holds length =>
      rw [hstands.payloadHash, Value.blob.injEq] at holds
      exact length (holds ▸ record.payloadHash.length_bytes)
  | signature holds length =>
      rw [hstands.signature, Value.blob.injEq] at holds
      exact length (holds ▸ record.signature.length_bytes)
  | nonce holds length =>
      rw [hstands.nonce, Value.blob.injEq] at holds
      exact length (holds ▸ record.nonce.length_bytes)
  | previous holds length =>
      rw [hstands.previous] at holds
      cases hprevious : record.previous with
      | none =>
          rw [hprevious] at holds
          cases holds
      | some previous =>
          rw [hprevious, Cell.ofOption, Value.blob.injEq] at holds
          exact length (holds ▸ previous.length_bytes)

inductive Query where
  | one (docId subject : String)
  | ofDocument (docId : String)
  | ofUser (subject : String)
  | lastOf (docId : String)
  | all

def bears (column expected : String) (row : Row) : Bool :=
  Schema.signatures.value row column = .text expected

namespace Query

/-- The rows that a query is about, in the order in which it returns them. -/
def selected : Query → List Row → List Row
  | one docId subject, rows =>
    rows.filter fun row => bears "doc_id" docId row && bears "user_sub" subject row
  | ofDocument docId, rows => rows.filter (bears "doc_id" docId)
  | ofUser subject, rows => rows.filter (bears "user_sub" subject)
  | lastOf docId, rows => (rows.filter (bears "doc_id" docId)).getLast?.toList
  | all, rows => rows

def answer (database : Database) : Query → Except StoreError (List Record)
  | one docId subject => (Store.find database docId subject).map Option.toList
  | ofDocument docId => Store.recordsOf database docId
  | ofUser subject => Store.recordsBy database subject
  | lastOf docId => (Store.last database docId).map Option.toList
  | all => Store.records database

theorem last_sublist (rows : List Row) : rows.getLast?.toList.Sublist rows := by
  cases hlast : rows.getLast? with
  | none => exact List.nil_sublist rows
  | some row => exact List.singleton_sublist.mpr (List.mem_of_getLast? hlast)

theorem selected_sublist (query : Query) (rows : List Row) :
    (query.selected rows).Sublist rows := by
  cases query with
  | one | ofDocument | ofUser => exact List.filter_sublist
  | lastOf docId => exact (last_sublist _).trans List.filter_sublist
  | all => exact .refl rows

end Query

theorem readFirst_toList (row : Option Row) :
    (readFirst readRecord row).map Option.toList = readAll readRecord row.toList := by
  cases row with
  | none => rfl
  | some row =>
      simp only [readFirst, readAll, Option.toList, List.mapM_cons, List.mapM_nil]
      cases readRecord row <;> rfl

theorem filter_eq_find? {rows : List Row} {chosen : Row → Bool}
    (hone : rows.Pairwise fun left right => ¬ (chosen left = true ∧ chosen right = true)) :
    rows.filter chosen = (rows.find? chosen).toList := by
  induction rows with
  | nil => rfl
  | cons row rest ih =>
      obtain ⟨hrow, hrest⟩ := List.pairwise_cons.mp hone
      cases hchosen : chosen row with
      | true =>
          have hnone : rest.filter chosen = [] :=
            List.filter_eq_nil_iff.mpr fun other hother hsame => hrow other hother ⟨hchosen, hsame⟩
          simp [hchosen, hnone]
      | false => simpa [hchosen] using ih hrest

theorem Query.answer_eq {database : Database} (hconstrained : Constrained database)
    (query : Query) :
    query.answer database = readAll readRecord (query.selected database.signatures.rows) := by
  cases query with
  | one docId subject =>
      have hone : database.signatures.rows.Pairwise fun left right =>
          ¬ (isOf docId subject left = true ∧ isOf docId subject right = true) := by
        apply hconstrained.keyed.imp
        rintro left right hkeys ⟨hleft, hright⟩
        exact hkeys ((isOf_iff_keyOf.mp hleft).trans (isOf_iff_keyOf.mp hright).symm)
      have hselected : (one docId subject).selected database.signatures.rows =
          (database.signatures.rows.find? (isOf docId subject)).toList := filter_eq_find? hone
      rw [hselected]
      exact readFirst_toList _
  | lastOf docId =>
      have hselected : (lastOf docId).selected database.signatures.rows =
          (database.signatures.rows.reverse.find? (holds · 0 docId)).toList :=
        congrArg Option.toList (find?_reverse _ _).symm
      rw [hselected]
      exact readFirst_toList _
  | ofDocument docId => rfl
  | ofUser subject => rfl
  | all => rfl

/-- The first row that stands for no record, and why it cannot be read. -/
inductive FirstMalformed : List Row → DatabaseError → Prop
  | here {front back : List Row} {row : Row} {cause : DatabaseError}
      (readable : ∀ other ∈ front, ¬ Malformed other) (malformed : Malformed row)
      (unread : readRecord row = .error cause) : FirstMalformed (front ++ row :: back) cause

/-- A query returns a record for each row that it selects, or it fails at the first of them that
stands for none. -/
inductive Answered (rows : List Row) : Except StoreError (List Record) → Prop
  | whole {records : List Record} (stand : List.Forall₂ Stands rows records)
      (ordered : records.Pairwise fun left right => left.id < right.id) :
      Answered rows (.ok records)
  | failed {cause : DatabaseError} (malformed : FirstMalformed rows cause) :
      Answered rows (.error (.database cause))

theorem mapM_readRecord_ok {rows : List Row} {records : List Record}
    (hread : rows.mapM readRecord = .ok records) : List.Forall₂ Stands rows records := by
  have hmap := mapM_eq_ok_iff.mp hread
  rw [← List.forall₂_eq_eq_eq, List.forall₂_map_left_iff, List.forall₂_map_right_iff] at hmap
  exact hmap.imp fun row record hrow => stands_iff.mpr hrow

theorem mapM_readRecord_error {rows : List Row} {cause : DatabaseError}
    (hread : rows.mapM readRecord = .error cause) : FirstMalformed rows cause := by
  obtain ⟨front, row, back, rfl, hfront, hrow⟩ := mapM_eq_error_iff.mp hread
  refine .here ?_ (malformed_iff.mpr ⟨cause, hrow⟩) hrow
  intro other hother hmalformed
  obtain ⟨record, hrecord⟩ := hfront other hother
  exact hmalformed record (stands_iff.mpr hrecord)

theorem not_malformed_of_stand {rows : List Row} {records : List Record}
    (hstand : List.Forall₂ Stands rows records) : ∀ row ∈ rows, ¬ Malformed row := by
  induction hstand with
  | nil => simp
  | cons hstands _ ih =>
      intro row hrow hmalformed
      rcases List.mem_cons.mp hrow with rfl | hlater
      · exact hmalformed _ hstands
      · exact ih row hlater hmalformed

theorem Answered.of_malformed {rows : List Row} {answer : Except StoreError (List Record)}
    (hanswered : Answered rows answer) (hmalformed : ∃ row ∈ rows, Malformed row) :
    ∃ cause, FirstMalformed rows cause ∧ answer = .error (.database cause) := by
  cases hanswered with
  | failed first => exact ⟨_, first, rfl⟩
  | whole stand =>
      obtain ⟨row, hrow, hnone⟩ := hmalformed
      exact absurd hnone (not_malformed_of_stand stand row hrow)

theorem Query.answered {database : Database} (hconstrained : Constrained database)
    (query : Query) :
    Answered (query.selected database.signatures.rows) (query.answer database) := by
  rw [query.answer_eq hconstrained, readAll]
  cases hread : (query.selected database.signatures.rows).mapM readRecord with
  | error cause => exact .failed (mapM_readRecord_error hread)
  | ok records =>
      have hsorted := hconstrained.sorted.sublist (query.selected_sublist _)
      exact .whole (mapM_readRecord_ok hread)
        (increasing_of_read (mapM_eq_ok_iff.mp hread) hsorted)

end Signoff.Database
