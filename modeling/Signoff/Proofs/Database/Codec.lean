import Signoff.Database.Codec
import Signoff.Proofs.Except

namespace Signoff.Database

/-! Which rows can be read, and as what. A row is read as a record exactly if its cells are the
ones that the record is written as. -/

namespace Cell

variable {index : Nat} {column : String} {value : Value}

theorem text_eq_ok_iff {found : String} :
    text index column value = .ok found ↔ value = .text found := by
  cases value <;> simp [text]

theorem int64_eq_ok_iff {found : Int64} :
    int64 index column value = .ok found ↔ value = .integer found := by
  cases value <;> simp [int64]

theorem blob_eq_ok_iff {found : List UInt8} :
    blob index column value = .ok found ↔ value = .blob found := by
  cases value <;> simp [blob]

theorem octets_eq_ok_iff {length : Nat} {found : Octets length} :
    octets length index column value = .ok found ↔ value = .blob found.bytes := by
  simp only [octets, bind_eq_ok_iff, blob_eq_ok_iff]
  constructor
  · rintro ⟨bytes, rfl, hread⟩
    cases hoctets : Octets.ofList? length bytes with
    | none => simp [hoctets] at hread
    | some octets =>
        simp only [hoctets, Except.ok.injEq] at hread
        subst hread
        rw [Octets.ofList?_eq_some_iff.mp hoctets]
  · rintro rfl
    refine ⟨found.bytes, rfl, ?_⟩
    rw [Octets.ofList?_eq_some_iff.mpr rfl]

theorem uint16_eq_ok_iff {found : UInt16} :
    uint16 index column value = .ok found ↔ value = .integer (Int64.ofNat found.toNat) := by
  simp only [uint16, bind_eq_ok_iff, int64_eq_ok_iff]
  constructor
  · rintro ⟨number, rfl, hread⟩
    split at hread
    next hrange =>
      cases hread
      have hnumber : (number.toNatClampNeg : Int) = number.toInt :=
        Int64.cast_toNatClampNeg number hrange.1
      have hhigh : number.toInt < 65536 := Int64.lt_iff_toInt_lt.mp hrange.2
      have hsmall : (UInt16.ofNat number.toNatClampNeg).toNat = number.toNatClampNeg :=
        UInt16.toNat_ofNat_of_lt (by simp [UInt16.size]; omega)
      rw [hsmall, Int64.ofNat_toNatClampNeg number hrange.1]
    next => cases hread
  · rintro rfl
    have hsmall : found.toNat < 65536 := UInt16.toNat_lt found
    have hvalue : (Int64.ofNat found.toNat).toInt = found.toNat :=
      Int64.toInt_ofNat_of_lt (by omega)
    have hlow : 0 ≤ Int64.ofNat found.toNat :=
      Int64.le_iff_toInt_le.mpr (by rw [hvalue]; exact Int.natCast_nonneg _)
    have hhigh : Int64.ofNat found.toNat < 65536 :=
      Int64.lt_iff_toInt_lt.mpr (by rw [hvalue]; exact Int.ofNat_lt.mpr hsmall)
    refine ⟨_, rfl, ?_⟩
    rw [if_pos ⟨hlow, hhigh⟩, Int64.toNatClampNeg_ofNat_of_lt (by omega), UInt16.ofNat_toNat]

/-- Reading an optional cell undoes writing one, if no value is written as a null. -/
theorem optional_eq_ok_iff {α : Type} {read : Value → Except DatabaseError α} {write : α → Value}
    (hread : ∀ value found, read value = .ok found ↔ value = write found)
    (hwrite : ∀ found, write found ≠ .null) {found : Option α} :
    optional read value = .ok found ↔ value = ofOption write found := by
  by_cases hnull : value = .null
  · subst hnull
    cases found with
    | none => simp [optional, ofOption]
    | some found => simpa [optional, ofOption] using (hwrite found).symm
  · have hoptional : optional read value = (read value).map some := by
      cases value <;> first | rfl | exact absurd rfl hnull
    rw [hoptional]
    cases hresult : read value with
    | error cause =>
        have hnone : ∀ found, value ≠ write found := by
          intro found heq
          rw [(hread value found).mpr heq] at hresult
          cases hresult
        cases found with
        | none => simpa [Except.map, ofOption] using hnull
        | some found => simpa [Except.map, ofOption] using hnone found
    | ok other =>
        have hvalue := (hread value other).mp hresult
        cases found with
        | none => simpa [Except.map, ofOption] using hnull
        | some found =>
            simp only [Except.map, Except.ok.injEq, Option.some.injEq, ofOption]
            rw [← hread, hresult, Except.ok.injEq]

end Cell

def signatureWidth : Nat := Schema.signatures.columns.length

theorem cell_of_take {row : Row} {cells : List Value}
    (hcells : row.cells.take signatureWidth = cells)
    {index : Nat} (hindex : index < signatureWidth) : row.cell index = cells.getD index .null := by
  subst hcells
  simp [Row.cell, List.getD_eq_getElem?_getD, hindex]

theorem lt_length_of_cell {row : Row} {index : Nat} (hcell : row.cell index ≠ .null) :
    index < row.cells.length := by
  apply Classical.byContradiction
  intro hbound
  exact hcell (by simp [Row.cell, List.getD_eq_getElem?_getD, Nat.not_lt.mp hbound])

theorem take_eq_map_cell {row : Row} {width : Nat} (hwidth : width ≤ row.cells.length) :
    row.cells.take width = (List.range width).map row.cell := by
  apply List.ext_getElem
  · simp [hwidth]
  · intro index hleft hright
    have hindex : index < row.cells.length := by simp at hleft; omega
    simp [Row.cell, List.getD_eq_getElem?_getD, hindex]

/-- A row reads as a record if it is what the record is written as, and in no other case. -/
theorem readRecord_eq_ok_iff {row : Row} {record : Record} :
    readRecord row = .ok record ↔
      row.id = record.id ∧
        row.cells.take signatureWidth = signatureCells record.toDraft record.createdAt := by
  have hoctets {length index : Nat} {column : String} (value : Value)
      (found : Option (Octets length)) :
      Cell.optional (Cell.octets length index column) value = .ok found ↔
        value = Cell.ofOption (fun octets : Octets length => .blob octets.bytes) found :=
    Cell.optional_eq_ok_iff (fun _ _ => Cell.octets_eq_ok_iff) (by simp)
  have htext {index : Nat} {column : String} (value : Value) (found : Option String) :
      Cell.optional (Cell.text index column) value = .ok found ↔
        value = Cell.ofOption .text found :=
    Cell.optional_eq_ok_iff (fun _ _ => Cell.text_eq_ok_iff) (by simp)
  simp only [readRecord, bind_eq_ok_iff, hoctets, htext, Cell.text_eq_ok_iff,
    Cell.int64_eq_ok_iff, Cell.octets_eq_ok_iff, Cell.uint16_eq_ok_iff]
  constructor
  · rintro ⟨previous, hprevious, docId, hdocId, subject, hsubject, email, hemail, name, hname,
      signedAt, hsignedAt, checksum, hchecksum, payloadHash, hpayloadHash, signature, hsignature,
      nonce, hnonce, referer, hreferer, createdAt, hcreatedAt, version, hversion, hrecord⟩
    cases hrecord
    have hlast : row.cell 12 ≠ .null := by simp [hversion]
    have hwidth : signatureWidth ≤ row.cells.length := lt_length_of_cell hlast
    refine ⟨rfl, ?_⟩
    rw [take_eq_map_cell hwidth]
    simp only [signatureWidth, Schema.signatures, List.length_cons, List.length_nil, List.range,
      List.range.loop, List.map_cons, List.map_nil, hprevious, hdocId, hsubject, hemail, hname,
      hsignedAt, hchecksum, hpayloadHash, hsignature, hnonce, hreferer, hcreatedAt, hversion]
    rfl
  · rintro ⟨hid, hcells⟩
    have hcell {index : Nat} (hindex : index < signatureWidth) := cell_of_take hcells hindex
    refine ⟨_, hcell (by decide), _, hcell (by decide), _, hcell (by decide), _,
      hcell (by decide), _, hcell (by decide), _, hcell (by decide), _, hcell (by decide), _,
      hcell (by decide), _, hcell (by decide), _, hcell (by decide), _, hcell (by decide), _,
      hcell (by decide), _, hcell (by decide), ?_⟩
    rw [hid]
    rfl

end Signoff.Database
