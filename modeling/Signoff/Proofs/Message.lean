import Signoff.Message
import Signoff.Proofs.Cbor.Framing

namespace Signoff

/-! Messages tell the fields that they are made of. -/

namespace Message

open Cbor

def body : Nat → List Cbor → List UInt8
  | _, [] => []
  | index, field :: rest => UInt8.ofNat index :: (field.encode ++ body (index + 1) rest)

theorem encode_key {index : Nat} (hindex : index < 24) :
    (Cbor.integer index).encode = [UInt8.ofNat index] := by
  have hnonneg : (0 : Int) ≤ index := Int.natCast_nonneg index
  simp [encode, encodeInteger, head, hnonneg, hindex]

theorem encodeEntries_eq {index : Nat} {fields : List Cbor} (hcount : index + fields.length ≤ 24) :
    encodeEntries ((fields.zipIdx index).map fun field => (.integer field.2, field.1)) =
      (fields.zipIdx index).map fun field => ([UInt8.ofNat field.2], field.1.encode) := by
  induction fields generalizing index with
  | nil => simp [encodeEntries]
  | cons field rest ih =>
      have hindex : index < 24 := by simp at hcount; omega
      have hrest : index + 1 + rest.length ≤ 24 := by simp at hcount; omega
      simp [encodeEntries, encode_key hindex, ih hrest]

theorem body_eq (index : Nat) (fields : List Cbor) :
    body index fields =
      ((fields.zipIdx index).map fun field => ([UInt8.ofNat field.2], field.1.encode)).flatMap
        fun entry => entry.1 ++ entry.2 := by
  induction fields generalizing index with
  | nil => rfl
  | cons field rest ih => simp [body, ih]

/-- Keys in the order of their fields are in the order of their bytes. -/
theorem sortEntries_eq {fields : List Cbor} (hcount : fields.length ≤ 24) :
    sortEntries (fields.zipIdx.map fun field => ([UInt8.ofNat field.2], field.1.encode)) =
      fields.zipIdx.map fun field => ([UInt8.ofNat field.2], field.1.encode) := by
  apply List.mergeSort_of_pairwise
  rw [List.pairwise_map, List.pairwise_iff_getElem]
  intro left right hleft hright hlt
  simp only [List.length_zipIdx] at hleft hright
  have hvalue : UInt8.ofNat left ≤ UInt8.ofNat right := by
    rw [UInt8.le_iff_toNat_le, UInt8.toNat_ofNat', UInt8.toNat_ofNat']
    omega
  simpa [keyBefore, List.cons_le_cons_iff] using UInt8.lt_or_eq_of_le hvalue

theorem encode_ofFields {fields : List Cbor} (hcount : fields.length ≤ 24) :
    (ofFields fields).encode = head 5 fields.length ++ body 0 fields := by
  have hzero : 0 + fields.length ≤ 24 := by omega
  rw [ofFields, encode, encodeEntries_eq hzero, sortEntries_eq hcount, body_eq]
  simp

theorem body_append_inj {index : Nat} {left right : List Cbor} {back rest : List UInt8}
    (hleft : ∀ field ∈ left, field.Framed) (hright : ∀ field ∈ right, field.Framed)
    (hlength : left.length = right.length)
    (hbytes : body index left ++ back = body index right ++ rest) : left = right ∧ back = rest := by
  induction left generalizing index right with
  | nil =>
      cases right with
      | nil => exact ⟨rfl, hbytes⟩
      | cons field others => simp at hlength
  | cons field others ih =>
      cases right with
      | nil => simp at hlength
      | cons field' others' =>
          simp only [body, List.cons_append, List.append_assoc, List.cons.injEq] at hbytes
          obtain ⟨rfl, htail⟩ := (hleft field (by simp)).encode_append_inj (hright field' (by simp))
            hbytes.2
          obtain ⟨rfl, hrest⟩ := ih (fun other hother => hleft other (by simp [hother]))
            (fun other hother => hright other (by simp [hother])) (by simpa using hlength) htail
          exact ⟨rfl, hrest⟩

theorem ofFields_append_inj {left right : List Cbor} {back rest : List UInt8}
    (hleft : ∀ field ∈ left, field.Framed) (hright : ∀ field ∈ right, field.Framed)
    (hcountLeft : left.length ≤ 24) (hcountRight : right.length ≤ 24)
    (hbytes : (ofFields left).encode ++ back = (ofFields right).encode ++ rest) :
    left = right ∧ back = rest := by
  rw [encode_ofFields hcountLeft, encode_ofFields hcountRight, List.append_assoc,
    List.append_assoc] at hbytes
  have hbound {count : Nat} (hcount : count ≤ 24) : count < Bytes.capacity 8 :=
    Nat.lt_of_le_of_lt hcount (by decide)
  obtain ⟨_, hlength, htail⟩ := head_append_inj (by decide) (by decide) (hbound hcountLeft)
    (hbound hcountRight) hbytes
  exact body_append_inj hleft hright hlength htail

theorem framed_ofInt64 (value : Int64) : (Cbor.integer value.toInt).Framed := by
  have hlow := Int64.le_toInt value
  have hhigh := Int64.toInt_lt value
  simp only [Framed, number, Bytes.capacity_eight]
  split <;> omega

theorem framed_ofOctets {length : Nat} (octets : Octets length)
    (hlength : length < Bytes.capacity 8) : (ofOctets octets).Framed := by
  rw [← octets.length_bytes] at hlength
  exact hlength

theorem framed_ofOption {α : Type} {write : α → Cbor} (value : Option α)
    (hwrite : ∀ found ∈ value, (write found).Framed) : (ofOption write value).Framed := by
  cases value with
  | none => simp [ofOption, Framed, number, Bytes.capacity_eight]
  | some found => exact hwrite found rfl

theorem ofOctets_inj {length : Nat} {left right : Octets length} :
    ofOctets left = ofOctets right ↔ left = right := by
  simp [ofOctets, Octets.ext_iff]

theorem ofOption_inj {α : Type} {write : α → Cbor} {left right : Option α}
    (hnull : ∀ found, write found ≠ .null) (hwrite : ∀ found other, write found = write other →
      found = other) : ofOption write left = ofOption write right ↔ left = right := by
  constructor
  · intro heq
    cases left with
    | none =>
        cases right with
        | none => rfl
        | some other => exact absurd heq.symm (hnull other)
    | some found =>
        cases right with
        | none => exact absurd heq (hnull found)
        | some other => rw [hwrite found other heq]
  · rintro rfl
    rfl

end Message

structure LinkFields where
  docId : String
  subject : String
  email : String
  signedAt : Int64
  payloadHash : Digest
  signature : SignatureBytes
  nonce : Nonce
  previous : Option Digest
deriving DecidableEq

namespace Draft

def linkFields (draft : Draft) : LinkFields where
  docId := draft.docId
  subject := draft.user.subject
  email := draft.user.email
  signedAt := draft.signedAt
  payloadHash := draft.payloadHash
  signature := draft.signature
  nonce := draft.nonce
  previous := draft.previous

structure Sized (draft : Draft) : Prop where
  docId : (Text.bytes draft.docId).length < Bytes.capacity 8
  subject : (Text.bytes draft.user.subject).length < Bytes.capacity 8
  email : (Text.bytes draft.user.email).length < Bytes.capacity 8

theorem framed_linkPayload {draft : Draft} (hsized : draft.Sized) : ∀ field ∈ [
    Cbor.text draft.docId, .text draft.user.subject, .text draft.user.email,
    .integer draft.signedAt.toInt, Message.ofOctets draft.payloadHash,
    Message.ofOctets draft.signature, Message.ofOctets draft.nonce,
    Message.ofOption Message.ofOctets draft.previous], field.Framed := by
  have hoctets {length : Nat} (octets : Octets length) (hlength : length ≤ 64) :=
    Message.framed_ofOctets octets (Nat.lt_of_le_of_lt hlength (by decide))
  simp only [List.mem_cons, List.not_mem_nil, or_false, forall_eq_or_imp, forall_eq]
  exact ⟨hsized.docId, hsized.subject, hsized.email, Message.framed_ofInt64 _,
    hoctets _ (by decide), hoctets _ (by decide), hoctets _ (by decide),
    Message.framed_ofOption _ fun octets _ => hoctets octets (by decide)⟩

theorem linkMessage_append_inj {left right : Draft} {back rest : List UInt8}
    (hleft : left.Sized) (hright : right.Sized)
    (hbytes : left.linkMessage ++ back = right.linkMessage ++ rest) :
    left.linkFields = right.linkFields ∧ back = rest := by
  simp only [linkMessage, List.append_assoc] at hbytes
  obtain ⟨hfields, hrest⟩ := Message.ofFields_append_inj (framed_linkPayload hleft)
    (framed_linkPayload hright) (by simp) (by simp) (List.append_cancel_left hbytes)
  have hprevious : Message.ofOption Message.ofOctets left.previous =
      Message.ofOption Message.ofOctets right.previous ↔ left.previous = right.previous :=
    Message.ofOption_inj (by simp [Message.ofOctets]) fun _ _ => Message.ofOctets_inj.mp
  simp only [List.cons.injEq, Cbor.text.injEq, Cbor.integer.injEq, Int64.toInt_inj,
    Message.ofOctets_inj, hprevious, and_true] at hfields
  obtain ⟨hdoc, hsubject, hemail, hsigned, hhash, hsignature, hnonce, hprevious⟩ := hfields
  refine ⟨?_, hrest⟩
  simp only [linkFields, hdoc, hsubject, hemail, hsigned, hhash, hsignature, hnonce, hprevious]

theorem linkMessage_congr {left right : Draft} (hfields : left.linkFields = right.linkFields) :
    left.linkMessage = right.linkMessage := by
  simp only [linkFields, LinkFields.mk.injEq] at hfields
  obtain ⟨hdoc, hsubject, hemail, hsigned, hhash, hsignature, hnonce, hprevious⟩ := hfields
  simp only [linkMessage, linkPayload, hdoc, hsubject, hemail, hsigned, hhash, hsignature,
    hnonce, hprevious]

/-- Two records have one link message exactly if they agree in all that a link vouches for. -/
theorem linkMessage_inj {left right : Draft} (hleft : left.Sized) (hright : right.Sized) :
    left.linkMessage = right.linkMessage ↔ left.linkFields = right.linkFields := by
  constructor
  · intro hmessage
    exact (linkMessage_append_inj hleft hright (congrArg (· ++ []) hmessage)).1
  · exact linkMessage_congr

end Draft

namespace Statement

structure Sized (statement : Statement) : Prop where
  docId : (Text.bytes statement.docId).length < Bytes.capacity 8
  subject : (Text.bytes statement.user.subject).length < Bytes.capacity 8
  email : (Text.bytes statement.user.email).length < Bytes.capacity 8
  name : (Text.bytes statement.user.name).length < Bytes.capacity 8
  checksum : ∀ text ∈ statement.checksum, (Text.bytes text).length < Bytes.capacity 8

theorem framed_payload {statement : Statement} (hsized : statement.Sized) : ∀ field ∈ [
    Cbor.text statement.docId, .text statement.user.subject, .text statement.user.email,
    .text statement.user.name, .integer statement.signedAt.toInt,
    Message.ofOctets statement.nonce, Message.ofOption .text statement.checksum],
    field.Framed := by
  simp only [List.mem_cons, List.not_mem_nil, or_false, forall_eq_or_imp, forall_eq]
  exact ⟨hsized.docId, hsized.subject, hsized.email, hsized.name, Message.framed_ofInt64 _,
    Message.framed_ofOctets _ (by decide), Message.framed_ofOption _ hsized.checksum⟩

theorem message_append_inj {left right : Statement} {back rest : List UInt8}
    (hleft : left.Sized) (hright : right.Sized)
    (hbytes : left.message ++ back = right.message ++ rest) : left = right ∧ back = rest := by
  simp only [message, List.append_assoc] at hbytes
  obtain ⟨hfields, hrest⟩ := Message.ofFields_append_inj (framed_payload hleft)
    (framed_payload hright) (by simp) (by simp) (List.append_cancel_left hbytes)
  have hchecksum : Message.ofOption Cbor.text left.checksum =
      Message.ofOption Cbor.text right.checksum ↔ left.checksum = right.checksum :=
    Message.ofOption_inj (by simp) (by simp)
  simp only [List.cons.injEq, Cbor.text.injEq, Cbor.integer.injEq, Int64.toInt_inj,
    Message.ofOctets_inj, hchecksum, and_true] at hfields
  obtain ⟨hdoc, hsubject, hemail, hname, hsigned, hnonce, hchecksum⟩ := hfields
  refine ⟨?_, hrest⟩
  obtain ⟨docId, ⟨subject, email, name⟩, signedAt, nonce, checksum⟩ := left
  simp only at hdoc hsubject hemail hname hsigned hnonce hchecksum
  simp only [hdoc, hsubject, hemail, hname, hsigned, hnonce, hchecksum]

end Statement

end Signoff
