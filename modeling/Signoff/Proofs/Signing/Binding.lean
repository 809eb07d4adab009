import Signoff.Golden.Signing
import Signoff.Proofs.Except
import Signoff.Proofs.Message

namespace Signoff

/-! What a payload hash binds. Links vouch neither for names nor for checksums; a record whose
payload hash is checked is bound to its whole statement. -/

namespace Statement

/-- Two statements whose messages differ and have the same hash. -/
def Collides (left right : Statement) : Prop :=
  left.message ≠ right.message ∧ sha256 left.message = sha256 right.message

theorem message_eq (statement : Statement) :
    statement.message = Text.bytes domain ++ (Cbor.head 5 7 ++ Message.body 0 [
      .text statement.docId, .text statement.user.subject, .text statement.user.email,
      .text statement.user.name, .integer statement.signedAt.toInt,
      Message.ofOctets statement.nonce, Message.ofOption .text statement.checksum]) := by
  rw [message, payload, Message.encode_ofFields (by simp)]
  rfl

theorem eq_or_collides {left right : Statement} (hleft : left.Sized) (hright : right.Sized)
    (hhash : left.hash = right.hash) : left = right ∨ left.Collides right := by
  by_cases hmessage : left.message = right.message
  · exact .inl (message_append_inj hleft hright (congrArg (· ++ []) hmessage)).1
  · exact .inr ⟨hmessage, hhash⟩

end Statement

theorem PublicKey.verify_ne_mismatch (key : PublicKey) (message : List UInt8)
    (signature : SignatureBytes) (stored computed : Digest) :
    key.verify message signature ≠ .error (.payloadMismatch stored computed) := by
  intro hverify
  obtain ⟨cause, _, hcause⟩ := mapError_eq_error_iff.mp hverify
  cases cause <;> cases hcause

namespace Draft

variable {draft : Draft} {key : PublicKey}

def Mismatched (draft : Draft) (key : PublicKey) : Prop :=
  ∃ stored computed, draft.verify key = .error (.payloadMismatch stored computed)

theorem verify_of_hash_ne (hhash : draft.statement.hash ≠ draft.payloadHash) :
    draft.verify key = .error (.payloadMismatch draft.payloadHash draft.statement.hash) := by
  simp only [verify, if_neg hhash]

/-- The key has no part in whether the payload hash is found to be of something else. -/
theorem not_mismatched_iff : ¬ draft.Mismatched key ↔ draft.statement.hash = draft.payloadHash := by
  constructor
  · intro hmatched
    apply Classical.byContradiction
    intro hhash
    exact hmatched ⟨_, _, verify_of_hash_ne hhash⟩
  · rintro hhash ⟨stored, computed, hverify⟩
    simp only [verify, if_pos hhash] at hverify
    exact key.verify_ne_mismatch _ _ stored computed hverify

theorem hash_eq_of_verify (hverify : draft.verify key = .ok ()) :
    draft.statement.hash = draft.payloadHash := by
  apply not_mismatched_iff.mp
  rintro ⟨stored, computed, hmismatch⟩
  rw [hverify] at hmismatch
  cases hmismatch

end Draft

namespace Record

/-- Two records with one payload hash, neither of them found to mismatch it, have one statement, or
their messages collide. So an edit of the statement shows in every check, whatever else is edited
and whoever's key is asked, and an edit of anything that is neither signed nor a part of the
signature shows in none. -/
theorem payloadHash_binds {record edited : Record} (hrecord : record.statement.Sized)
    (hedited : edited.statement.Sized) (hhash : record.payloadHash = edited.payloadHash) :
    (∀ key other, ¬ record.Mismatched key → ¬ edited.Mismatched other →
      record.statement = edited.statement ∨ record.statement.Collides edited.statement) ∧
    (∀ key other, record.verify key = .ok () → record.statement ≠ edited.statement →
      edited.verify other = .error (.payloadMismatch record.payloadHash edited.statement.hash) ∨
        record.statement.Collides edited.statement) ∧
    ∀ (key : PublicKey) (id createdAt : Int64) (previous : Option Digest) (referer : Option String)
      (version : UInt16),
      { record with id, createdAt, previous, referer, version : Record }.verify key =
        record.verify key := by
  refine ⟨?_, ?_, ?_⟩
  · intro key other hmatched hmatchedEdited
    rw [Draft.not_mismatched_iff] at hmatched hmatchedEdited
    exact Statement.eq_or_collides hrecord hedited (by rw [hmatched, hhash, hmatchedEdited])
  · intro key other hverify hdiffer
    have hmatched := Draft.hash_eq_of_verify hverify
    by_cases hsame : edited.statement.hash = edited.payloadHash
    · have hhashes : record.statement.hash = edited.statement.hash := by
        rw [hmatched, hhash, hsame]
      exact .inr ((Statement.eq_or_collides hrecord hedited hhashes).resolve_left hdiffer)
    · rw [hhash]
      exact .inl (Draft.verify_of_hash_ne hsame)
  · intro key id createdAt previous referer version
    rfl

def zeroRecord : Record :=
  let vector := Golden.SigningVector.allZero
  let signature := (Hex.decode 64 vector.signature).toOption.getD (.replicate 64 0)
  (vector.statement.draft ⟨vector.statement.hash, signature⟩ none none).stored 1 0

def zeroKey : PublicKey :=
  (Hex.decode 32 Golden.SigningVector.allZero.publicKey).toOption.getD (.replicate 32 0)

def renamedRecord : Record :=
  { zeroRecord with user := { zeroRecord.user with name := "S" }, checksum := none }

theorem verify_zeroRecord : zeroRecord.verify zeroKey = .ok () := by
  have hverify :
      (zeroKey.verify zeroRecord.statement.message zeroRecord.signature).isOk = true := by
    rw [Statement.message_eq]
    decide +kernel
  have hhash : zeroRecord.statement.hash = zeroRecord.payloadHash := rfl
  simp only [Draft.verify, if_pos hhash]
  cases hresult : zeroKey.verify zeroRecord.statement.message zeroRecord.signature with
  | ok => rfl
  | error cause =>
      rw [hresult] at hverify
      cases hverify

theorem payloadHash_binds_renamed :
    zeroRecord.statement.Sized ∧ renamedRecord.statement.Sized ∧
      zeroRecord.payloadHash = renamedRecord.payloadHash ∧
      zeroRecord.verify zeroKey = .ok () ∧ zeroRecord.statement ≠ renamedRecord.statement ∧
      renamedRecord.verify zeroKey =
        .error (.payloadMismatch zeroRecord.payloadHash renamedRecord.statement.hash) := by
  have htext {text : String} (hsize : text.utf8ByteSize < Bytes.capacity 8) :
      (Text.bytes text).length < Bytes.capacity 8 := by
    rwa [Text.length_bytes]
  have hsized : zeroRecord.statement.Sized := by
    refine ⟨htext (by decide), htext (by decide), htext (by decide), htext (by decide), ?_⟩
    intro text hmem
    cases hmem
    exact htext (by decide)
  have hsizedRenamed : renamedRecord.statement.Sized :=
    ⟨htext (by decide), htext (by decide), htext (by decide), htext (by decide), nofun⟩
  have hdiffer : zeroRecord.statement ≠ renamedRecord.statement := by decide +kernel
  have hhash : sha256 zeroRecord.statement.message ≠ sha256 renamedRecord.statement.message := by
    rw [Statement.message_eq, Statement.message_eq]
    decide +kernel
  obtain ⟨_, hedit, _⟩ := payloadHash_binds hsized hsizedRenamed rfl
  refine ⟨hsized, hsizedRenamed, rfl, verify_zeroRecord, hdiffer, ?_⟩
  rcases hedit zeroKey zeroKey verify_zeroRecord hdiffer with hmismatch | ⟨_, hcollision⟩
  · exact hmismatch
  · exact absurd hcollision hhash

end Record

end Signoff
