import Signoff.Proofs.Chain.Links
import Signoff.Proofs.Message

namespace Signoff

/-! No message begins another. So what follows a message never changes what it says, and a
signature over one message stands for one statement and for no link. -/

namespace Message

theorem domain_ne :
    (Text.bytes Statement.domain).take 10 ≠ (Text.bytes Draft.linkDomain).take 10 := by
  rw [Text.bytes_eq, Text.bytes_eq]
  decide

/-- The domains part before either of them ends. -/
theorem append_domain_ne (left right : List UInt8) :
    Text.bytes Statement.domain ++ left ≠ Text.bytes Draft.linkDomain ++ right := by
  intro hbytes
  have hlength : 10 ≤ (Text.bytes Statement.domain).length := by
    rw [Text.bytes_eq]
    decide
  have hlengthLink : 10 ≤ (Text.bytes Draft.linkDomain).length := by
    rw [Text.bytes_eq]
    decide
  have htake := congrArg (List.take 10) hbytes
  rw [List.take_append_of_le_length hlength, List.take_append_of_le_length hlengthLink] at htake
  exact domain_ne htake

end Message

namespace Statement

theorem not_prefix_linkMessage (statement : Statement) (draft : Draft) :
    ¬ statement.message <+: draft.linkMessage := by
  rintro ⟨tail, htail⟩
  rw [message, Draft.linkMessage, List.append_assoc] at htail
  exact Message.append_domain_ne _ _ htail

theorem not_linkMessage_prefix (statement : Statement) (draft : Draft) :
    ¬ draft.linkMessage <+: statement.message := by
  rintro ⟨tail, htail⟩
  rw [message, Draft.linkMessage, List.append_assoc] at htail
  exact Message.append_domain_ne _ _ htail.symm

/-- The message of one statement begins that of another only if they are the same statement, with
a checksum that is absent different from any that is there. No message of a statement begins a
link or is begun by one. -/
theorem message_decodable :
    (∀ left right : Statement, left.Sized → right.Sized →
      (left.message <+: right.message ↔ left = right)) ∧
    ∀ (statement : Statement) (record : Record),
      ¬ statement.message <+: record.linkMessage ∧ ¬ record.linkMessage <+: statement.message := by
  constructor
  · intro left right hleft hright
    constructor
    · rintro ⟨tail, htail⟩
      have hbytes : left.message ++ tail = right.message ++ [] := by rw [htail, List.append_nil]
      exact (message_append_inj hleft hright hbytes).1
    · rintro rfl
      exact List.prefix_rfl
  · intro statement record
    exact ⟨statement.not_prefix_linkMessage _, statement.not_linkMessage_prefix _⟩

def earliest (checksum : Option String) : Statement where
  docId := "twenty-three-characters"
  user := ⟨"alice", "alice@example.com", "Alice"⟩
  signedAt := Int64.minValue
  nonce := .replicate 32 7
  checksum := checksum

theorem message_decodable_empty :
    (earliest none).Sized ∧ (earliest (some "")).Sized ∧
      ((earliest none).message <+: (earliest (some "")).message ↔
        earliest none = earliest (some "")) ∧
      ¬ (earliest none).message <+: (earliest (some "")).message := by
  have hsized (checksum : Option String) (hchecksum : ∀ text ∈ checksum, text = "") :
      (earliest checksum).Sized := by
    constructor
    case checksum =>
      intro text htext
      rw [hchecksum text htext, Text.length_bytes]
      decide
    all_goals
      rw [Text.length_bytes]
      simp only [earliest]
      decide
  have hnone : (earliest none).Sized := hsized none (by simp)
  have hempty : (earliest (some "")).Sized := hsized (some "") (by simp)
  have hiff := message_decodable.1 _ _ hnone hempty
  refine ⟨hnone, hempty, hiff, ?_⟩
  rw [hiff]
  decide

end Statement

namespace Record

/-- The link message of a record tells what a link vouches for and nothing else of it, and no link
message begins another. -/
theorem linkMessage_covers {left right : Record} (hleft : left.Sized) (hright : right.Sized) :
    (left.linkMessage = right.linkMessage ↔ left.linkFields = right.linkFields) ∧
    (left.linkMessage <+: right.linkMessage ↔ left.linkMessage = right.linkMessage) ∧
    (left.previous = none → right.previous ≠ none → left.linkMessage ≠ right.linkMessage) ∧
    ∀ (id createdAt : Int64) (name : String) (checksum referer : Option String) (version : UInt16),
      { left with
        id, createdAt, checksum, referer, version
        user := { left.user with name } : Record }.linkMessage = left.linkMessage := by
  refine ⟨Draft.linkMessage_inj hleft hright, ⟨?_, fun hsame => hsame ▸ List.prefix_rfl⟩, ?_, ?_⟩
  · rintro ⟨tail, htail⟩
    have hbytes : left.linkMessage ++ tail = right.linkMessage ++ [] := by
      rw [htail, List.append_nil]
    exact Draft.linkMessage_congr (Draft.linkMessage_append_inj hleft hright hbytes).1
  · intro hgenesis hlinked hmessage
    have hprevious : left.previous = right.previous :=
      congrArg LinkFields.previous ((Draft.linkMessage_inj hleft hright).mp hmessage)
    exact hlinked (hprevious ▸ hgenesis)
  · intro id createdAt name checksum referer version
    rfl

theorem linkMessage_covers_genesis :
    let first := Chain.handbookRecord 1 "alice" "Alice" none
    let later := Chain.handbookRecord 1 "alice" "Alice" (some (.replicate 32 0))
    first.Sized ∧ later.Sized ∧ first.previous = none ∧ later.previous ≠ none ∧
      first.linkMessage ≠ later.linkMessage ∧ ¬ first.linkMessage <+: later.linkMessage := by
  intro first later
  have hsized (previous : Option Digest) :
      (Chain.handbookRecord 1 "alice" "Alice" previous).Sized := by
    constructor
    all_goals
      rw [Text.length_bytes]
      simp only [Chain.handbookRecord]
      decide
  have hlinked : later.previous ≠ none := by simp [later, Chain.handbookRecord]
  obtain ⟨_, hprefix, hgenesis, _⟩ := linkMessage_covers (hsized none) (hsized _)
  have hdiffer : first.linkMessage ≠ later.linkMessage := hgenesis rfl hlinked
  exact ⟨hsized none, hsized _, rfl, hlinked, hdiffer, mt hprefix.mp hdiffer⟩

end Record

end Signoff
