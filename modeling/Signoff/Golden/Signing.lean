import Signoff.Record.Json
import Signoff.Signing

namespace Signoff

namespace Golden

/-! Statements with the key, message hash, signature and link that they must lead to. A change
of any format shows here before it reaches a stored record. -/

structure SigningVector where
  name : String
  key : Ed25519.SigningKey
  statement : Statement
  publicKey : String
  payloadHash : String
  signature : String
  genesisLink : String

namespace SigningVector

def seed (byte : UInt8) : Ed25519.SigningKey := ⟨.replicate 32 byte⟩

def withChecksum : SigningVector where
  name := "genesis with checksum"
  key := seed 0x42
  statement :=
    { docId := "handbook-2025"
      user := ⟨"user-alice", "alice@example.com", "Alice"⟩
      signedAt := 1736870400000
      nonce := .replicate 32 0x11
      checksum := some "b3b4e8714358cc79990c5c83391172e01c3e79a1b456d7e0c570cbf59da30e23" }
  publicKey := "2152f8d19b791d24453242e15f2eab6cb7cffa7b6a5ed30097960e069881db12"
  payloadHash := "d7b33c886a1e60a79c85c93efe6e9f49f4a0e19ecca134e3f7f8a777788984f0"
  signature := "87e73b056005f3c329eff6f581a062c696131a92f82bf77bbdb8e536c62757c0" ++
    "a4a4a969b75b1ffac1a3eae1d8706d1f4150bf890d8f38c7f329e7157392220f"
  genesisLink := "de162e0de9c66a7e2208b064f364f630b47b2244c3f0a3ca417e978778f80fa1"

def withoutChecksum : SigningVector where
  name := "no checksum bound"
  key := seed 0x42
  statement :=
    { docId := "handbook-2025"
      user := ⟨"user-bob", "bob@example.com", "Bob"⟩
      signedAt := 1736870401000
      nonce := .replicate 32 0x22
      checksum := none }
  publicKey := "2152f8d19b791d24453242e15f2eab6cb7cffa7b6a5ed30097960e069881db12"
  payloadHash := "199cce8b359f994bae3f8d3bfe4264999d2850912d9155e426e8a879367c88bc"
  signature := "f0ee4c6fe41e5f02a21c39e31090bf08c95c5e6cc7371e48f52388a8f57b9cde" ++
    "28306c0461e945d0404d577e5636c37785da53e12c308dbc9f8a32a35ab4200f"
  genesisLink := "0ae9e36eccb5d80c2af25adfd37a97a27f87553c8dc0dd776845a048e27e14f8"

def allZero : SigningVector where
  name := "zero seed, epoch, empty checksum"
  key := seed 0
  statement :=
    { docId := "d"
      user := ⟨"s", "a@b", ""⟩
      signedAt := 0
      nonce := .replicate 32 0
      checksum := some "" }
  publicKey := "3b6a27bcceb6a42d62a3a8d02a6f0d73653215771de243a63ac048a18b59da29"
  payloadHash := "9c9f914a803d92d04ea1eebe2754df0c11660fe9da06f1bbd3eb68ebfd27d0ec"
  signature := "aa13b97dc6ff6355c376c48faffa5ea0e24f45c8a483ae43f4d9ddd2ac3ae2f8" ++
    "b79e5ae93b9f53482028a4acc2165425cd0349016844ef54ba13722c313b4c06"
  genesisLink := "0e966a01abb904d008dd8759a84552c55a9219e84c3efaaf75dba568e720bbec"

end SigningVector

def signingVectors : List SigningVector := [.withChecksum, .withoutChecksum, .allZero]

/-- The link hash of the second statement's record when it follows the record of the first,
which is of the same document. -/
def chainedLink : String := "47e3e785d6626c5ed23e16449767fbb472a01165e27dafc29d15e437b2e59e96"

end Golden

def Ed25519.SigningKey.firstRecord (key : SigningKey) (statement : Statement)
    (previous : Option Digest) : Record :=
  (statement.draft (key.signStatement statement) none previous).stored 1 statement.signedAt

namespace Golden.SigningVector

def record (vector : SigningVector) (previous : Option Digest) : Record :=
  vector.key.firstRecord vector.statement previous

def holds (vector : SigningVector) : Bool :=
  let record := vector.record none
  record.payloadHash.hex == vector.payloadHash && record.signature.hex == vector.signature &&
    vector.key.publicKey.hex == vector.publicKey && record.linkHash.hex == vector.genesisLink

def toJson (vector : SigningVector) : Json :=
  let statement := vector.statement
  .object [
    ("name", .text vector.name),
    ("seed", .ofOctets vector.key.seed),
    ("doc_id", .text statement.docId),
    ("user", statement.user.toJson),
    ("signed_at", .ofInt64 statement.signedAt),
    ("nonce", .ofOctets statement.nonce),
    ("doc_checksum", .ofOption .text statement.checksum),
    ("public_key", .text vector.publicKey),
    ("payload_hash", .text vector.payloadHash),
    ("signature", .text vector.signature),
    ("genesis_link", .text vector.genesisLink)]

end Golden.SigningVector

def Golden.export : Json :=
  .object [
    ("signing", .array (signingVectors.map SigningVector.toJson)),
    ("chained_link", .text chainedLink)]

end Signoff
