import Signoff.Ed25519.Signature
import Signoff.Hex
import Signoff.Message

namespace Signoff

inductive CryptoError where
  | badSignature
  | badPublicKey
  | payloadMismatch (stored computed : Digest)
  | nonceSource (cause : String)
  | signer (cause : String)
deriving DecidableEq

def CryptoError.message : CryptoError → String
  | .badSignature => "invalid signature"
  | .badPublicKey => "invalid public key"
  | .payloadMismatch stored computed =>
    "payload hash mismatch: expected " ++ stored.hex ++ ", got " ++ computed.hex
  | .nonceSource cause => "nonce generation failed: " ++ cause
  | .signer cause => "signing failed: " ++ cause

def CryptoError.ofVerifyError : Ed25519.VerifyError → CryptoError
  | .badPublicKey => .badPublicKey
  | .badSignature => .badSignature

structure SignedStatement where
  payloadHash : Digest
  signature : SignatureBytes
deriving DecidableEq

/-- Whatever holds the private key. A signer may fail, as a remote one does. -/
structure Signer where
  publicKey : PublicKey
  sign : Statement → Except CryptoError SignedStatement

namespace Ed25519.SigningKey

def signStatement (key : SigningKey) (statement : Statement) : SignedStatement where
  payloadHash := statement.hash
  signature := key.sign statement.message

def signer (key : SigningKey) : Signer where
  publicKey := key.publicKey
  sign := fun statement => .ok (key.signStatement statement)

end Ed25519.SigningKey

abbrev NonceSource := Except String Nonce

def drawNonce (source : NonceSource) : Except CryptoError Nonce :=
  source.mapError .nonceSource

namespace PublicKey

def verify (key : PublicKey) (message : List UInt8) (signature : SignatureBytes) :
    Except CryptoError Unit :=
  (Ed25519.verify key message signature).mapError .ofVerifyError

end PublicKey

namespace Statement

def draft (statement : Statement) (signed : SignedStatement) (referer : Option String)
    (previous : Option Digest) : Draft where
  docId := statement.docId
  user := statement.user
  signedAt := statement.signedAt
  checksum := statement.checksum
  payloadHash := signed.payloadHash
  signature := signed.signature
  nonce := statement.nonce
  referer := referer
  previous := previous
  version := Draft.currentVersion

@[simp] theorem statement_draft (statement : Statement) (signed : SignedStatement)
    (referer : Option String) (previous : Option Digest) :
    (statement.draft signed referer previous).statement = statement := rfl

end Statement

namespace Draft

/-- Recomputes the signed message; the stored hash is compared before the signature. -/
def verify (draft : Draft) (key : PublicKey) : Except CryptoError Unit :=
  let statement := draft.statement
  if statement.hash = draft.payloadHash then
    PublicKey.verify key statement.message draft.signature
  else
    .error (.payloadMismatch draft.payloadHash statement.hash)

end Draft

end Signoff
