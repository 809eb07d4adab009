import Signoff.Signing

namespace Signoff.Diagnostic

/-! Abridged forms for logs: enough to recognise a value, and never a secret. -/

def nonce (nonce : Nonce) : String := "Nonce(" ++ nonce.abridged 4 ++ ")"

def digest (digest : Digest) : String := "Sha256Hash(" ++ digest.abridged 6 ++ ")"

def publicKey (key : PublicKey) : String := "Ed25519PublicKey(" ++ key.abridged 6 ++ ")"

def signature (signature : SignatureBytes) : String :=
  "Ed25519Signature(" ++ signature.abridged 6 ++ ")"

def recordId (id : Int64) : String := "SignatureId(" ++ toString id.toInt ++ ")"

def keypair (key : Ed25519.SigningKey) : String :=
  "Keypair(" ++ publicKey key.publicKey ++ ")"

def signer (key : Ed25519.SigningKey) : String :=
  "Ed25519Signer \x7b keypair: " ++ keypair key ++ " \x7d"

def signedStatement (signed : SignedStatement) : String :=
  "SignedPayload \x7b payload_hash: " ++ digest signed.payloadHash ++ ", signature: " ++
    signature signed.signature ++ " \x7d"

end Signoff.Diagnostic
