import Signoff.Sha2
import Signoff.Ed25519.Point

namespace Signoff.Ed25519

/-! Signing and verification by RFC 8032. Verification is cofactorless: the first half of a
signature must be the very encoding of the point it is computed to be. -/

def order : Nat := (1 <<< 252) + 27742317777372353535851937790883648493

def hashScalar (message : List UInt8) : Nat :=
  Bytes.ofLittleEndian (sha512 message).bytes % order

structure SigningKey where
  seed : Octets 32
deriving DecidableEq

namespace SigningKey

def expanded (key : SigningKey) : List UInt8 := (sha512 key.seed.bytes).bytes

/-- The lower half of the expanded seed with its three low bits and highest bit cleared and
the bit below that set. -/
def scalar (key : SigningKey) : Nat :=
  let value := Bytes.ofLittleEndian (key.expanded.take 32)
  value % (1 <<< 254) / 8 * 8 + 1 <<< 254

def publicKey (key : SigningKey) : PublicKey :=
  (Point.multiply key.scalar Point.base).encode

def sign (key : SigningKey) (message : List UInt8) : SignatureBytes :=
  let secret := hashScalar (key.expanded.drop 32 ++ message)
  let commitment := (Point.multiply secret Point.base).encode
  let challenge := hashScalar (commitment.bytes ++ key.publicKey.bytes ++ message)
  let response := (secret + challenge * key.scalar) % order
  commitment.append (Octets.littleEndian 32 response)

end SigningKey

inductive VerifyError where
  | badPublicKey
  | badSignature
deriving DecidableEq, Repr

def verify (key : PublicKey) (message : List UInt8) (signature : SignatureBytes) :
    Except VerifyError Unit :=
  match Point.decode? key with
  | none => .error .badPublicKey
  | some point =>
    let commitment := signature.bytes.take 32
    let response := Bytes.ofLittleEndian (signature.bytes.drop 32)
    let challenge := hashScalar (commitment ++ key.bytes ++ message)
    let expected := Point.add Point.coefficient (Point.multiply response Point.base)
      (Point.multiply challenge point.negate)
    if response < order ∧ expected.encode.bytes = commitment then .ok ()
    else .error .badSignature

end Signoff.Ed25519
