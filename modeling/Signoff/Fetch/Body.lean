import Signoff.Fetch.Error
import Signoff.Hex
import Signoff.Network.Response
import Signoff.Sha2.Stream

namespace Signoff

inductive Hasher where
  | sha256 (stream : Sha2.Stream 32)
  | sha512 (stream : Sha2.Stream 64)

namespace Hasher

def ofAlgorithm? : Algorithm → Option Hasher
  | .sha256 => some (sha256 (.empty Sha2.variant256))
  | .sha512 => some (sha512 (.empty Sha2.variant512))
  | .md5 => none

def absorb (hasher : Hasher) (piece : List UInt8) : Hasher :=
  match hasher with
  | sha256 stream => sha256 (stream.absorb Sha2.variant256 piece)
  | sha512 stream => sha512 (stream.absorb Sha2.variant512 piece)

def digest : Hasher → String
  | sha256 stream => (stream.finish Sha2.variant256).octets.hex
  | sha512 stream => (stream.finish Sha2.variant512).octets.hex

end Hasher

namespace Fetch

/-- Hashes pieces until they exceed the limit. A piece is counted before it is hashed. -/
def absorbAll (limit : UInt64) : (received : Nat) → Hasher → List (List UInt8) →
    Except FetchError Unit × Hasher
  | _, hasher, [] => (.ok (), hasher)
  | received, hasher, piece :: rest =>
    let received := received + piece.length
    if limit.toNat < received then (.error (.tooLarge limit), hasher)
    else absorbAll limit received (hasher.absorb piece) rest

/-- The digest of a body that arrives in full, and what the hasher has come to by the end of it,
be it with a digest or without. -/
def digestArrival (options : FetchOptions) (hasher : Hasher) (arrival : Arrival) :
    Except FetchError String × Hasher :=
  match absorbAll options.maxBytes 0 hasher arrival.chunks with
  | (.error cause, hasher) => (.error cause, hasher)
  | (.ok (), hasher) =>
    match arrival.ending with
    | .finished => (.ok hasher.digest, hasher)
    | .cut => (.error .network, hasher)
    | .stalled => (.error (.timeout options.timeout), hasher)

def digestResponse (options : FetchOptions) (response : Response) :
    Except FetchError String := do
  let contentType := response.header? "content-type"
  if !options.allows contentType then throw (.contentType contentType)
  if response.declaredLength?.any (options.maxBytes.toNat < ·) then
    throw (.tooLarge options.maxBytes)
  match Hasher.ofAlgorithm? options.algorithm with
  | none => throw (.unsupportedAlgorithm options.algorithm)
  | some hasher => (digestArrival options hasher response.arrival).1

end Fetch

end Signoff
