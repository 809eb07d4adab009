import Signoff.Octets

namespace Signoff.Sha2

/-! The secure hash algorithms SHA-256 and SHA-512: one compression loop over words of
`width` bits, with the constants and rotations of each. -/

structure Chain (width : Nat) where
  a : BitVec width
  b : BitVec width
  c : BitVec width
  d : BitVec width
  e : BitVec width
  f : BitVec width
  g : BitVec width
  h : BitVec width
deriving DecidableEq

def Chain.add {width : Nat} (left right : Chain width) : Chain width :=
  ⟨left.a + right.a, left.b + right.b, left.c + right.c, left.d + right.d,
    left.e + right.e, left.f + right.f, left.g + right.g, left.h + right.h⟩

def Chain.words {width : Nat} (chain : Chain width) : List (BitVec width) :=
  [chain.a, chain.b, chain.c, chain.d, chain.e, chain.f, chain.g, chain.h]

/-- What tells the two algorithms apart. A message schedule mixes words with two rotations
and a shift, a round with three rotations. -/
structure Variant (width : Nat) where
  initial : Chain width
  constants : List (BitVec width)
  early : Nat × Nat × Nat
  late : Nat × Nat × Nat
  first : Nat × Nat × Nat
  fifth : Nat × Nat × Nat

variable {width : Nat}

def mixSchedule (amounts : Nat × Nat × Nat) (word : BitVec width) : BitVec width :=
  word.rotateRight amounts.1 ^^^ word.rotateRight amounts.2.1 ^^^ (word >>> amounts.2.2)

def mixRound (amounts : Nat × Nat × Nat) (word : BitVec width) : BitVec width :=
  word.rotateRight amounts.1 ^^^ word.rotateRight amounts.2.1 ^^^ word.rotateRight amounts.2.2

def round (variant : Variant width) (chain : Chain width) (word constant : BitVec width) :
    Chain width :=
  let choice := (chain.e &&& chain.f) ^^^ (~~~chain.e &&& chain.g)
  let majority := (chain.a &&& chain.b) ^^^ (chain.a &&& chain.c) ^^^ (chain.b &&& chain.c)
  let sum := chain.h + mixRound variant.fifth chain.e + choice + constant + word
  ⟨sum + (mixRound variant.first chain.a + majority), chain.a, chain.b, chain.c,
    chain.d + sum, chain.e, chain.f, chain.g⟩

def advance (variant : Variant width) : List (BitVec width) → List (BitVec width)
  | [] => []
  | oldest :: rest =>
    let next := oldest + mixSchedule variant.early (rest.getD 0 0) + rest.getD 8 0 +
      mixSchedule variant.late (rest.getD 13 0)
    rest ++ [next]

def compress (variant : Variant width) (chain : Chain width) (block : List (BitVec width)) :
    Chain width :=
  let step := fun (state : Chain width × List (BitVec width)) (constant : BitVec width) =>
    (round variant state.1 (state.2.headD 0) constant, advance variant state.2)
  chain.add (variant.constants.foldl step (chain, block)).1

def words (width : Nat) : Nat → List UInt8 → List (BitVec width)
  | 0, _ => []
  | count + 1, bytes =>
    BitVec.ofNat width (Bytes.ofBigEndian (bytes.take (width / 8))) ::
      words width count (bytes.drop (width / 8))

def compressBlocks (variant : Variant width) :
    Nat → Chain width → List UInt8 → Chain width
  | 0, chain, _ => chain
  | count + 1, chain, bytes =>
    compressBlocks variant count (compress variant chain (words width 16 bytes))
      (bytes.drop (2 * width))

def compressWhole (variant : Variant width) (chain : Chain width) (bytes : List UInt8) :
    Chain width :=
  compressBlocks variant (bytes.length / (2 * width)) chain bytes

def remainder (width : Nat) (bytes : List UInt8) : List UInt8 :=
  bytes.drop (bytes.length / (2 * width) * (2 * width))

/-- A one bit, zeros and the length in bits fill a message to whole blocks. -/
def padding (width length : Nat) : List UInt8 :=
  let used := length + 1 + width / 4
  let zeros := (2 * width - used % (2 * width)) % (2 * width)
  0x80 :: (List.replicate zeros 0 ++ Bytes.bigEndian (width / 4) (8 * length))

def pad (width : Nat) (message : List UInt8) : List UInt8 :=
  message ++ padding width message.length

def hash (variant : Variant width) (message : List UInt8) : Chain width :=
  compressWhole variant variant.initial (pad width message)

def Chain.octets (chain : Chain width) : Octets (8 * (width / 8)) where
  bytes := chain.words.flatMap fun word => Bytes.bigEndian (width / 8) word.toNat
  length_bytes := by simp [Chain.words]; omega

def variant256 : Variant 32 where
  initial := ⟨0x6a09e667, 0xbb67ae85, 0x3c6ef372, 0xa54ff53a,
    0x510e527f, 0x9b05688c, 0x1f83d9ab, 0x5be0cd19⟩
  constants := [
    0x428a2f98, 0x71374491, 0xb5c0fbcf, 0xe9b5dba5, 0x3956c25b, 0x59f111f1,
    0x923f82a4, 0xab1c5ed5, 0xd807aa98, 0x12835b01, 0x243185be, 0x550c7dc3,
    0x72be5d74, 0x80deb1fe, 0x9bdc06a7, 0xc19bf174, 0xe49b69c1, 0xefbe4786,
    0x0fc19dc6, 0x240ca1cc, 0x2de92c6f, 0x4a7484aa, 0x5cb0a9dc, 0x76f988da,
    0x983e5152, 0xa831c66d, 0xb00327c8, 0xbf597fc7, 0xc6e00bf3, 0xd5a79147,
    0x06ca6351, 0x14292967, 0x27b70a85, 0x2e1b2138, 0x4d2c6dfc, 0x53380d13,
    0x650a7354, 0x766a0abb, 0x81c2c92e, 0x92722c85, 0xa2bfe8a1, 0xa81a664b,
    0xc24b8b70, 0xc76c51a3, 0xd192e819, 0xd6990624, 0xf40e3585, 0x106aa070,
    0x19a4c116, 0x1e376c08, 0x2748774c, 0x34b0bcb5, 0x391c0cb3, 0x4ed8aa4a,
    0x5b9cca4f, 0x682e6ff3, 0x748f82ee, 0x78a5636f, 0x84c87814, 0x8cc70208,
    0x90befffa, 0xa4506ceb, 0xbef9a3f7, 0xc67178f2]
  early := (7, 18, 3)
  late := (17, 19, 10)
  first := (2, 13, 22)
  fifth := (6, 11, 25)

def variant512 : Variant 64 where
  initial := ⟨0x6a09e667f3bcc908, 0xbb67ae8584caa73b, 0x3c6ef372fe94f82b, 0xa54ff53a5f1d36f1,
    0x510e527fade682d1, 0x9b05688c2b3e6c1f, 0x1f83d9abfb41bd6b, 0x5be0cd19137e2179⟩
  constants := [
    0x428a2f98d728ae22, 0x7137449123ef65cd, 0xb5c0fbcfec4d3b2f, 0xe9b5dba58189dbbc,
    0x3956c25bf348b538, 0x59f111f1b605d019, 0x923f82a4af194f9b, 0xab1c5ed5da6d8118,
    0xd807aa98a3030242, 0x12835b0145706fbe, 0x243185be4ee4b28c, 0x550c7dc3d5ffb4e2,
    0x72be5d74f27b896f, 0x80deb1fe3b1696b1, 0x9bdc06a725c71235, 0xc19bf174cf692694,
    0xe49b69c19ef14ad2, 0xefbe4786384f25e3, 0x0fc19dc68b8cd5b5, 0x240ca1cc77ac9c65,
    0x2de92c6f592b0275, 0x4a7484aa6ea6e483, 0x5cb0a9dcbd41fbd4, 0x76f988da831153b5,
    0x983e5152ee66dfab, 0xa831c66d2db43210, 0xb00327c898fb213f, 0xbf597fc7beef0ee4,
    0xc6e00bf33da88fc2, 0xd5a79147930aa725, 0x06ca6351e003826f, 0x142929670a0e6e70,
    0x27b70a8546d22ffc, 0x2e1b21385c26c926, 0x4d2c6dfc5ac42aed, 0x53380d139d95b3df,
    0x650a73548baf63de, 0x766a0abb3c77b2a8, 0x81c2c92e47edaee6, 0x92722c851482353b,
    0xa2bfe8a14cf10364, 0xa81a664bbc423001, 0xc24b8b70d0f89791, 0xc76c51a30654be30,
    0xd192e819d6ef5218, 0xd69906245565a910, 0xf40e35855771202a, 0x106aa07032bbd1b8,
    0x19a4c116b8d2d0c8, 0x1e376c085141ab53, 0x2748774cdf8eeb99, 0x34b0bcb5e19b48a8,
    0x391c0cb3c5c95a63, 0x4ed8aa4ae3418acb, 0x5b9cca4f7763e373, 0x682e6ff3d6b2b8a3,
    0x748f82ee5defb2fc, 0x78a5636f43172f60, 0x84c87814a1f0ab72, 0x8cc702081a6439ec,
    0x90befffa23631e28, 0xa4506cebde82bde9, 0xbef9a3f7b2c67915, 0xc67178f2e372532b,
    0xca273eceea26619c, 0xd186b8c721c0c207, 0xeada7dd6cde0eb1e, 0xf57d4f7fee6ed178,
    0x06f067aa72176fba, 0x0a637dc5a2c898a6, 0x113f9804bef90dae, 0x1b710b35131c471b,
    0x28db77f523047d84, 0x32caab7b40c72493, 0x3c9ebe0a15c9bebc, 0x431d67c49c100d4c,
    0x4cc5d4becb3e42b6, 0x597f299cfc657e2a, 0x5fcb6fab3ad6faec, 0x6c44198c4a475817]
  early := (1, 8, 7)
  late := (19, 61, 6)
  first := (28, 34, 39)
  fifth := (14, 18, 41)

end Signoff.Sha2

namespace Signoff

def sha256 (message : List UInt8) : Digest :=
  (Sha2.hash Sha2.variant256 message).octets

def sha512 (message : List UInt8) : Octets 64 :=
  (Sha2.hash Sha2.variant512 message).octets

end Signoff
