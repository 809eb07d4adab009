import Signoff.Bytes

namespace Signoff

structure Octets (length : Nat) where
  bytes : List UInt8
  length_bytes : bytes.length = length
deriving DecidableEq

namespace Octets

variable {length : Nat}

@[ext] theorem ext {left right : Octets length} (h : left.bytes = right.bytes) :
    left = right := by
  cases left; cases right; simp_all

def ofList? (length : Nat) (bytes : List UInt8) : Option (Octets length) :=
  if h : bytes.length = length then some ⟨bytes, h⟩ else none

theorem ofList?_eq_some_iff {bytes : List UInt8} {octets : Octets length} :
    ofList? length bytes = some octets ↔ bytes = octets.bytes := by
  unfold ofList?
  constructor
  · intro h
    split at h
    · cases h; rfl
    · simp at h
  · rintro rfl
    simp [octets.length_bytes]

def replicate (length : Nat) (byte : UInt8) : Octets length :=
  ⟨List.replicate length byte, by simp⟩

def littleEndian (length value : Nat) : Octets length :=
  ⟨Bytes.littleEndian length value, by simp⟩

def append {left right : Nat} (first : Octets left) (second : Octets right) :
    Octets (left + right) :=
  ⟨first.bytes ++ second.bytes, by simp [first.length_bytes, second.length_bytes]⟩

end Octets

abbrev Digest := Octets 32
abbrev Nonce := Octets 32
abbrev PublicKey := Octets 32
abbrev SignatureBytes := Octets 64

end Signoff
