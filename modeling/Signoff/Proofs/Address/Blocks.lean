import Signoff.Address

namespace Signoff.Address

/-! Which addresses lie outside the public network, as blocks of addresses that begin alike. -/

/-- All addresses whose first `length` bits are those of `base`. -/
structure Block (width : Nat) where
  base : BitVec width
  length : Nat

namespace Block

variable {width : Nat}

def Contains (block : Block width) (bits : BitVec width) : Prop :=
  bits.toNat >>> (width - block.length) = block.base.toNat >>> (width - block.length)

theorem contains_iff {base bits : BitVec width} {length : Nat} (leading : Nat)
    (hleading : base.toNat >>> (width - length) = leading) :
    Contains ⟨base, length⟩ bits ↔ bits.toNat >>> (width - length) = leading := by
  rw [Contains, hleading]

def AnyContains (blocks : List (Block width)) (bits : BitVec width) : Prop :=
  ∃ block ∈ blocks, block.Contains bits

theorem anyContains_nil (bits : BitVec width) : ¬ AnyContains [] bits := by
  simp [AnyContains]

theorem anyContains_cons {block : Block width} {rest : List (Block width)}
    {bits : BitVec width} :
    AnyContains (block :: rest) bits ↔ block.Contains bits ∨ AnyContains rest bits := by
  simp [AnyContains]

end Block

/-- Blocks of addresses that are not public. -/
def closedV4 : List (Block 32) := [
  ⟨ofOctets [0, 0, 0, 0], 8⟩,
  ⟨ofOctets [10, 0, 0, 0], 8⟩,
  ⟨ofOctets [127, 0, 0, 0], 8⟩,
  ⟨ofOctets [100, 64, 0, 0], 10⟩,
  ⟨ofOctets [169, 254, 0, 0], 16⟩,
  ⟨ofOctets [172, 16, 0, 0], 12⟩,
  ⟨ofOctets [192, 168, 0, 0], 16⟩,
  ⟨ofOctets [224, 0, 0, 0], 4⟩,
  ⟨ofOctets [255, 255, 255, 255], 32⟩]

def closedV6 : List (Block 128) := [
  ⟨ofSegments [0, 0, 0, 0, 0, 0, 0, 0], 128⟩,
  ⟨ofSegments [0, 0, 0, 0, 0, 0, 0, 1], 128⟩,
  ⟨ofSegments [0xff00, 0, 0, 0, 0, 0, 0, 0], 8⟩,
  ⟨ofSegments [0xfc00, 0, 0, 0, 0, 0, 0, 0], 7⟩,
  ⟨ofSegments [0xfe80, 0, 0, 0, 0, 0, 0, 0], 10⟩]

/-- The block of the IPv4-mapped addresses. -/
def mappedBlock : Block 128 := ⟨ofSegments [0, 0, 0, 0, 0, 0xffff, 0, 0], 96⟩

def mapped (bits : BitVec 32) : BitVec 128 := 0xffff#96 ++ bits

theorem and_shiftLeft (word mask shift : Nat) :
    word &&& mask <<< shift = (word >>> shift &&& mask) <<< shift := by
  apply Nat.eq_of_testBit_eq
  intro index
  simp only [Nat.testBit_and, Nat.testBit_shiftLeft, Nat.testBit_shiftRight]
  by_cases hindex : shift ≤ index
  · simp [hindex]
  · simp [hindex]

theorem and_mask_eq_iff {word count shift value : Nat} (hword : word < 1 <<< (count + shift)) :
    word &&& (1 <<< count - 1) <<< shift = value <<< shift ↔ word >>> shift = value := by
  have hleading : word >>> shift < 1 <<< count := by
    rw [Nat.one_shiftLeft] at hword ⊢
    rw [Nat.shiftRight_eq_div_pow]
    apply Nat.div_lt_of_lt_mul
    rwa [← Nat.pow_add, Nat.add_comm]
  have hkept : word >>> shift &&& 1 <<< count - 1 = word >>> shift := by
    rw [Nat.one_shiftLeft] at hleading ⊢
    rw [Nat.and_two_pow_sub_one_eq_mod, Nat.mod_eq_of_lt hleading]
  rw [and_shiftLeft, hkept]
  constructor
  · intro hsame
    rw [← Nat.shiftLeft_shiftRight (word >>> shift) shift, hsame, Nat.shiftLeft_shiftRight]
  · exact congrArg (· <<< shift)

theorem isForbiddenV4_iff (bits : BitVec 32) :
    isForbiddenV4 bits = true ↔ Block.AnyContains closedV4 bits := by
  have hlt := bits.isLt
  have hfirst : octet bits 0 = bits.toNat >>> 24 := by
    simp only [octet]
    omega
  have hsecond : octet bits 1 = bits.toNat >>> 16 % 256 := rfl
  have hshared : octet bits 1 &&& 0xc0 = 64 ↔ octet bits 1 >>> 6 = 1 :=
    @and_mask_eq_iff _ 2 6 1 (Nat.mod_lt _ (by decide))
  have hlast : bits = BitVec.allOnes 32 ↔ bits.toNat = 0xffffffff := by
    rw [← BitVec.toNat_inj]
    rfl
  simp only [isForbiddenV4, Bool.or_eq_true, Bool.and_eq_true, beq_iff_eq, decide_eq_true_eq,
    or_assoc, hshared, hlast, closedV4, Block.anyContains_cons, Block.anyContains_nil, or_false]
  -- Test by test, the octets that it reads hold the leading bits of its block.
  refine or_congr ?_ (or_congr ?_ (or_congr ?_ (or_congr ?_ (or_congr ?_ (or_congr ?_
    (or_congr ?_ (or_congr ?_ ?_)))))))
  · rw [Block.contains_iff 0 rfl, hfirst]
  · rw [Block.contains_iff 0xa rfl, hfirst]
  · rw [Block.contains_iff 0x7f rfl, hfirst]
  · rw [Block.contains_iff 0x191 rfl]
    omega
  · rw [Block.contains_iff 0xa9fe rfl]
    omega
  · rw [Block.contains_iff 0xac1 rfl]
    omega
  · rw [Block.contains_iff 0xc0a8 rfl]
    omega
  · rw [Block.contains_iff 0xe rfl]
    omega
  · rw [Block.contains_iff 0xffffffff rfl]
    omega

theorem contains_mappedBlock (bits : BitVec 128) :
    mappedBlock.Contains bits ↔ bits.toNat >>> 32 = 0xffff :=
  Block.contains_iff 0xffff rfl

theorem isForbidden_of_mapped {bits : BitVec 128} (hmapped : mappedBlock.Contains bits) :
    (v6 bits).isForbidden = (v4 (bits.setWidth 32)).isForbidden := by
  rw [contains_mappedBlock] at hmapped
  simp only [isForbidden, mapped?, if_pos hmapped]

theorem isForbidden_of_not_mapped {bits : BitVec 128} (hmapped : ¬ mappedBlock.Contains bits) :
    (v6 bits).isForbidden = true ↔ Block.AnyContains closedV6 bits := by
  rw [contains_mappedBlock] at hmapped
  have hlt := bits.isLt
  have hfirst : segment bits 0 = bits.toNat >>> 112 := by
    simp only [segment]
    omega
  have hword : segment bits 0 < 1 <<< 16 := Nat.mod_lt _ (by decide)
  have hmulticast : segment bits 0 &&& 0xff00 = 0xff00 ↔ segment bits 0 >>> 8 = 0xff :=
    @and_mask_eq_iff _ 8 8 0xff hword
  have hlocal : segment bits 0 &&& 0xfe00 = 0xfc00 ↔ segment bits 0 >>> 9 = 0x7e :=
    @and_mask_eq_iff _ 7 9 0x7e hword
  have hlink : segment bits 0 &&& 0xffc0 = 0xfe80 ↔ segment bits 0 >>> 6 = 0x3fa :=
    @and_mask_eq_iff _ 10 6 0x3fa hword
  have hnone : bits = 0 ↔ bits.toNat = 0 := by
    rw [← BitVec.toNat_inj]
    rfl
  have hloopback : bits = 1 ↔ bits.toNat = 1 := by
    rw [← BitVec.toNat_inj]
    rfl
  simp only [isForbidden, mapped?, if_neg hmapped, Bool.or_eq_true, beq_iff_eq, or_assoc,
    hmulticast, hlocal, hlink, hnone, hloopback, closedV6, Block.anyContains_cons,
    Block.anyContains_nil, or_false]
  refine or_congr ?_ (or_congr ?_ (or_congr ?_ (or_congr ?_ ?_)))
  · rw [Block.contains_iff 0 rfl, Nat.shiftRight_zero]
  · rw [Block.contains_iff 1 rfl, Nat.shiftRight_zero]
  · rw [Block.contains_iff 0xff rfl, hfirst, ← Nat.shiftRight_add]
  · rw [Block.contains_iff 0x7e rfl, hfirst, ← Nat.shiftRight_add]
  · rw [Block.contains_iff 0x3fa rfl, hfirst, ← Nat.shiftRight_add]

theorem contains_mapped (bits : BitVec 32) : mappedBlock.Contains (mapped bits) := by
  have hrest : bits.toNat >>> 32 = 0 := Nat.shiftRight_eq_zero bits.toNat 32 bits.isLt
  rw [contains_mappedBlock, mapped, BitVec.toNat_append, Nat.shiftRight_or_distrib,
    Nat.shiftLeft_shiftRight, hrest]
  rfl

theorem setWidth_mapped (bits : BitVec 32) : (mapped bits).setWidth 32 = bits :=
  BitVec.setWidth_append_eq_right

/-- The addresses that are refused are those of the closed blocks, and an address is judged in its
IPv4-mapped form as in its own. -/
theorem isForbidden_blocks :
    (∀ bits : BitVec 32, (v4 bits).isForbidden = true ↔ Block.AnyContains closedV4 bits) ∧
    (∀ bits : BitVec 128, (v6 bits).isForbidden = true ↔
      mappedBlock.Contains bits ∧ (v4 (bits.setWidth 32)).isForbidden = true ∨
        ¬ mappedBlock.Contains bits ∧ Block.AnyContains closedV6 bits) ∧
    ∀ bits : BitVec 32, (v6 (mapped bits)).isForbidden = (v4 bits).isForbidden := by
  refine ⟨isForbiddenV4_iff, fun bits => ?_, fun bits => ?_⟩
  · by_cases hmapped : mappedBlock.Contains bits
    · simp [hmapped, isForbidden_of_mapped hmapped]
    · simp [hmapped, isForbidden_of_not_mapped hmapped]
  · rw [isForbidden_of_mapped (contains_mapped bits), setWidth_mapped]

example : (v4 (ofOctets [172, 31, 255, 255])).isForbidden = true ∧
    (v4 (ofOctets [172, 32, 0, 0])).isForbidden = false := by decide

end Signoff.Address
