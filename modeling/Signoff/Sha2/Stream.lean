import Signoff.Sha2

namespace Signoff.Sha2

/-! Hashing a message that arrives in pieces. Whole blocks are compressed as soon as they are
there, and the digest does not depend on where the pieces end. -/

variable {width : Nat}

structure Stream (width : Nat) where
  chain : Chain width
  pending : List UInt8
  length : Nat

namespace Stream

def empty (variant : Variant width) : Stream width := ⟨variant.initial, [], 0⟩

def absorb (variant : Variant width) (stream : Stream width) (piece : List UInt8) :
    Stream width where
  chain := compressWhole variant stream.chain (stream.pending ++ piece)
  pending := remainder width (stream.pending ++ piece)
  length := stream.length + piece.length

def finish (variant : Variant width) (stream : Stream width) : Chain width :=
  compressWhole variant stream.chain (stream.pending ++ padding width stream.length)

end Stream

theorem words_append {count : Nat} {left : List UInt8} (right : List UInt8)
    (h : count * (width / 8) ≤ left.length) :
    words width count (left ++ right) = words width count left := by
  induction count generalizing left with
  | zero => rfl
  | succ count ih =>
    have hword : width / 8 ≤ left.length := by
      rw [Nat.succ_mul] at h
      omega
    have hrest : count * (width / 8) ≤ (left.drop (width / 8)).length := by
      rw [Nat.succ_mul] at h
      simp only [List.length_drop]
      omega
    rw [words, words, List.take_append_of_le_length hword, List.drop_append_of_le_length hword,
      ih hrest]

theorem compressBlocks_append (variant : Variant width) {count : Nat} (chain : Chain width)
    {left : List UInt8} (right : List UInt8) (h : count * (2 * width) ≤ left.length) :
    compressBlocks variant count chain (left ++ right) =
      compressBlocks variant count chain left := by
  induction count generalizing chain left with
  | zero => rfl
  | succ count ih =>
    rw [Nat.succ_mul] at h
    have hblock : 2 * width ≤ left.length := by omega
    have hwords : 16 * (width / 8) ≤ left.length := by omega
    have hrest : count * (2 * width) ≤ (left.drop (2 * width)).length := by
      simp only [List.length_drop]
      omega
    rw [compressBlocks, compressBlocks, words_append right hwords,
      List.drop_append_of_le_length hblock, ih _ hrest]

theorem compressBlocks_add (variant : Variant width) (first second : Nat) (chain : Chain width)
    (bytes : List UInt8) :
    compressBlocks variant (first + second) chain bytes =
      compressBlocks variant second (compressBlocks variant first chain bytes)
        (bytes.drop (first * (2 * width))) := by
  induction first generalizing chain bytes with
  | zero => simp [compressBlocks]
  | succ first ih =>
    have hdrop : (first + 1) * (2 * width) = 2 * width + first * (2 * width) := by
      rw [Nat.succ_mul, Nat.add_comm]
    rw [Nat.succ_add, compressBlocks, compressBlocks, ih, List.drop_drop, hdrop]

theorem wholeBlocks_append (left right : List UInt8) :
    (left ++ right).length / (2 * width) =
      left.length / (2 * width) + (remainder width left ++ right).length / (2 * width) := by
  have hle : left.length / (2 * width) * (2 * width) ≤ left.length := Nat.div_mul_le_self _ _
  rcases Nat.eq_zero_or_pos (2 * width) with hzero | hpos
  · simp [hzero]
  · have hlength : (left ++ right).length =
        (remainder width left ++ right).length + left.length / (2 * width) * (2 * width) := by
      simp only [remainder, List.length_append, List.length_drop]
      omega
    rw [hlength, Nat.add_mul_div_right _ _ hpos, Nat.add_comm]

theorem compressWhole_append (variant : Variant width) (chain : Chain width)
    (left right : List UInt8) :
    compressWhole variant chain (left ++ right) =
      compressWhole variant (compressWhole variant chain left) (remainder width left ++ right) := by
  have hle : left.length / (2 * width) * (2 * width) ≤ left.length := Nat.div_mul_le_self _ _
  rw [compressWhole, wholeBlocks_append, compressBlocks_add,
    compressBlocks_append variant chain right hle, List.drop_append_of_le_length hle]
  rfl

theorem remainder_append (width : Nat) (left right : List UInt8) :
    remainder width (left ++ right) = remainder width (remainder width left ++ right) := by
  have hle : left.length / (2 * width) * (2 * width) ≤ left.length := Nat.div_mul_le_self _ _
  rw [remainder, wholeBlocks_append, Nat.add_mul, ← List.drop_drop,
    List.drop_append_of_le_length hle]
  rfl

namespace Stream

theorem absorb_absorb (variant : Variant width) (stream : Stream width)
    (first second : List UInt8) :
    (stream.absorb variant first).absorb variant second =
      stream.absorb variant (first ++ second) := by
  have hchain := compressWhole_append variant stream.chain (stream.pending ++ first) second
  have hpending := remainder_append width (stream.pending ++ first) second
  simp [absorb, ← hchain, ← hpending, Nat.add_assoc]

theorem finish_absorb_empty (variant : Variant width) (message : List UInt8) :
    ((empty variant).absorb variant message).finish variant = hash variant message := by
  have hchain := compressWhole_append variant variant.initial message
    (padding width message.length)
  simp [absorb, finish, empty, hash, pad, hchain]

theorem foldl_absorb (variant : Variant width) (stream : Stream width)
    (pieces : List (List UInt8)) (hpieces : pieces ≠ []) :
    pieces.foldl (absorb variant) stream = stream.absorb variant pieces.flatten := by
  induction pieces generalizing stream with
  | nil => exact absurd rfl hpieces
  | cons piece rest ih =>
    cases rest with
    | nil => simp
    | cons next rest =>
      rw [List.foldl_cons, ih _ (by simp), absorb_absorb]
      rfl

end Stream

end Signoff.Sha2
