import Signoff.Database.Value
import Signoff.Proofs.Text.Fault

namespace Signoff

namespace Database

namespace Dyadic

def whole (number : Dyadic) : Nat := number.significand * 1 <<< number.exponent.toNat

theorem whole_normal {number : Dyadic} (hexponent : 0 ≤ number.exponent) (steps : Nat) :
    0 ≤ (number.normal steps).exponent ∧ (number.normal steps).whole = number.whole := by
  induction steps generalizing number with
  | zero => exact ⟨hexponent, rfl⟩
  | succ steps ih =>
      simp only [normal]
      split
      · next heven =>
          obtain ⟨hnext, hwhole⟩ :=
            @ih ⟨number.significand / 2, number.exponent + 1⟩ (by simp only; omega)
          refine ⟨hnext, hwhole.trans ?_⟩
          have hstep : (number.exponent + 1).toNat = number.exponent.toNat + 1 := by omega
          simp only [whole, hstep, Nat.one_shiftLeft, Nat.pow_succ, Nat.mul_comm _ 2]
          rw [← Nat.mul_assoc, Nat.div_mul_cancel (Nat.dvd_of_mod_eq_zero heven)]
      · exact ⟨hexponent, rfl⟩

theorem whole_normalized (magnitude : Nat) :
    0 ≤ (normalized ⟨magnitude, 0⟩).exponent ∧ (normalized ⟨magnitude, 0⟩).whole = magnitude := by
  simp only [normalized]
  split
  · next hzero => simp [whole, hzero]
  · obtain ⟨hexponent, hwhole⟩ := @whole_normal ⟨magnitude, 0⟩ (Int.le_refl 0) (bitLength magnitude)
    exact ⟨hexponent, by rw [hwhole]; simp [whole]⟩

end Dyadic

theorem Real.ofInt_eq (value : Int) :
    ∃ significand exponent, Real.ofInt value = .finite significand exponent ∧ 0 ≤ exponent ∧
      significand * (1 <<< exponent.toNat : Nat) = value := by
  obtain ⟨hexponent, hwhole⟩ := Dyadic.whole_normalized value.natAbs
  refine ⟨_, _, rfl, hexponent, ?_⟩
  simp only [Dyadic.whole] at hwhole
  split
  · next hnegative =>
      have hneg : value < 0 := by simpa using hnegative
      rw [Int.neg_mul, ← Int.natCast_mul, hwhole]
      omega
  · next hnonnegative =>
      have hpos : ¬ value < 0 := by simpa using hnonnegative
      rw [← Int.natCast_mul, hwhole]
      omega

theorem Real.le_ofInt (left right : Int) :
    (Real.ofInt left).le (.ofInt right) = decide (left ≤ right) := by
  obtain ⟨significand, exponent, hleft, hexponent, rfl⟩ := Real.ofInt_eq left
  obtain ⟨other, otherExponent, hright, hother, rfl⟩ := Real.ofInt_eq right
  -- Both numbers are multiples of the power that belongs to the smaller exponent.
  have hscale {power : Int} (hpower : min exponent otherExponent ≤ power) :
      ((1 <<< power.toNat : Nat) : Int) = (1 <<< (power - min exponent otherExponent).toNat : Nat) *
        (1 <<< (min exponent otherExponent).toNat : Nat) := by
    have hsum : power.toNat =
        (power - min exponent otherExponent).toNat + (min exponent otherExponent).toNat := by omega
    rw [← Int.natCast_mul, Nat.one_shiftLeft, Nat.one_shiftLeft, Nat.one_shiftLeft, ← Nat.pow_add,
      ← hsum]
  have hpositive : (0 : Int) < (1 <<< (min exponent otherExponent).toNat : Nat) := by
    rw [Nat.one_shiftLeft]
    exact Int.natCast_pos.mpr (Nat.two_pow_pos _)
  rw [hleft, hright]
  simp only [Real.le]
  rw [hscale (Int.min_le_left _ _), hscale (Int.min_le_right _ _), ← Int.mul_assoc,
    ← Int.mul_assoc]
  exact decide_eq_decide.mpr (Int.mul_le_mul_iff_of_pos_right hpositive).symm

theorem Value.le_integer (left right : Int64) :
    (Value.integer left).le (.integer right) = decide (left ≤ right) := by
  simp only [Value.le, Value.rank, if_true, Value.bytes?, Value.toReal, Real.le_ofInt,
    Int64.le_iff_toInt_le]

theorem Real.le_refl (number : Real) : number.le number = true := by
  cases number with
  | finite significand exponent => exact decide_eq_true (Int.le_refl _)
  | infinite negative => cases negative <;> rfl

namespace Garble

theorem bytes_ne (garble : Garble) (value : String) : Text.bytes value ≠ garble.bytes := by
  intro hbytes
  have huntextual := garble.untextual
  rw [← hbytes, Text.fromUTF8?_bytes] at huntextual
  cases huntextual

/-- There is always something to tell about what is no text. -/
theorem faulty (garble : Garble) : ∃ fault, Text.Fault.of? garble.bytes = some fault := by
  cases hfault : Text.Fault.of? garble.bytes with
  | some fault => exact ⟨fault, rfl⟩
  | none =>
      obtain ⟨value, hvalue⟩ := Text.Fault.of?_eq_none_iff.mp hfault
      exact absurd hvalue (garble.bytes_ne value)

theorem eq_of_bytes {left right : Garble} (hbytes : left.bytes = right.bytes) : left = right := by
  cases left
  cases right
  cases hbytes
  rfl

end Garble

namespace Value

theorem le_refl (value : Value) : value.le value = true := by
  simp only [le, if_true]
  cases value with
  | null => exact Real.le_refl _
  | integer value => exact Real.le_refl _
  | real value => exact Real.le_refl value
  | text value => exact decide_eq_true (List.le_refl _)
  | garbled value => exact decide_eq_true (List.le_refl _)
  | blob value => exact decide_eq_true (List.le_refl _)

theorem same_refl (value : Value) : value.same value = true := by
  rw [same, le_refl, Bool.and_self]

/-- Numbers of the same worth, at least one of them a floating point number. -/
structure SameWorth (left right : Value) : Prop where
  float : ∃ number, left = .real number ∨ right = .real number
  numbers : left.rank = 1 ∧ right.rank = 1
  worth : left.toReal.le right.toReal = true ∧ right.toReal.le left.toReal = true

theorem rank_eq_of_same {left right : Value} (hsame : left.same right = true) :
    left.rank = right.rank := by
  simp only [same, le, Bool.and_eq_true] at hsame
  by_cases hrank : left.rank = right.rank
  · exact hrank
  · rw [if_neg hrank, if_neg (Ne.symm hrank), decide_eq_true_eq, decide_eq_true_eq] at hsame
    exact absurd hsame.1 (Nat.lt_asymm hsame.2)

theorem le_iff_of_numbers {left right : Value} (hleft : left.rank = 1) (hright : right.rank = 1) :
    left.le right = left.toReal.le right.toReal := by
  cases left <;> cases hleft <;> cases right <;> cases hright <;> rfl

theorem SameWorth.same {left right : Value} (hworth : left.SameWorth right) :
    left.same right = true := by
  obtain ⟨_, ⟨hleft, hright⟩, hle, hge⟩ := hworth
  rw [Value.same, le_iff_of_numbers hleft hright, le_iff_of_numbers hright hleft, hle, hge]
  rfl

theorem bytes?_eq_of_same {left right : Value} {found other : List UInt8}
    (hleft : left.bytes? = some found) (hright : right.bytes? = some other)
    (hsame : left.same right = true) : found = other := by
  have hrank := rank_eq_of_same hsame
  simp only [same, le, hrank, if_true, hleft, hright, Bool.and_eq_true, decide_eq_true_eq] at hsame
  exact List.le_antisymm hsame.1 hsame.2

theorem eq_or_sameWorth {left right : Value} (hsame : left.same right = true) :
    left = right ∨ left.SameWorth right := by
  have hrank := rank_eq_of_same hsame
  have hbytes {found other : List UInt8} (hleft : left.bytes? = some found)
      (hright : right.bytes? = some other) : found = other := bytes?_eq_of_same hleft hright hsame
  rw [same, Bool.and_eq_true] at hsame
  obtain ⟨hle, hge⟩ := hsame
  have hnumbers (hleft : left.rank = 1) (hfloat : ∃ number, left = .real number ∨
      right = .real number) : left.SameWorth right := by
    have hright : right.rank = 1 := hrank ▸ hleft
    exact ⟨hfloat, ⟨hleft, hright⟩, le_iff_of_numbers hleft hright ▸ hle,
      le_iff_of_numbers hright hleft ▸ hge⟩
  cases left with
  | null =>
      cases right <;> cases hrank
      exact .inl rfl
  | integer value =>
      cases right <;> cases hrank
      · rw [le_integer, decide_eq_true_eq] at hle hge
        exact .inl (congrArg integer (Int64.le_antisymm hle hge))
      · exact .inr (hnumbers rfl ⟨_, .inr rfl⟩)
  | real value => exact .inr (hnumbers rfl ⟨_, .inl rfl⟩)
  | text value =>
      cases right <;> cases hrank
      · exact .inl (congrArg text (Text.bytes_inj.mp (hbytes rfl rfl)))
      · exact absurd (hbytes rfl rfl) (Garble.bytes_ne _ value)
  | garbled value =>
      cases right <;> cases hrank
      · exact absurd (hbytes rfl rfl).symm (value.bytes_ne _)
      · exact .inl (congrArg garbled (Garble.eq_of_bytes (hbytes rfl rfl)))
  | blob value =>
      cases right <;> cases hrank
      exact .inl (congrArg blob (hbytes rfl rfl))

theorem same_iff {left right : Value} :
    left.same right = true ↔ left = right ∨ left.SameWorth right := by
  constructor
  · exact eq_or_sameWorth
  · rintro (rfl | hworth)
    · exact same_refl left
    · exact hworth.same

end Value

end Database

end Signoff
