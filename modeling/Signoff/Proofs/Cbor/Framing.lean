import Signoff.Cbor
import Signoff.Proofs.Text.Bytes

namespace Signoff

namespace Bytes

theorem capacity_eight : capacity 8 = 0x10000000000000000 := rfl

theorem bigEndian_inj {width left right : Nat} (hleft : left < capacity width)
    (hright : right < capacity width) (hbytes : bigEndian width left = bigEndian width right) :
    left = right := by
  have hvalue := congrArg ofBigEndian hbytes
  rwa [ofBigEndian_bigEndian, ofBigEndian_bigEndian, Nat.mod_eq_of_lt hleft,
    Nat.mod_eq_of_lt hright] at hvalue

end Bytes

namespace Cbor

def headLow (number : Nat) : Nat :=
  if number < 24 then number
  else if number < 0x100 then 24
  else if number < 0x10000 then 25
  else if number < 0x100000000 then 26
  else 27

def lowWidth (low : Nat) : Nat := if low < 24 then 0 else 1 <<< (low - 24)

theorem head_eq (major number : Nat) :
    head major number =
      UInt8.ofNat (32 * major + headLow number) ::
        Bytes.bigEndian (lowWidth (headLow number)) number := by
  simp only [head, headLow]
  split
  · next hnumber => simp [lowWidth, hnumber, Bytes.bigEndian, Bytes.littleEndian]
  · split
    · rfl
    · split
      · rfl
      · split
        · rfl
        · rfl

theorem headLow_cases {number : Nat} (hnumber : number < Bytes.capacity 8) :
    headLow number < 24 ∧ number = headLow number ∨
      24 ≤ headLow number ∧ headLow number < 32 ∧
        number < Bytes.capacity (lowWidth (headLow number)) := by
  simp only [headLow]
  split
  · next hsmall => exact .inl ⟨hsmall, rfl⟩
  · right
    split
    · next hfits => exact ⟨by decide, by decide, hfits⟩
    · split
      · next hfits => exact ⟨by decide, by decide, hfits⟩
      · split
        · next hfits => exact ⟨by decide, by decide, hfits⟩
        · exact ⟨by decide, by decide, hnumber⟩

/-- A head tells its major type, its number and where it ends. -/
theorem head_append_inj {major other number second : Nat} {back rest : List UInt8}
    (hmajor : major < 8) (hother : other < 8) (hnumber : number < Bytes.capacity 8)
    (hsecond : second < Bytes.capacity 8)
    (hbytes : head major number ++ back = head other second ++ rest) :
    major = other ∧ number = second ∧ back = rest := by
  rw [head_eq, head_eq, List.cons_append, List.cons_append, List.cons.injEq] at hbytes
  obtain ⟨hfirst, htail⟩ := hbytes
  have hlow : headLow number < 32 := by
    rcases headLow_cases hnumber with h | h <;> omega
  have hlowSecond : headLow second < 32 := by
    rcases headLow_cases hsecond with h | h <;> omega
  have hvalue := congrArg UInt8.toNat hfirst
  rw [UInt8.toNat_ofNat', UInt8.toNat_ofNat'] at hvalue
  have hsame : headLow number = headLow second := by omega
  rw [hsame] at htail
  obtain ⟨hnumbers, hrest⟩ := List.append_inj htail (by simp)
  refine ⟨by omega, ?_, hrest⟩
  rcases headLow_cases hnumber with ⟨_, heq⟩ | ⟨hlarge, _, hfits⟩
  · rcases headLow_cases hsecond with ⟨_, heqSecond⟩ | ⟨hlarge, _, _⟩
    · rw [heq, hsame, ← heqSecond]
    · omega
  · rcases headLow_cases hsecond with ⟨hsmall, _⟩ | ⟨_, _, hfitsSecond⟩
    · omega
    · exact Bytes.bigEndian_inj (hsame ▸ hfits) hfitsSecond hnumbers

def major : Cbor → Nat
  | integer value => if 0 ≤ value then 0 else 1
  | bytes _ => 2
  | text _ => 3
  | map _ => 5
  | null => 7

def number : Cbor → Nat
  | integer value => if 0 ≤ value then value.toNat else (-1 - value).toNat
  | bytes value => value.length
  | text value => (Text.bytes value).length
  | map entries => entries.length
  | null => 22

def payload : Cbor → List UInt8
  | bytes value => value
  | text value => Text.bytes value
  | _ => []

def Framed : Cbor → Prop
  | map _ => False
  | value => value.number < Bytes.capacity 8

theorem Framed.number_lt {value : Cbor} (hframed : value.Framed) :
    value.number < Bytes.capacity 8 := by
  cases value with
  | map entries => exact hframed.elim
  | _ => exact hframed

theorem major_lt (value : Cbor) : value.major < 8 := by
  cases value with
  | integer value => simp only [major]; split <;> decide
  | _ => simp [major]

theorem Framed.encode_eq {value : Cbor} (hframed : value.Framed) :
    value.encode = head value.major value.number ++ value.payload := by
  cases value with
  | integer value =>
      simp only [encode, encodeInteger, major, number, payload, List.append_nil]
      split <;> rfl
  | bytes value => simp only [encode, major, number, payload]
  | text value => simp only [encode, major, number, payload]
  | null => simp only [encode, payload]; rfl
  | map entries => exact hframed.elim

theorem Framed.length_payload {value : Cbor} (hframed : value.Framed) :
    value.payload.length = if value.major = 2 ∨ value.major = 3 then value.number else 0 := by
  cases value with
  | integer value =>
      simp only [payload, major]
      split <;> simp
  | map entries => exact hframed.elim
  | _ => simp [payload, major, number]

theorem integer_parts (value : Int) :
    (integer value).major < 2 ∧
      value = if (integer value).major = 0 then ((integer value).number : Int)
        else -1 - (integer value).number := by
  by_cases hvalue : 0 ≤ value
  · simp only [major, number, hvalue, if_true]
    omega
  · simp only [major, number, hvalue, if_false]
    omega

theorem Framed.eq_of_parts {left right : Cbor} (hleft : left.Framed) (hright : right.Framed)
    (hmajor : left.major = right.major) (hnumber : left.number = right.number)
    (hpayload : left.payload = right.payload) : left = right := by
  cases left with
  | integer value =>
      obtain ⟨hsmall, hvalue⟩ := integer_parts value
      cases right with
      | integer other =>
          obtain ⟨_, hother⟩ := integer_parts other
          rw [hvalue, hother, hmajor, hnumber]
      | _ =>
          rw [hmajor] at hsmall
          simp [major] at hsmall
  | map entries => exact hleft.elim
  | _ =>
      cases right with
      | integer other =>
          have hsmall := (integer_parts other).1
          rw [← hmajor] at hsmall
          simp [major] at hsmall
      | _ => simp_all [Framed, major, payload, Text.bytes_inj]

theorem Framed.encode_append_inj {left right : Cbor} {back rest : List UInt8}
    (hleft : left.Framed) (hright : right.Framed)
    (hbytes : left.encode ++ back = right.encode ++ rest) : left = right ∧ back = rest := by
  rw [hleft.encode_eq, hright.encode_eq, List.append_assoc, List.append_assoc] at hbytes
  obtain ⟨hmajor, hnumber, htail⟩ := head_append_inj (major_lt left) (major_lt right)
    hleft.number_lt hright.number_lt hbytes
  have hlength : left.payload.length = right.payload.length := by
    rw [hleft.length_payload, hright.length_payload, hmajor, hnumber]
  obtain ⟨hpayload, hrest⟩ := List.append_inj htail hlength
  exact ⟨hleft.eq_of_parts hright hmajor hnumber hpayload, hrest⟩

end Cbor
end Signoff
