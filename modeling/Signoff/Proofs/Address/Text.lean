import Signoff.Address.Text
import Signoff.Text.Split

namespace Signoff

namespace Address

theorem digitValue?_digitChar {radix value : Nat} (hvalue : value < radix) (hradix : radix ≤ 16) :
    digitValue? radix value.digitChar = some value := by
  have hdigits : ∀ digit < 16,
      ('0' ≤ digit.digitChar ∧ digit.digitChar ≤ '9' ∧ digit.digitChar.toNat - 48 = digit) ∨
      (¬ ('0' ≤ digit.digitChar ∧ digit.digitChar ≤ '9') ∧ 'a' ≤ digit.digitChar ∧
        digit.digitChar ≤ 'z' ∧ digit.digitChar.toNat - 87 = digit) := by decide
  rcases hdigits value (by omega) with ⟨hlow, hhigh, heq⟩ | ⟨hdecimal, hlow, hhigh, heq⟩
  · simp [digitValue?, hlow, hhigh, heq, hvalue]
  · simp only [digitValue?, hdecimal, if_false, hlow, hhigh, and_self, if_true, heq, hvalue]

theorem ofDigits_concat (radix : Nat) (front : List Nat) (digit : Nat) :
    ofDigits radix (front ++ [digit]) = ofDigits radix front * radix + digit := by
  simp [ofDigits]

theorem mem_toDigits {radix value : Nat} {char : Char} (hradix : 1 < radix)
    (hchar : char ∈ Nat.toDigits radix value) : ∃ digit < radix, char = digit.digitChar := by
  induction value using Nat.strongRecOn with
  | ind value ih =>
      by_cases hsmall : value < radix
      · rw [Nat.toDigits_of_lt_base hsmall, List.mem_singleton] at hchar
        exact ⟨value, hsmall, hchar⟩
      · rw [Nat.toDigits_of_base_le hradix (Nat.not_lt.mp hsmall), List.mem_append,
          List.mem_singleton] at hchar
        rcases hchar with hfront | hlast
        · exact ih (value / radix) (Nat.div_lt_self (by omega) hradix) hfront
        · exact ⟨value % radix, Nat.mod_lt _ (by omega), hlast⟩

theorem ofDigits_toDigits {radix : Nat} (value : Nat) (hradix : 1 < radix) (hbound : radix ≤ 16) :
    ofDigits radix ((Nat.toDigits radix value).filterMap (digitValue? radix)) = value := by
  induction value using Nat.strongRecOn with
  | ind value ih =>
      by_cases hsmall : value < radix
      · rw [Nat.toDigits_of_lt_base hsmall]
        simp [digitValue?_digitChar hsmall hbound, ofDigits]
      · have hlast : value % radix < radix := Nat.mod_lt _ (by omega)
        rw [Nat.toDigits_of_base_le hradix (Nat.not_lt.mp hsmall), List.filterMap_append,
          List.filterMap_cons_some (digitValue?_digitChar hlast hbound), List.filterMap_nil,
          ofDigits_concat, ih (value / radix) (Nat.div_lt_self (by omega) hradix)]
        rw [Nat.mul_comm]
        exact Nat.div_add_mod value radix

theorem head?_toDigits {radix value : Nat} (hradix : 1 < radix) (hvalue : 0 < value) :
    (Nat.toDigits radix value).head? ≠ some '0' := by
  induction value using Nat.strongRecOn with
  | ind value ih =>
      by_cases hsmall : value < radix
      · rw [Nat.toDigits_of_lt_base hsmall]
        simp
        omega
      · have hle := Nat.not_lt.mp hsmall
        have hfront := ih (value / radix) (Nat.div_lt_self hvalue hradix)
          (Nat.div_pos hle (by omega))
        rw [Nat.toDigits_of_base_le hradix hle, List.head?_append]
        cases hhead : (Nat.toDigits radix (value / radix)).head? with
        | none => exact absurd (List.head?_eq_none_iff.mp hhead) Nat.toDigits_ne_nil
        | some char =>
            rw [hhead] at hfront
            exact hfront

/-- What may follow a number without becoming part of it. -/
def EndsNumber (radix : Nat) (rest : List Char) : Prop :=
  ∀ char ∈ rest.head?, digitValue? radix char = none

theorem readNumber_toDigits {radix maximum limit value : Nat} {zeroFirst : Bool} {rest : List Char}
    (hradix : 1 < radix) (hbound : radix ≤ 16)
    (hlength : (Nat.toDigits radix value).length ≤ maximum) (hlimit : value < limit)
    (hrest : EndsNumber radix rest) :
    readNumber radix maximum limit zeroFirst (Nat.toDigits radix value ++ rest) =
      some (value, rest) := by
  have hall : ∀ char ∈ Nat.toDigits radix value, (digitValue? radix char).isSome = true := by
    intro char hchar
    obtain ⟨digit, hdigit, rfl⟩ := mem_toDigits hradix hchar
    rw [digitValue?_digitChar hdigit hbound]
    rfl
  have hstop : rest.takeWhile (fun char => (digitValue? radix char).isSome) = [] := by
    cases rest with
    | nil => rfl
    | cons char rest => simp [hrest char rfl]
  have hdigits : (Nat.toDigits radix value ++ rest).takeWhile
      (fun char => (digitValue? radix char).isSome) = Nat.toDigits radix value := by
    rw [List.takeWhile_append_of_pos hall, hstop, List.append_nil]
  have hzero : ¬ (1 < (Nat.toDigits radix value).length ∧
      (Nat.toDigits radix value).head? = some '0') := by
    rintro ⟨hlong, hhead⟩
    cases value with
    | zero => simp at hlong
    | succ value => exact head?_toDigits hradix (Nat.succ_pos value) hhead
  have hcount : ¬ maximum < (Nat.toDigits radix value).length :=
    Nat.not_lt.mpr hlength
  have hnonempty : (Nat.toDigits radix value).isEmpty = false := by simp
  simp only [readNumber, hdigits, ofDigits_toDigits value hradix hbound]
  simp [hnonempty, hcount, Nat.not_le.mpr hlimit]
  intro _ hlong hhead
  exact hzero ⟨hlong, hhead⟩

theorem endsNumber_cons {radix : Nat} {char : Char} (hchar : digitValue? radix char = none)
    (rest : List Char) : EndsNumber radix (char :: rest) := by
  intro other hother
  rw [List.head?_cons, Option.mem_some_iff] at hother
  rw [← hother]
  exact hchar

theorem endsNumber_nil (radix : Nat) : EndsNumber radix [] := by
  simp [EndsNumber]

theorem readOctet_toDigits {value : Nat} {rest : List Char} (hvalue : value < 256)
    (hrest : EndsNumber 10 rest) :
    readOctet (Nat.toDigits 10 value ++ rest) = some (value, rest) := by
  have hlength : (Nat.toDigits 10 value).length ≤ 3 :=
    (Nat.length_toDigits_le_iff (by decide) (by decide)).mpr (by omega)
  exact readNumber_toDigits (by decide) (by decide) hlength hvalue hrest

theorem ofOctets_octets (bits : BitVec 32) : ofOctets (octets bits) = bits := by
  have hbits := bits.isLt
  apply BitVec.eq_of_toNat_eq
  simp only [ofOctets, octets, octet, ofDigits, List.range, List.range.loop, List.map_cons,
    List.map_nil, List.foldl_cons, List.foldl_nil, BitVec.toNat_ofNat, Nat.shiftRight_eq_div_pow]
  omega

theorem readV4_dotted (bits : BitVec 32) :
    readV4 (dotted bits).toList = some (bits, []) := by
  have hoctet (index : Nat) : octet bits index < 256 := Nat.mod_lt _ (by decide)
  have hdot (rest : List Char) : EndsNumber 10 ('.' :: rest) := endsNumber_cons (by decide) rest
  have htext : (dotted bits).toList =
      Nat.toDigits 10 (octet bits 0) ++ '.' :: (Nat.toDigits 10 (octet bits 1) ++ '.' ::
        (Nat.toDigits 10 (octet bits 2) ++ '.' :: Nat.toDigits 10 (octet bits 3))) := by
    simp [dotted, octets, decimal, List.range, List.range.loop]
  have hlast := readOctet_toDigits (hoctet 3) (endsNumber_nil 10)
  rw [List.append_nil] at hlast
  rw [htext]
  simp [readV4, readOctet_toDigits (hoctet _) (hdot _), hlast, readChar]
  exact ofOctets_octets bits

def colonChars : (separated : Bool) → List Nat → List Char
  | _, [] => []
  | true, value :: rest => ':' :: (Nat.toDigits 16 value ++ colonChars true rest)
  | false, value :: rest => Nat.toDigits 16 value ++ colonChars true rest

theorem toList_colonSeparated (values : List Nat) :
    (colonSeparated values).toList = colonChars false values := by
  have htail (first : Nat) (rest : List Nat) :
      (colonSeparated (first :: rest)).toList =
        Nat.toDigits 16 first ++ colonChars true rest := by
    induction rest generalizing first with
    | nil => simp [colonSeparated, hexadecimal, colonChars]
    | cons second rest ih =>
        have hrest := ih second
        simp only [colonSeparated, List.map_cons, String.intercalate_cons_cons,
          String.toList_append] at hrest ⊢
        rw [hrest]
        simp [hexadecimal, colonChars]
  cases values with
  | nil => simp [colonSeparated, colonChars]
  | cons first rest => exact htail first rest

def NoDigit (char : Char) : Prop := ∀ digit < 16, char ≠ digit.digitChar

theorem NoDigit.not_mem_toDigits {char : Char} (hchar : NoDigit char) {radix : Nat}
    (hradix : 1 < radix) (hbound : radix ≤ 16) (value : Nat) : char ∉ Nat.toDigits radix value := by
  intro hmem
  obtain ⟨digit, hdigit, heq⟩ := mem_toDigits hradix hmem
  exact hchar digit (by omega) heq

theorem NoDigit.not_mem_colonChars {char : Char} (hchar : NoDigit char) (hcolon : char ≠ ':')
    (separated : Bool) (values : List Nat) : char ∉ colonChars separated values := by
  have hdigits (value : Nat) : char ∉ Nat.toDigits 16 value :=
    hchar.not_mem_toDigits (by decide) (by decide) value
  induction values generalizing separated with
  | nil => simp [colonChars]
  | cons value rest ih =>
      cases separated with
      | true => simp [colonChars, hdigits, ih, hcolon]
      | false => simp [colonChars, hdigits, ih]

theorem noDigit_dot : NoDigit '.' := by
  unfold NoDigit
  decide

theorem mem_of_readChar {expected : Char} {chars rest : List Char}
    (hread : readChar expected chars = some rest) : chars = expected :: rest := by
  cases chars with
  | nil => simp [readChar] at hread
  | cons char others =>
      simp only [readChar] at hread
      split at hread
      · next heq => rw [heq, Option.some.inj hread]
      · cases hread

theorem readNumber_eq_some {radix maximum limit value : Nat} {zeroFirst : Bool}
    {chars rest : List Char}
    (hread : readNumber radix maximum limit zeroFirst chars = some (value, rest)) :
    ∃ digits, digits ≠ [] ∧ chars = digits ++ rest ∧
      ∀ char ∈ digits, (digitValue? radix char).isSome = true := by
  obtain ⟨back, hback⟩ := List.takeWhile_prefix (fun char => (digitValue? radix char).isSome)
    (l := chars)
  have hall := List.all_takeWhile (p := fun char => (digitValue? radix char).isSome) (l := chars)
  simp only [readNumber] at hread
  generalize chars.takeWhile (fun char => (digitValue? radix char).isSome) = digits
    at hback hall hread
  subst hback
  refine ⟨digits, ?_, ?_, List.all_eq_true.mp hall⟩
  · rintro rfl
    simp at hread
  · rw [List.drop_left] at hread
    split at hread
    · cases hread
    · split at hread
      · cases hread
      · split at hread
        · cases hread
        · cases hread
          rfl

theorem readNumber_eq_none {radix maximum limit : Nat} {zeroFirst : Bool} {rest : List Char}
    (hrest : EndsNumber radix rest) : readNumber radix maximum limit zeroFirst rest = none := by
  cases rest with
  | nil => simp [readNumber]
  | cons char rest => simp [readNumber, hrest char rfl]

/-- An address in dotted form ends in a dot and digits. -/
theorem readV4_eq_some {chars rest : List Char} {bits : BitVec 32}
    (hread : readV4 chars = some (bits, rest)) :
    ∃ front last, last ≠ [] ∧ chars = front ++ '.' :: (last ++ rest) ∧
      ∀ char ∈ last, (digitValue? 10 char).isSome = true := by
  simp only [readV4, Option.bind_eq_bind, Option.bind_eq_some_iff, Prod.exists,
    Option.pure_def, Option.some.injEq, Prod.mk.injEq] at hread
  obtain ⟨a, restA, hreadA, dotA, hdotA, b, restB, hreadB, dotB, hdotB, c, restC, hreadC, dotC,
    hdotC, d, restD, hreadD, _, rfl⟩ := hread
  obtain ⟨digitsA, _, rfl, _⟩ := readNumber_eq_some hreadA
  obtain ⟨digitsB, _, rfl, _⟩ := readNumber_eq_some hreadB
  obtain ⟨digitsC, _, rfl, _⟩ := readNumber_eq_some hreadC
  obtain ⟨digitsD, hlast, rfl, hdigits⟩ := readNumber_eq_some hreadD
  rw [mem_of_readChar hdotA, mem_of_readChar hdotB, mem_of_readChar hdotC]
  exact ⟨digitsA ++ '.' :: (digitsB ++ '.' :: digitsC), digitsD, hlast, by simp, hdigits⟩

theorem readV4_eq_none {chars : List Char} (hdot : '.' ∉ chars) : readV4 chars = none := by
  cases hread : readV4 chars with
  | none => rfl
  | some found =>
      obtain ⟨front, last, _, rfl, _⟩ := readV4_eq_some hread
      simp at hdot

def EndsSegments (rest : List Char) : Prop :=
  rest = [] ∨ ∃ back, rest = ':' :: ':' :: back

theorem endsNumber_colonChars {values : List Nat} {rest : List Char} (hrest : EndsSegments rest) :
    EndsNumber 16 (colonChars true values ++ rest) := by
  have hcolon (back : List Char) : EndsNumber 16 (':' :: back) := endsNumber_cons (by decide) back
  cases values with
  | nil =>
      rcases hrest with rfl | ⟨back, rfl⟩
      · exact endsNumber_nil 16
      · exact hcolon _
  | cons value values => exact hcolon _

theorem readSegments_nil {room : Nat} {separated : Bool} {rest : List Char} (hdot : '.' ∉ rest)
    (hrest : EndsSegments rest) : readSegments room separated rest = ⟨[], false, rest⟩ := by
  cases room with
  | zero => rfl
  | succ room =>
      have hcolon (back : List Char) : EndsNumber 16 (':' :: back) :=
        endsNumber_cons (by decide) back
      rcases hrest with rfl | ⟨back, rfl⟩
      · cases separated with
        | true => rfl
        | false => simp [readSegments, readV4_eq_none, readNumber_eq_none (endsNumber_nil 16)]
      · cases separated with
        | true =>
            have hdotNext : '.' ∉ ':' :: back := fun hmem => hdot (List.mem_cons_of_mem _ hmem)
            simp [readSegments, readChar, readV4_eq_none hdotNext, readNumber_eq_none (hcolon _)]
        | false =>
            simp [readSegments, readV4_eq_none hdot, readNumber_eq_none (hcolon _)]

theorem readSegments_colonChars {room : Nat} {separated : Bool} {values : List Nat}
    {rest : List Char} (hroom : values.length ≤ room) (hvalues : ∀ value ∈ values, value < 65536)
    (hdot : '.' ∉ rest) (hrest : EndsSegments rest) :
    readSegments room separated (colonChars separated values ++ rest) = ⟨values, false, rest⟩ := by
  induction values generalizing room separated with
  | nil => exact readSegments_nil hdot hrest
  | cons value values ih =>
      cases room with
      | zero => simp at hroom
      | succ room =>
          have hmore : readSegments room true (colonChars true values ++ rest) =
              ⟨values, false, rest⟩ :=
            ih (by simpa using hroom) fun other hother => hvalues other (by simp [hother])
          have hnumber : readNumber 16 4 65536 true
              (Nat.toDigits 16 value ++ (colonChars true values ++ rest)) =
                some (value, colonChars true values ++ rest) :=
            readNumber_toDigits (by decide) (by decide)
              ((Nat.length_toDigits_le_iff (by decide) (by decide)).mpr (hvalues value (by simp)))
              (hvalues value (by simp)) (endsNumber_colonChars hrest)
          have hdotNext :
              '.' ∉ Nat.toDigits 16 value ++ (colonChars true values ++ rest) := by
            have hnone := noDigit_dot.not_mem_colonChars (by decide) false (value :: values)
            rw [← List.append_assoc, List.mem_append, not_or]
            exact ⟨hnone, hdot⟩
          cases separated with
          | true =>
              simp [readSegments, colonChars, readChar, readV4_eq_none hdotNext, hnumber, hmore]
          | false =>
              simp [readSegments, colonChars, readV4_eq_none hdotNext, hnumber, hmore]

theorem longestZeros_le (segments : List Nat) :
    (longestZeros segments).2 ≤ zerosFrom segments (longestZeros segments).1 := by
  have hfold (starts : List Nat) (best : Nat × Nat) (hbest : best.2 ≤ zerosFrom segments best.1) :
      let found := starts.foldl (fun best start =>
        if best.2 < zerosFrom segments start then (start, zerosFrom segments start) else best) best
      found.2 ≤ zerosFrom segments found.1 := by
    induction starts generalizing best with
    | nil => exact hbest
    | cons start starts ih =>
        simp only [List.foldl_cons]
        split
        · exact ih _ (Nat.le_refl _)
        · exact ih _ hbest
  exact hfold _ _ (Nat.zero_le _)

theorem take_eq_replicate {segments : List Nat} {count : Nat}
    (hcount : count ≤ (segments.takeWhile (· == 0)).length) :
    segments.take count = List.replicate count 0 := by
  have htaken := List.prefix_iff_eq_take.mp (List.takeWhile_prefix (l := segments) (· == 0))
  apply List.eq_replicate_iff.mpr
  constructor
  · have hle := (List.takeWhile_prefix (l := segments) (· == 0)).length_le
    simp
    omega
  · intro value hvalue
    have hmem : value ∈ segments.takeWhile (· == 0) := by
      rw [htaken]
      exact (List.take_subset_take_left segments hcount) hvalue
    have hall := List.all_eq_true.mp (List.all_takeWhile (p := (· == 0)) (l := segments)) value hmem
    exact beq_iff_eq.mp hall

theorem segments_eq_of_zerosFrom {segments : List Nat} {start count : Nat}
    (hcount : count ≤ zerosFrom segments start) :
    segments = segments.take start ++ List.replicate count 0 ++ segments.drop (start + count) := by
  have hzeros := take_eq_replicate hcount
  have hdrop : segments.drop start =
      List.replicate count 0 ++ segments.drop (start + count) := by
    rw [← hzeros, ← List.drop_drop, List.take_append_drop]
  rw [List.append_assoc, ← hdrop, List.take_append_drop]

theorem ofSegments_segments (bits : BitVec 128) : ofSegments (segments bits) = bits := by
  have hbits := bits.isLt
  apply BitVec.eq_of_toNat_eq
  simp only [ofSegments, segments, segment, ofDigits, List.range, List.range.loop, List.map_cons,
    List.map_nil, List.foldl_cons, List.foldl_nil, BitVec.toNat_ofNat, Nat.shiftRight_eq_div_pow]
  omega

theorem readV6_whole {values : List Nat} (hvalues : ∀ value ∈ values, value < 65536)
    (hlength : values.length = 8) :
    readV6 (colonChars false values) = some (ofSegments values, []) := by
  have hread : readSegments 8 false (colonChars false values ++ []) = ⟨values, false, []⟩ :=
    readSegments_colonChars (Nat.le_of_eq hlength) hvalues (by simp) (.inl rfl)
  rw [List.append_nil] at hread
  simp [readV6, hread, hlength]

theorem readV6_gap {front back : List Nat} (hfront : ∀ value ∈ front, value < 65536)
    (hback : ∀ value ∈ back, value < 65536) (hroom : front.length + back.length ≤ 7) :
    readV6 (colonChars false front ++ ':' :: ':' :: colonChars false back) =
      some (ofSegments (front ++ List.replicate (8 - front.length - back.length) 0 ++ back),
        []) := by
  have hdot : '.' ∉ ':' :: ':' :: colonChars false back := by
    simpa using noDigit_dot.not_mem_colonChars (by decide) false back
  have hreadFront : readSegments 8 false
      (colonChars false front ++ ':' :: ':' :: colonChars false back) =
        ⟨front, false, ':' :: ':' :: colonChars false back⟩ :=
    readSegments_colonChars (by omega) hfront hdot (.inr ⟨_, rfl⟩)
  have hreadBack : readSegments (7 - front.length) false (colonChars false back ++ []) =
      ⟨back, false, []⟩ :=
    readSegments_colonChars (by omega) hback (by simp) (.inl rfl)
  rw [List.append_nil] at hreadBack
  have hlength : front.length ≠ 8 := by omega
  simp [readV6, hreadFront, hlength, readChar, hreadBack]

theorem readV6_compressed (bits : BitVec 128) :
    readV6 (compressed (segments bits)).toList = some (bits, []) := by
  have hlength : (segments bits).length = 8 := rfl
  have hvalues : ∀ value ∈ segments bits, value < 65536 := by
    intro value hvalue
    obtain ⟨index, _, rfl⟩ := List.mem_map.mp hvalue
    exact Nat.mod_lt _ (by decide)
  have hbits := ofSegments_segments bits
  generalize segments bits = values at hlength hvalues hbits
  have hzeros := longestZeros_le values
  simp only [compressed]
  generalize (longestZeros values).1 = start at hzeros
  generalize (longestZeros values).2 = count at hzeros
  split
  · next hcount =>
      have hsplit := segments_eq_of_zerosFrom hzeros
      have hsum := congrArg List.length hsplit
      simp only [List.length_append, List.length_replicate, hlength] at hsum
      have htext : (colonSeparated (values.take start) ++ "::" ++
          colonSeparated (values.drop (start + count))).toList =
            colonChars false (values.take start) ++ ':' :: ':' ::
              colonChars false (values.drop (start + count)) := by
        simp [toList_colonSeparated]
      have hgap : 8 - (values.take start).length - (values.drop (start + count)).length =
          count := by omega
      rw [htext, readV6_gap (fun value hvalue => hvalues value (List.mem_of_mem_take hvalue))
        (fun value hvalue => hvalues value (List.mem_of_mem_drop hvalue)) (by omega), hgap,
        ← hsplit, hbits]
  · rw [toList_colonSeparated, readV6_whole hvalues hlength, hbits]

theorem NoDigit.not_mem_compressed {char : Char} (hchar : NoDigit char) (hcolon : char ≠ ':')
    (values : List Nat) : char ∉ (compressed values).toList := by
  have hnone (values : List Nat) : char ∉ (colonSeparated values).toList := by
    rw [toList_colonSeparated]
    exact hchar.not_mem_colonChars hcolon false values
  simp only [compressed]
  split
  · simp [hnone, hcolon]
  · exact hnone values

theorem NoDigit.not_mem_dotted {char : Char} (hchar : NoDigit char) (hdot : char ≠ '.')
    (bits : BitVec 32) : char ∉ (dotted bits).toList := by
  have hnone (value : Nat) : char ∉ Nat.toDigits 10 value :=
    hchar.not_mem_toDigits (by decide) (by decide) value
  simp [dotted, octets, decimal, List.range, List.range.loop, hnone, hdot]

theorem parse?_dotted (bits : BitVec 32) : parse? (dotted bits) = some (.v4 bits) := by
  simp [parse?, readV4_dotted]

theorem parse?_compressed (bits : BitVec 128) :
    parse? (compressed (segments bits)) = some (.v6 bits) := by
  have hdot := readV4_eq_none (noDigit_dot.not_mem_compressed (by decide) (segments bits))
  simp [parse?, hdot, readV6_compressed]

theorem readV6_eq_none {chars : List Char} (hcolon : ':' ∉ chars) : readV6 chars = none := by
  have hread {rest : List Char} (hrest : ':' ∉ rest) : readChar ':' rest = none := by
    cases hfound : readChar ':' rest with
    | none => rfl
    | some back =>
        rw [mem_of_readChar hfound] at hrest
        simp at hrest
  have hfront : (readSegments 8 false chars).values.length ≠ 8 ∧
      ((readSegments 8 false chars).dotted = true ∨
        readChar ':' (readSegments 8 false chars).rest = none) := by
    cases hdotted : readV4 chars with
    | some found => simp [readSegments, hdotted]
    | none =>
        cases hnumber : readNumber 16 4 65536 true chars with
        | none => simp [readSegments, hdotted, hnumber, hread hcolon]
        | some found =>
            obtain ⟨value, rest⟩ := found
            obtain ⟨digits, _, rfl, _⟩ := readNumber_eq_some hnumber
            have hrest : ':' ∉ rest := fun hmem => hcolon (List.mem_append_right _ hmem)
            simp [readSegments, hdotted, hnumber, hread hrest]
  obtain ⟨hlength, hdotted | hnone⟩ := hfront
  · simp [readV6, hlength, hdotted]
  · simp [readV6, hlength, hnone]

end Address

end Signoff
