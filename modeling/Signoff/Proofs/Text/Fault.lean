import Mathlib.Data.List.Forall2
import Signoff.Proofs.Text.Bytes
import Signoff.Text.Fault

namespace Signoff.Text

/-! Faults are found exactly in what is no text. A first byte tells which others may follow it, and
these are the ones that go with it in the code of a character. -/

theorem utf8EncodeChar_ofNat {code : Nat} (hvalid : code.isValidChar) :
    String.utf8EncodeChar (Char.ofNat code) =
      if code ≤ 0x7f then [UInt8.ofNat code]
      else if code ≤ 0x7ff then
        [UInt8.ofNat (code / 64 % 0x20 + 0xc0), UInt8.ofNat (code % 0x40 + 0x80)]
      else if code ≤ 0xffff then
        [UInt8.ofNat (code / 4096 % 0x10 + 0xe0), UInt8.ofNat (code / 64 % 0x40 + 0x80),
          UInt8.ofNat (code % 0x40 + 0x80)]
      else
        [UInt8.ofNat (code / 262144 % 0x08 + 0xf0), UInt8.ofNat (code / 4096 % 0x40 + 0x80),
          UInt8.ofNat (code / 64 % 0x40 + 0x80), UInt8.ofNat (code % 0x40 + 0x80)] := by
  have hcode : (Char.ofNat code).val.toNat = code := toNat_ofNat hvalid
  rw [String.utf8EncodeChar, hcode]

namespace Fault

def Within (span : Span) (byte : UInt8) : Prop := span.1 ≤ byte ∧ byte ≤ span.2

theorem within_iff {least greatest byte : UInt8} :
    Within (least, greatest) byte ↔
      least.toNat ≤ byte.toNat ∧ byte.toNat ≤ greatest.toNat := by
  rw [Within, UInt8.le_iff_toNat_le, UInt8.le_iff_toNat_le]

def Inner (byte : UInt8) : Prop := 0x80 ≤ byte.toNat ∧ byte.toNat ≤ 0xbf

/-- A second byte that makes no character of what has a shorter form, is half of a pair, or is past
the last one. -/
def Second (first second : UInt8) : Prop :=
  Inner second ∧ (first.toNat = 0xe0 → 0xa0 ≤ second.toNat) ∧
    (first.toNat = 0xed → second.toNat ≤ 0x9f) ∧ (first.toNat = 0xf0 → 0x90 ≤ second.toNat) ∧
      (first.toNat = 0xf4 → second.toNat ≤ 0x8f)

/-- A first byte and the others that it asks for. -/
def Begins (first : UInt8) (rest : List UInt8) : Prop :=
  ∃ spans, others? first = some spans ∧ List.Forall₂ Within spans rest

variable {first : UInt8} {rest : List UInt8}

theorem begins_of_spans {spans : List Span} (hspans : others? first = some spans) :
    Begins first rest ↔ List.Forall₂ Within spans rest := by
  simp [Begins, hspans]

theorem others?_eq (first : UInt8) :
    others? first =
      if first.toNat < 0x80 then some []
      else if first.toNat < 0xc2 then none
      else if first.toNat < 0xe0 then some [anyNext]
      else if first.toNat = 0xe0 then some [(0xa0, 0xbf), anyNext]
      else if first.toNat = 0xed then some [(0x80, 0x9f), anyNext]
      else if first.toNat < 0xf0 then some [anyNext, anyNext]
      else if first.toNat = 0xf0 then some [(0x90, 0xbf), anyNext, anyNext]
      else if first.toNat < 0xf4 then some [anyNext, anyNext, anyNext]
      else if first.toNat = 0xf4 then some [(0x80, 0x8f), anyNext, anyNext]
      else none := by
  simp only [others?, UInt8.lt_iff_toNat_lt, ← UInt8.toNat_inj]
  rfl

theorem begins_one_iff (hgreatest : first.toNat < 0x80) : Begins first rest ↔ rest = [] := by
  have hspans : others? first = some [] := by rw [others?_eq, if_pos hgreatest]
  rw [begins_of_spans hspans, List.forall₂_nil_left_iff]

theorem begins_two_iff (hleast : 0xc2 ≤ first.toNat) (hgreatest : first.toNat < 0xe0) :
    Begins first rest ↔ ∃ second, Inner second ∧ rest = [second] := by
  have hspans : others? first = some [anyNext] := by
    rw [others?_eq, if_neg (by omega), if_neg (by omega), if_pos hgreatest]
  rw [begins_of_spans hspans]
  simp [List.forall₂_cons_left_iff, anyNext, within_iff, Inner]

theorem begins_three_iff (hleast : 0xe0 ≤ first.toNat) (hgreatest : first.toNat < 0xf0) :
    Begins first rest ↔
      ∃ second third, Second first second ∧ Inner third ∧ rest = [second, third] := by
  obtain ⟨least, greatest, hspans, hsecond⟩ : ∃ least greatest,
      others? first = some [(least, greatest), anyNext] ∧
        ∀ second, Within (least, greatest) second ↔ Second first second := by
    rw [others?_eq, if_neg (by omega), if_neg (by omega), if_neg (by omega)]
    simp only [within_iff, Second, Inner]
    split
    · exact ⟨_, _, rfl, fun second => by simp only [UInt8.reduceToNat]; omega⟩
    split
    · exact ⟨_, _, rfl, fun second => by simp only [UInt8.reduceToNat]; omega⟩
    · exact ⟨_, _, rfl, fun second => by simp only [UInt8.reduceToNat]; omega⟩
  rw [begins_of_spans hspans]
  simp [List.forall₂_cons_left_iff, anyNext, within_iff, Inner, ← hsecond]

theorem begins_four_iff (hleast : 0xf0 ≤ first.toNat) (hgreatest : first.toNat ≤ 0xf4) :
    Begins first rest ↔
      ∃ second third fourth, Second first second ∧ Inner third ∧ Inner fourth ∧
        rest = [second, third, fourth] := by
  obtain ⟨least, greatest, hspans, hsecond⟩ : ∃ least greatest,
      others? first = some [(least, greatest), anyNext, anyNext] ∧
        ∀ second, Within (least, greatest) second ↔ Second first second := by
    rw [others?_eq, if_neg (by omega), if_neg (by omega), if_neg (by omega), if_neg (by omega),
      if_neg (by omega), if_neg (by omega)]
    simp only [within_iff, Second, Inner]
    split
    · exact ⟨_, _, rfl, fun second => by simp only [UInt8.reduceToNat]; omega⟩
    split
    · exact ⟨_, _, rfl, fun second => by simp only [UInt8.reduceToNat]; omega⟩
    · rw [if_pos (by omega)]
      exact ⟨_, _, rfl, fun second => by simp only [UInt8.reduceToNat]; omega⟩
  rw [begins_of_spans hspans]
  simp [List.forall₂_cons_left_iff, anyNext, within_iff, Inner, ← hsecond, and_assoc]

theorem not_begins (hbetween : 0x80 ≤ first.toNat ∧ first.toNat < 0xc2 ∨ 0xf4 < first.toNat) :
    ¬ Begins first rest := by
  have hspans : others? first = none := by
    rw [others?_eq, if_neg (by omega)]
    split
    · rfl
    · rw [if_neg (by omega), if_neg (by omega), if_neg (by omega), if_neg (by omega),
        if_neg (by omega), if_neg (by omega), if_neg (by omega)]
  simp [Begins, hspans]

theorem toNat_eq {code : Nat} {byte : UInt8} (hbyte : UInt8.ofNat code = byte)
    (hcode : code < 256) : byte.toNat = code :=
  hbyte ▸ UInt8.toNat_ofNat_of_lt hcode

theorem ofNat_eq {code : Nat} (byte : UInt8) (hcode : code = byte.toNat) :
    UInt8.ofNat code = byte := by
  rw [hcode, UInt8.ofNat_toNat]

theorem inner_ofNat (code : Nat) : Inner (UInt8.ofNat (code % 0x40 + 0x80)) := by
  rw [Inner, toNat_eq rfl (by omega)]
  omega

theorem begins_of_char {char : Char} (hbytes : String.utf8EncodeChar char = first :: rest) :
    Begins first rest := by
  have hvalid : char.val.toNat.isValidChar := char.valid
  rw [String.utf8EncodeChar] at hbytes
  generalize char.val.toNat = code at hvalid hbytes
  simp only [Nat.isValidChar] at hvalid
  split at hbytes
  · obtain ⟨hfirst, rfl⟩ := List.cons.inj hbytes
    have hfirst := toNat_eq hfirst (by omega)
    exact (begins_one_iff (by omega)).mpr rfl
  split at hbytes
  · obtain ⟨hfirst, rfl⟩ := List.cons.inj hbytes
    have hfirst := toNat_eq hfirst (by omega)
    exact (begins_two_iff (by omega) (by omega)).mpr ⟨_, inner_ofNat code, rfl⟩
  split at hbytes
  · obtain ⟨hfirst, rfl⟩ := List.cons.inj hbytes
    have hfirst := toNat_eq hfirst (by omega)
    refine (begins_three_iff (by omega) (by omega)).mpr
      ⟨_, _, ⟨inner_ofNat _, ?_⟩, inner_ofNat code, rfl⟩
    rw [toNat_eq rfl (by omega)]
    omega
  · obtain ⟨hfirst, rfl⟩ := List.cons.inj hbytes
    have hfirst := toNat_eq hfirst (by omega)
    refine (begins_four_iff (by omega) (by omega)).mpr
      ⟨_, _, _, ⟨inner_ofNat _, ?_⟩, inner_ofNat _, inner_ofNat code, rfl⟩
    rw [toNat_eq rfl (by omega)]
    omega

theorem char_of_begins (hbegins : Begins first rest) :
    ∃ char, String.utf8EncodeChar char = first :: rest := by
  by_cases hone : first.toNat < 0x80
  · obtain rfl := (begins_one_iff hone).mp hbegins
    refine ⟨Char.ofNat first.toNat, ?_⟩
    rw [utf8EncodeChar_ofNat (.inl (by omega)), if_pos (by omega), ofNat_eq first rfl]
  by_cases hbetween : first.toNat < 0xc2 ∨ 0xf4 < first.toNat
  · exact absurd hbegins (not_begins (by omega))
  by_cases htwo : first.toNat < 0xe0
  · obtain ⟨second, hsecond, rfl⟩ := (begins_two_iff (by omega) htwo).mp hbegins
    simp only [Inner] at hsecond
    refine ⟨Char.ofNat ((first.toNat - 0xc0) * 64 + (second.toNat - 0x80)), ?_⟩
    rw [utf8EncodeChar_ofNat (.inl (by omega)), if_neg (by omega), if_pos (by omega),
      ofNat_eq first (by omega), ofNat_eq second (by omega)]
  by_cases hthree : first.toNat < 0xf0
  · obtain ⟨second, third, hsecond, hthird, rfl⟩ :=
      (begins_three_iff (by omega) hthree).mp hbegins
    simp only [Second, Inner] at hsecond hthird
    refine ⟨Char.ofNat ((first.toNat - 0xe0) * 4096 + (second.toNat - 0x80) * 64 +
      (third.toNat - 0x80)), ?_⟩
    rw [utf8EncodeChar_ofNat (by simp only [Nat.isValidChar]; omega), if_neg (by omega),
      if_neg (by omega), if_pos (by omega), ofNat_eq first (by omega), ofNat_eq second (by omega),
      ofNat_eq third (by omega)]
  · obtain ⟨second, third, fourth, hsecond, hthird, hfourth, rfl⟩ :=
      (begins_four_iff (by omega) (by omega)).mp hbegins
    simp only [Second, Inner] at hsecond hthird hfourth
    refine ⟨Char.ofNat ((first.toNat - 0xf0) * 262144 + (second.toNat - 0x80) * 4096 +
      (third.toNat - 0x80) * 64 + (fourth.toNat - 0x80)), ?_⟩
    rw [utf8EncodeChar_ofNat (by simp only [Nat.isValidChar]; omega), if_neg (by omega),
      if_neg (by omega), if_neg (by omega), ofNat_eq first (by omega), ofNat_eq second (by omega),
      ofNat_eq third (by omega), ofNat_eq fourth (by omega)]

def encoded (chars : List Char) : List UInt8 := chars.flatMap String.utf8EncodeChar

theorem encoded_cons (char : Char) (chars : List Char) :
    encoded (char :: chars) = String.utf8EncodeChar char ++ encoded chars := List.flatMap_cons

/-- The rest of a character of which these bytes are expected, and whole characters after it. -/
def Continues (expected : List Span) (found : List UInt8) : Prop :=
  ∃ front chars, List.Forall₂ Within expected front ∧ found = front ++ encoded chars

namespace Continues

theorem nil : Continues [] [] := ⟨[], [], .nil, rfl⟩

theorem not_nil {span : Span} {later : List Span} : ¬ Continues (span :: later) [] := by
  rintro ⟨front, chars, hfront, hempty⟩
  obtain ⟨rfl, -⟩ := List.append_eq_nil_iff.mp hempty.symm
  cases hfront

theorem cons_iff {span : Span} {later : List Span} {byte : UInt8} :
    Continues (span :: later) (byte :: rest) ↔ Within span byte ∧ Continues later rest := by
  constructor
  · rintro ⟨_, chars, hfront, hfound⟩
    obtain ⟨_, front, hwithin, hlater, rfl⟩ := List.forall₂_cons_left_iff.mp hfront
    obtain ⟨rfl, rfl⟩ := List.cons.inj hfound
    exact ⟨hwithin, front, chars, hlater, rfl⟩
  · rintro ⟨hwithin, front, chars, hlater, rfl⟩
    exact ⟨byte :: front, chars, .cons hwithin hlater, rfl⟩

theorem of_first_iff :
    Continues [] (first :: rest) ↔
      ∃ spans, others? first = some spans ∧ Continues spans rest := by
  constructor
  · rintro ⟨_, chars, hfront, hfound⟩
    obtain rfl := List.forall₂_nil_left_iff.mp hfront
    cases chars with
    | nil => cases hfound
    | cons char chars =>
        rw [List.nil_append, encoded_cons] at hfound
        cases hbytes : String.utf8EncodeChar char with
        | nil =>
            have hlength := String.length_utf8EncodeChar char
            rw [hbytes] at hlength
            exact absurd hlength (Nat.ne_of_lt char.utf8Size_pos)
        | cons byte front =>
            rw [hbytes, List.cons_append] at hfound
            obtain ⟨rfl, rfl⟩ := List.cons.inj hfound
            obtain ⟨spans, hspans, hwithin⟩ := begins_of_char hbytes
            exact ⟨spans, hspans, front, chars, hwithin, rfl⟩
  · rintro ⟨spans, hspans, front, chars, hwithin, rfl⟩
    obtain ⟨char, hchar⟩ := char_of_begins ⟨spans, hspans, hwithin⟩
    refine ⟨[], char :: chars, .nil, ?_⟩
    rw [List.nil_append, encoded_cons, hchar, List.cons_append]

end Continues

theorem scan_eq_none_iff {start read : Nat} {expected : List Span} {found : List UInt8} :
    scan start read expected found = none ↔ Continues expected found := by
  induction found generalizing start read expected with
  | nil =>
      cases expected with
      | nil => exact iff_of_true rfl .nil
      | cons span later => exact iff_of_false (by simp [scan]) Continues.not_nil
  | cons byte rest ih =>
      cases expected with
      | nil =>
          rw [scan, Continues.of_first_iff]
          cases others? byte with
          | none => simp
          | some spans => simp [ih]
      | cons span later =>
          rw [scan, Continues.cons_iff, Within]
          split
          · next hwithin => simp [hwithin, ih]
          · next houtside => simp [houtside]

/-- What has no fault is a text, and a text has none. -/
theorem of?_eq_none_iff {found : List UInt8} :
    of? found = none ↔ ∃ text, bytes text = found := by
  have hbytes (chars : List Char) : bytes (String.ofList chars) = encoded chars := by
    rw [bytes_eq, String.toByteArray_ofList, List.utf8Encode, List.toList_data_toByteArray, encoded]
  rw [of?, scan_eq_none_iff]
  constructor
  · rintro ⟨front, chars, hfront, rfl⟩
    obtain rfl := List.forall₂_nil_left_iff.mp hfront
    exact ⟨_, hbytes chars⟩
  · rintro ⟨text, rfl⟩
    refine ⟨[], text.toList, .nil, ?_⟩
    rw [List.nil_append, ← hbytes, String.ofList_toList]

end Fault

end Signoff.Text
