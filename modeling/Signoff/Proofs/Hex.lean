import Signoff.Proofs.Checksum.Spelling
import Signoff.Proofs.Text.Bytes

namespace Signoff.Hex

theorem nibble?_table : ∀ code < 256,
    (nibble? (UInt8.ofNat code)).isSome = Checksum.isHexDigit (Char.ofNat code) ∧
    ∀ value ∈ nibble? (UInt8.ofNat code), value < 16 ∧ digit value = (Char.ofNat code).toLower := by
  decide +kernel

theorem isSome_nibble? (byte : UInt8) :
    (nibble? byte).isSome = Checksum.isHexDigit (Text.asciiChar byte) := by
  have htable := (nibble?_table byte.toNat byte.toNat_lt).1
  rwa [UInt8.ofNat_toNat] at htable

theorem digit_of_nibble? {byte : UInt8} {value : Nat} (hvalue : nibble? byte = some value) :
    value < 16 ∧ digit value = (Text.asciiChar byte).toLower := by
  have htable := (nibble?_table byte.toNat byte.toNat_lt).2
  rw [UInt8.ofNat_toNat] at htable
  exact htable value hvalue

theorem digit_inj : ∀ left < 16, ∀ right < 16, digit left = digit right → left = right := by
  decide +kernel

theorem toLower_digit : ∀ nibble < 16, (digit nibble).toLower = digit nibble := by
  decide +kernel

theorem nibble_eq_ok_iff {byte : UInt8} {position value : Nat} :
    nibble byte position = .ok value ↔ nibble? byte = some value := by
  rw [nibble]
  cases nibble? byte <;> simp

theorem digitsOf_inj {left right : List UInt8} (hsame : digitsOf left = digitsOf right) :
    left = right := by
  induction left generalizing right with
  | nil =>
      cases right with
      | nil => rfl
      | cons byte rest => cases hsame
  | cons byte rest ih =>
      cases right with
      | nil => cases hsame
      | cons other others =>
          have hbyte : byte.toNat < 256 := byte.toNat_lt
          have hother : other.toNat < 256 := other.toNat_lt
          simp only [digitsOf, List.cons.injEq] at hsame
          obtain ⟨hhigh, hlow, hrest⟩ := hsame
          have hquotient := digit_inj _ (by omega) _ (by omega) hhigh
          have hremainder := digit_inj _ (by omega) _ (by omega) hlow
          rw [ih hrest, UInt8.toNat_inj.mp (by omega : byte.toNat = other.toNat)]

theorem digitsOf_cons {high low : Nat} (hhigh : high < 16) (hlow : low < 16) (rest : List UInt8) :
    digitsOf (UInt8.ofNat (16 * high + low) :: rest) =
      digit high :: digit low :: digitsOf rest := by
  have hbound : 16 * high + low < 256 := by omega
  have hbyte : (UInt8.ofNat (16 * high + low)).toNat = 16 * high + low :=
    UInt8.toNat_ofNat_of_lt hbound
  have hquotient : (16 * high + low) / 16 = high := by omega
  have hremainder : (16 * high + low) % 16 = low := by omega
  rw [digitsOf, hbyte, hquotient, hremainder]

theorem decodeFrom_pair_iff {position : Nat} {high low : UInt8} {rest bytes : List UInt8} :
    decodeFrom position (high :: low :: rest) = .ok bytes ↔
      ∃ upper, nibble? high = some upper ∧ ∃ lower, nibble? low = some lower ∧
        ∃ tail, decodeFrom (position + 2) rest = .ok tail ∧
          UInt8.ofNat (16 * upper + lower) :: tail = bytes := by
  simp only [decodeFrom, bind_eq_ok_iff, nibble_eq_ok_iff, pure, Except.pure, Except.ok.injEq]

theorem digits_of_decodeFrom {position : Nat} {codes bytes : List UInt8}
    (hread : decodeFrom position codes = .ok bytes) :
    (codes.map Text.asciiChar).all Checksum.isHexDigit = true ∧
      digitsOf bytes = (codes.map Text.asciiChar).map Char.toLower := by
  induction position, codes using decodeFrom.induct generalizing bytes with
  | case1 position high low rest ih =>
      obtain ⟨upper, hupper, lower, hlower, tail, htail, rfl⟩ := decodeFrom_pair_iff.mp hread
      obtain ⟨hupperLt, hupperDigit⟩ := digit_of_nibble? hupper
      obtain ⟨hlowerLt, hlowerDigit⟩ := digit_of_nibble? hlower
      obtain ⟨hrest, hdigits⟩ := ih htail
      rw [digitsOf_cons hupperLt hlowerLt, hupperDigit, hlowerDigit, hdigits]
      simp [← isSome_nibble?, hupper, hlower, hrest]
  | case2 position byte => cases hread
  | case3 position => 
      cases hread
      exact ⟨rfl, rfl⟩

theorem decodeFrom_of_digits {position : Nat} {codes : List UInt8} (heven : codes.length % 2 = 0)
    (hdigits : (codes.map Text.asciiChar).all Checksum.isHexDigit = true) :
    ∃ bytes, decodeFrom position codes = .ok bytes := by
  induction position, codes using decodeFrom.induct with
  | case1 position high low rest ih =>
      have hrestEven : rest.length % 2 = 0 := by
        rw [List.length_cons, List.length_cons] at heven
        omega
      simp only [List.map_cons, List.all_cons, Bool.and_eq_true, ← isSome_nibble?,
        Option.isSome_iff_exists] at hdigits
      obtain ⟨⟨upper, hupper⟩, ⟨lower, hlower⟩, hrest⟩ := hdigits
      obtain ⟨tail, htail⟩ := ih hrestEven hrest
      exact ⟨_, decodeFrom_pair_iff.mpr ⟨upper, hupper, lower, hlower, tail, htail, rfl⟩⟩
  | case2 position byte => cases heven
  | case3 position => exact ⟨[], rfl⟩

theorem decode_eq_ok_iff {length : Nat} {text : String} {octets : Octets length} :
    decode length text = .ok octets ↔ (Text.bytes text).length = 2 * length ∧
      decodeFrom 0 (Text.bytes text) = .ok octets.bytes := by
  rw [decode]
  split
  · next hodd =>
      simp only [reduceCtorEq, false_iff, not_and]
      omega
  · split
    · next hlength =>
        simp only [reduceCtorEq, false_iff, not_and]
        omega
    · next heven hlength =>
        have hsize : (Text.bytes text).length = 2 * length := by omega
        simp only [hsize, true_and, bind_eq_ok_iff]
        constructor
        · rintro ⟨bytes, hread, hfit⟩
          split at hfit
          · next found hfound =>
              cases hfit
              rw [hread, Octets.ofList?_eq_some_iff.mp hfound]
          · cases hfit
        · intro hread
          exact ⟨octets.bytes, hread, by rw [Octets.ofList?_eq_some_iff.mpr rfl]⟩

theorem digits_of_decode {length : Nat} {text : String} {octets : Octets length}
    (hread : decode length text = .ok octets) :
    text.toList.length = 2 * length ∧ text.toList.all Checksum.isHexDigit = true ∧
      digitsOf octets.bytes = text.toList.map Char.toLower := by
  obtain ⟨hlength, hbytes⟩ := decode_eq_ok_iff.mp hread
  obtain ⟨hall, hdigits⟩ := digits_of_decodeFrom hbytes
  -- Nothing but ASCII has been read, so that the bytes are the characters.
  have hascii : ∀ byte ∈ Text.bytes text, byte.toNat < 0x80 := by
    intro byte hmem
    rw [← Text.toNat_asciiChar]
    exact Checksum.ascii_of_isHexDigit (List.all_eq_true.mp hall _ (List.mem_map_of_mem hmem))
  rw [← Text.map_asciiChar_of_bytes hascii, List.length_map]
  exact ⟨hlength, hall, hdigits⟩

theorem decode_of_digits {length : Nat} {text : String} (hlength : text.toList.length = 2 * length)
    (hall : text.toList.all Checksum.isHexDigit = true) :
    ∃ octets, decode length text = .ok octets := by
  have hchars : (Text.bytes text).map Text.asciiChar = text.toList :=
    Text.map_asciiChar_of_chars fun char hmem =>
      Checksum.ascii_of_isHexDigit (List.all_eq_true.mp hall char hmem)
  have hsize : (Text.bytes text).length = 2 * length := by
    rw [← hlength, ← hchars, List.length_map]
  rw [← hchars] at hall
  obtain ⟨bytes, hread⟩ := @decodeFrom_of_digits 0 _ (by omega) hall
  have hdigits := congrArg List.length (digits_of_decodeFrom hread).2
  rw [length_digitsOf, List.length_map, List.length_map, hsize] at hdigits
  exact ⟨⟨bytes, by omega⟩, decode_eq_ok_iff.mpr ⟨hsize, hread⟩⟩

/-- The texts that are read are those of two digits a byte. -/
theorem decode_accepts_iff {length : Nat} {text : String} :
    (∃ octets, decode length text = .ok octets) ↔
      text.toList.length = 2 * length ∧ ∀ char ∈ text.toList, char ∈ Checksum.hexDigits := by
  simp only [← Checksum.isHexDigit_iff_mem, ← List.all_eq_true]
  constructor
  · rintro ⟨octets, hread⟩
    obtain ⟨hlength, hall, _⟩ := digits_of_decode hread
    exact ⟨hlength, hall⟩
  · exact fun hdigits => decode_of_digits hdigits.1 hdigits.2

theorem hex_of_decode {length : Nat} {text : String} {octets : Octets length}
    (hread : decode length text = .ok octets) : octets.hex = Text.asciiLowercase text := by
  rw [← String.toList_inj, Octets.hex, encode, String.toList_ofList, Text.asciiLowercase,
    String.toList_map]
  exact (digits_of_decode hread).2.2

theorem decode_hex {length : Nat} (octets : Octets length) :
    decode length octets.hex = .ok octets := by
  have hdigits : octets.hex.toList = digitsOf octets.bytes := String.toList_ofList
  have hlength : octets.hex.toList.length = 2 * length := by
    rw [hdigits, length_digitsOf, octets.length_bytes]
  -- The digits are read as some octets, and those have the same digits.
  obtain ⟨found, hread⟩ := decode_of_digits hlength (all_isHexDigit_encode octets.bytes)
  have hlower : (digitsOf octets.bytes).map Char.toLower = digitsOf octets.bytes := by
    refine (List.map_congr_left fun char hmem => ?_).trans (List.map_id _)
    obtain ⟨nibble, hnibble, rfl⟩ := exists_digit_of_mem hmem
    exact toLower_digit nibble hnibble
  have hsame := (digits_of_decode hread).2.2
  rw [hdigits, hlower] at hsame
  rw [hread, Octets.ext (digitsOf_inj hsame)]

end Signoff.Hex
