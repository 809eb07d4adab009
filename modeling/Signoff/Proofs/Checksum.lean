import Signoff.Checksum
import Signoff.Hex
import Signoff.Proofs.Except
import Signoff.Proofs.Fetch.Body
import Signoff.Proofs.Text.Bytes

namespace Signoff

/-! The form in which checksums are compared. Hexadecimal digits of lower case are in it already. -/

def Checksum.Kept (char : Char) : Prop :=
  isSeparator char = false ∧ char ≠ 'Σ' ∧ char ≠ 'İ' ∧ Text.lowerChar char = char

instance (char : Char) : Decidable (Checksum.Kept char) :=
  inferInstanceAs (Decidable (_ ∧ _))

theorem Hex.kept_digit : ∀ nibble < 16, Checksum.Kept (digit nibble) := by
  decide +kernel

theorem Hex.digit_ascii : ∀ nibble < 16,
    Checksum.isHexDigit (digit nibble) = true ∧ (digit nibble).toNat < 0x80 := by
  decide +kernel

theorem Hex.exists_digit_of_mem {char : Char} {bytes : List UInt8} (hmem : char ∈ digitsOf bytes) :
    ∃ nibble < 16, char = digit nibble := by
  induction bytes with
  | nil => cases hmem
  | cons byte rest ih =>
      have hbyte : byte.toNat < 256 := byte.toNat_lt
      simp only [digitsOf, List.mem_cons] at hmem
      rcases hmem with hhigh | hlow | hrest
      · exact ⟨byte.toNat / 16, by omega, hhigh⟩
      · exact ⟨byte.toNat % 16, by omega, hlow⟩
      · exact ih hrest

theorem Hex.kept_of_mem {char : Char} {bytes : List UInt8} (hmem : char ∈ digitsOf bytes) :
    Checksum.Kept char := by
  obtain ⟨nibble, hnibble, rfl⟩ := exists_digit_of_mem hmem
  exact kept_digit nibble hnibble

theorem Hex.length_digitsOf (bytes : List UInt8) : (digitsOf bytes).length = 2 * bytes.length := by
  induction bytes with
  | nil => rfl
  | cons byte rest ih =>
      rw [digitsOf, List.length_cons, List.length_cons, List.length_cons, ih]
      omega

theorem Hex.utf8ByteSize_encode (bytes : List UInt8) :
    (encode bytes).utf8ByteSize = 2 * bytes.length := by
  rw [encode, Text.utf8ByteSize_of_ascii, length_digitsOf]
  intro char hmem
  obtain ⟨nibble, hnibble, rfl⟩ := exists_digit_of_mem hmem
  exact (digit_ascii nibble hnibble).2

theorem Hex.all_isHexDigit_encode (bytes : List UInt8) :
    (encode bytes).toList.all Checksum.isHexDigit = true := by
  rw [encode, String.toList_ofList, List.all_eq_true]
  intro char hmem
  obtain ⟨nibble, hnibble, rfl⟩ := exists_digit_of_mem hmem
  exact (digit_ascii nibble hnibble).1

namespace Checksum

theorem lowerFrom_kept {chars : List Char} (before : List Char)
    (hkept : ∀ char ∈ chars, Kept char) : Text.lowerFrom before chars = chars := by
  induction chars generalizing before with
  | nil => rfl
  | cons char rest ih =>
      obtain ⟨_, hsigma, hdotted, hlower⟩ := hkept char (by simp)
      have hrest := ih (char :: before) fun other hother => hkept other (by simp [hother])
      simp [Text.lowerFrom, hsigma, hdotted, hlower, hrest]

theorem normalize_kept {text : String} (hkept : ∀ char ∈ text.toList, Kept char) :
    normalize text = text := by
  have hfilter : text.toList.filter (fun char => !isSeparator char) = text.toList := by
    rw [List.filter_eq_self]
    intro char hmem
    rw [(hkept char hmem).1]
    rfl
  simp [normalize, withoutSeparators, Text.lowercase, hfilter, lowerFrom_kept [] hkept]

theorem normalize_encode (bytes : List UInt8) :
    normalize (Hex.encode bytes) = Hex.encode bytes := by
  apply normalize_kept
  intro char hmem
  rw [Hex.encode, String.toList_ofList] at hmem
  exact Hex.kept_of_mem hmem

theorem exists_encode_of_digest {algorithm : Algorithm} {body : List UInt8} {digest : String}
    (hdigest : algorithm.digest? body = some digest) :
    ∃ bytes : List UInt8, 2 * bytes.length = algorithm.hexLength ∧ digest = Hex.encode bytes := by
  cases algorithm with
  | sha256 =>
      cases hdigest
      exact ⟨_, congrArg (2 * ·) (Signoff.sha256 body).length_bytes, rfl⟩
  | sha512 =>
      cases hdigest
      exact ⟨_, congrArg (2 * ·) (Signoff.sha512 body).length_bytes, rfl⟩
  | md5 => cases hdigest

theorem normalize_digest {algorithm : Algorithm} {body : List UInt8} {digest : String}
    (hdigest : algorithm.digest? body = some digest) : normalize digest = digest := by
  obtain ⟨bytes, _, rfl⟩ := exists_encode_of_digest hdigest
  exact normalize_encode bytes

/-- A digest agrees with a checksum exactly if it is the form of it that is compared. -/
theorem agree_digest_iff {algorithm : Algorithm} {body : List UInt8} {digest : String}
    (hdigest : algorithm.digest? body = some digest) (stored : String) :
    agree digest stored = true ↔ digest = normalize stored := by
  rw [agree, beq_iff_eq, normalize_digest hdigest]

/-- A digest of the named algorithm, however it is spelled. -/
def WellFormed (checksum name : String) : Prop :=
  ∃ algorithm, parseAlgorithm name = .ok algorithm ∧
    (normalize checksum).utf8ByteSize = algorithm.hexLength ∧
    (normalize checksum).toList.all isHexDigit = true

theorem parseAlgorithm_error {name : String} {cause : FormatError}
    (hparse : parseAlgorithm name = .error cause) : cause = .unsupported name := by
  simp only [parseAlgorithm] at hparse
  split at hparse <;> cases hparse
  rfl

/-- The algorithm comes first, then the length, then the digits. -/
theorem validate_named {name : String} {algorithm : Algorithm}
    (hparse : parseAlgorithm name = .ok algorithm) (checksum : String) :
    validate checksum name =
      if (normalize checksum).utf8ByteSize ≠ algorithm.hexLength then
        .error (.wrongLength algorithm (normalize checksum).utf8ByteSize)
      else if ¬ (normalize checksum).toList.all isHexDigit = true then .error .nonHex
      else .ok algorithm := by
  simp only [validate, hparse, bind, Except.bind]
  split
  · rfl
  · split <;> rfl

theorem validate_unknown {name : String} {cause : FormatError}
    (hparse : parseAlgorithm name = .error cause) (checksum : String) :
    validate checksum name = .error cause := by
  simp only [validate, hparse, bind, Except.bind]

theorem validate_eq_ok_iff {checksum name : String} {algorithm : Algorithm} :
    validate checksum name = .ok algorithm ↔
      parseAlgorithm name = .ok algorithm ∧
      (normalize checksum).utf8ByteSize = algorithm.hexLength ∧
      (normalize checksum).toList.all isHexDigit = true := by
  cases hparse : parseAlgorithm name with
  | error cause => simp [validate_unknown hparse]
  | ok parsed =>
      rw [validate_named hparse, Except.ok.injEq]
      split
      · next hlength =>
          simp only [reduceCtorEq, false_iff]
          rintro ⟨rfl, hsame, _⟩
          exact hlength hsame
      · next hlength =>
          split
          · next hhex => simp_all
          · next hhex =>
              rw [Except.ok.injEq]
              constructor
              · rintro rfl
                exact ⟨rfl, Decidable.not_not.mp hlength, Decidable.not_not.mp hhex⟩
              · exact fun hall => hall.1

theorem wellFormed_of_validate {checksum name : String} {algorithm : Algorithm}
    (hvalidate : validate checksum name = .ok algorithm) : WellFormed checksum name :=
  ⟨algorithm, validate_eq_ok_iff.mp hvalidate⟩

theorem not_wellFormed_of_validate {checksum name : String} {cause : FormatError}
    (hvalidate : validate checksum name = .error cause) : ¬ WellFormed checksum name := by
  rintro ⟨algorithm, hformed⟩
  rw [validate_eq_ok_iff.mpr hformed] at hvalidate
  cases hvalidate

theorem validate_digest {algorithm : Algorithm} {body : List UInt8} {digest name : String}
    (hname : parseAlgorithm name = .ok algorithm)
    (hdigest : algorithm.digest? body = some digest) : validate digest name = .ok algorithm := by
  have hnormal := normalize_digest hdigest
  obtain ⟨bytes, hlength, rfl⟩ := exists_encode_of_digest hdigest
  rw [validate_eq_ok_iff, hnormal, Hex.utf8ByteSize_encode]
  exact ⟨hname, hlength, Hex.all_isHexDigit_encode bytes⟩

end Checksum

end Signoff
