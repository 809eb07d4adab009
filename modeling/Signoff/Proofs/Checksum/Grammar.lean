import Signoff.Proofs.Checksum.Spelling

namespace Signoff

/-! Which texts pass for a digest of a named algorithm, and what is said of the others. -/

def Algorithm.plainName : Algorithm → String
  | .sha256 => "sha256"
  | .sha512 => "sha512"
  | .md5 => "md5"

namespace Checksum

def Names (name : String) (algorithm : Algorithm) : Prop :=
  (letters name.toList).map Char.toLower = algorithm.plainName.toList

/-- A spelling of so many digits. -/
structure Digits (checksum : String) (count : Nat) : Prop where
  length : (letters checksum.toList).length = count
  inDigits : InDigits checksum.toList

/-- What is wrong with a checksum. The first of these faults counts. -/
inductive Fault (checksum name : String) : FormatError → Prop
  | unsupported (unknown : ∀ algorithm, ¬ Names name algorithm) :
      Fault checksum name (.unsupported name)
  | wrongLength {algorithm : Algorithm} (named : Names name algorithm)
      (differs : (normalize checksum).utf8ByteSize ≠ algorithm.hexLength) :
      Fault checksum name (.wrongLength algorithm (normalize checksum).utf8ByteSize)
  | nonHex {algorithm : Algorithm} (named : Names name algorithm)
      (length : (normalize checksum).utf8ByteSize = algorithm.hexLength)
      (other : ¬ Digits checksum algorithm.hexLength) : Fault checksum name .nonHex

theorem asciiLowercase_withoutSeparators (name : String) :
    Text.asciiLowercase (withoutSeparators name) =
      String.ofList ((letters name.toList).map Char.toLower) := by
  rw [← String.toList_inj, Text.asciiLowercase, String.toList_map, withoutSeparators_eq,
    String.toList_ofList, String.toList_ofList]

theorem parseAlgorithm_eq_ok_iff {name : String} {algorithm : Algorithm} :
    parseAlgorithm name = .ok algorithm ↔ Names name algorithm := by
  rw [Names, ← String.ofList_inj, String.ofList_toList, ← asciiLowercase_withoutSeparators]
  constructor
  · intro hparse
    unfold parseAlgorithm at hparse
    split at hparse <;> cases hparse <;> assumption
  · intro hname
    unfold parseAlgorithm
    rw [hname]
    cases algorithm <;> rfl

theorem parseAlgorithm_eq_error_iff {name : String} {cause : FormatError} :
    parseAlgorithm name = .error cause ↔
      (∀ algorithm, ¬ Names name algorithm) ∧ cause = .unsupported name := by
  cases hparse : parseAlgorithm name with
  | ok algorithm =>
      have hname := parseAlgorithm_eq_ok_iff.mp hparse
      simp only [reduceCtorEq, false_iff]
      exact fun hunknown => hunknown.1 algorithm hname
  | error found =>
      obtain rfl := parseAlgorithm_error hparse
      have hunknown : ∀ algorithm, ¬ Names name algorithm := by
        intro algorithm hname
        rw [parseAlgorithm_eq_ok_iff.mpr hname] at hparse
        cases hparse
      rw [Except.error.injEq]
      exact ⟨fun hcause => ⟨hunknown, hcause.symm⟩, fun hcause => hcause.2.symm⟩

theorem digits_iff {checksum : String} {count : Nat} :
    Digits checksum count ↔
      (normalize checksum).utf8ByteSize = count ∧
      (normalize checksum).toList.all isHexDigit = true := by
  rw [normalize_eq, String.toList_ofList, all_isHexDigit_lowerFrom, ← inDigits_iff]
  -- All digits are ASCII, and so are their lower cases, which take a byte each.
  have hlength (hdigits : InDigits checksum.toList) :
      (String.ofList (Text.lowerFrom [] (letters checksum.toList))).utf8ByteSize =
        (letters checksum.toList).length := by
    rw [inDigits_iff] at hdigits
    rw [lowerFrom_digits [] hdigits, Text.utf8ByteSize_of_ascii, List.length_map]
    intro char hmem
    obtain ⟨digit, hdigit, rfl⟩ := List.mem_map.mp hmem
    apply ascii_of_isHexDigit
    rw [isHexDigit_toLower, List.all_eq_true.mp hdigits digit hdigit]
  constructor
  · exact fun hall => ⟨(hlength hall.inDigits).trans hall.length, hall.inDigits⟩
  · exact fun hall => ⟨(hlength hall.2).symm.trans hall.1, hall.2⟩

theorem Digits.ascii {checksum : String} {count : Nat} (hdigits : Digits checksum count) :
    ∀ char ∈ checksum.toList, char.toNat < 0x80 := by
  intro char hmem
  by_cases hseparator : char ∈ separators
  · have hlow := (separators_plain char hseparator).2
    omega
  · have hletter : char ∈ letters checksum.toList := List.mem_filter.mpr ⟨hmem, by simpa⟩
    exact ascii_of_isHexDigit (isHexDigit_iff_mem.mpr (hdigits.inDigits char hletter))

/-- A checksum passes exactly if it spells as many digits as its algorithm takes, none of them
foreign, and otherwise the first of its faults is named. -/
theorem validate_grammar (checksum name : String) :
    (∀ algorithm, validate checksum name = .ok algorithm ↔
      Names name algorithm ∧ Digits checksum algorithm.hexLength) ∧
    (∀ algorithm, validate checksum name = .ok algorithm →
      ∀ char ∈ checksum.toList, char.toNat < 0x80) ∧
    ∀ cause, validate checksum name = .error cause ↔ Fault checksum name cause := by
  have hok (algorithm : Algorithm) : validate checksum name = .ok algorithm ↔
      Names name algorithm ∧ Digits checksum algorithm.hexLength := by
    rw [validate_eq_ok_iff, parseAlgorithm_eq_ok_iff, digits_iff]
  refine ⟨hok, fun algorithm hvalidate => ((hok algorithm).mp hvalidate).2.ascii, fun cause => ?_⟩
  constructor
  · intro hvalidate
    cases hparse : parseAlgorithm name with
    | error unknown =>
        rw [validate_unknown hparse] at hvalidate
        cases hvalidate
        obtain ⟨hunknown, rfl⟩ := parseAlgorithm_eq_error_iff.mp hparse
        exact .unsupported hunknown
    | ok algorithm =>
        have hnamed := parseAlgorithm_eq_ok_iff.mp hparse
        rw [validate_named hparse] at hvalidate
        split at hvalidate
        · next hlength =>
            cases hvalidate
            exact .wrongLength hnamed hlength
        · next hlength =>
            split at hvalidate
            · next hhex =>
                cases hvalidate
                refine .nonHex hnamed (Decidable.not_not.mp hlength) ?_
                exact fun hdigits => hhex (digits_iff.mp hdigits).2
            · cases hvalidate
  · intro hfault
    cases hfault with
    | unsupported unknown =>
        exact validate_unknown (parseAlgorithm_eq_error_iff.mpr ⟨unknown, rfl⟩) checksum
    | wrongLength named differs =>
        rw [validate_named (parseAlgorithm_eq_ok_iff.mpr named), if_pos differs]
    | nonHex named length other =>
        have hhex : ¬ (normalize checksum).toList.all isHexDigit = true :=
          fun hhex => other (digits_iff.mpr ⟨length, hhex⟩)
        rw [validate_named (parseAlgorithm_eq_ok_iff.mpr named), if_neg (not_not_intro length),
          if_pos hhex]

end Checksum

end Signoff
