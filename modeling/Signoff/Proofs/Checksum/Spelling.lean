import Signoff.Proofs.Checksum
import Signoff.Proofs.Text.Lowercase

namespace Signoff.Checksum

/-! The form in which checksums are compared does not depend on how they are spelled. -/

def separators : List Char := [' ', '-', '_']

/-- One text from another by putting separators in, taking them out and changing the case of letters
of ASCII, anywhere and any number of times. -/
inductive Respelled : List Char → List Char → Prop
  | nil : Respelled [] []
  | letter {left right : List Char} {char other : Char} (alike : char.toLower = other.toLower)
      (rest : Respelled left right) : Respelled (char :: left) (other :: right)
  | insert {left right : List Char} {separator : Char} (separates : separator ∈ separators)
      (rest : Respelled left right) : Respelled left (separator :: right)
  | delete {left right : List Char} {separator : Char} (separates : separator ∈ separators)
      (rest : Respelled left right) : Respelled (separator :: left) right

/-- What a text says when the separators are passed over. -/
def letters (chars : List Char) : List Char := chars.filter (· ∉ separators)

theorem letters_cons_separator {char : Char} (hchar : char ∈ separators) (rest : List Char) :
    letters (char :: rest) = letters rest := by
  simp [letters, hchar]

theorem letters_cons_letter {char : Char} (hchar : char ∉ separators) (rest : List Char) :
    letters (char :: rest) = char :: letters rest := by
  simp [letters, hchar]

theorem separators_plain : ∀ separator ∈ separators,
    separator.toLower = separator ∧ separator.toNat < 0x61 := by
  have hall : (separators.all fun separator =>
      separator.toLower = separator ∧ separator.toNat < 0x61) = true := by decide
  simpa using hall

theorem eq_of_toLower_separator {char other : Char} (halike : char.toLower = other.toLower)
    (hother : other ∈ separators) : char = other := by
  obtain ⟨hsame, hlow⟩ := separators_plain other hother
  rw [hsame] at halike
  by_cases hupper : char.isUpper = true
  · have hsmall := Text.toNat_toLower hupper
    have hfirst := (Text.isUpper_iff.mp hupper).1
    rw [halike] at hsmall
    omega
  · rw [← halike, Text.toLower_of_not_isUpper hupper]

theorem Respelled.letters_eq {left right : List Char} (hrespelled : Respelled left right) :
    (letters left).map Char.toLower = (letters right).map Char.toLower := by
  induction hrespelled with
  | nil => rfl
  | @letter left right char other halike _ ih =>
      by_cases hother : other ∈ separators
      · obtain rfl := eq_of_toLower_separator halike hother
        rw [letters_cons_separator hother, letters_cons_separator hother, ih]
      · have hchar : char ∉ separators := fun hchar =>
          hother (eq_of_toLower_separator halike.symm hchar ▸ hchar)
        rw [letters_cons_letter hchar, letters_cons_letter hother, List.map_cons, List.map_cons,
          halike, ih]
  | insert separates _ ih => rw [letters_cons_separator separates, ih]
  | delete separates _ ih => rw [letters_cons_separator separates, ih]

theorem respelled_iff {left right : List Char} :
    Respelled left right ↔
      (letters left).map Char.toLower = (letters right).map Char.toLower := by
  refine ⟨Respelled.letters_eq, fun hletters => ?_⟩
  induction left generalizing right with
  | nil =>
      induction right with
      | nil => exact .nil
      | cons other right ih =>
          by_cases hother : other ∈ separators
          · rw [letters_cons_separator hother] at hletters
            exact .insert hother (ih hletters)
          · rw [letters_cons_letter hother] at hletters
            cases hletters
  | cons char left ih =>
      by_cases hchar : char ∈ separators
      · rw [letters_cons_separator hchar] at hletters
        exact .delete hchar (ih hletters)
      · induction right with
        | nil =>
            rw [letters_cons_letter hchar] at hletters
            cases hletters
        | cons other right ihRight =>
            by_cases hother : other ∈ separators
            · rw [letters_cons_separator hother] at hletters
              exact .insert hother (ihRight hletters)
            · rw [letters_cons_letter hchar, letters_cons_letter hother, List.map_cons,
                List.map_cons, List.cons.injEq] at hletters
              exact .letter hletters.1 (ih hletters.2)

theorem isSeparator_iff {char : Char} : isSeparator char = true ↔ char ∈ separators := by
  simp [isSeparator, separators, or_assoc]

theorem withoutSeparators_eq (text : String) :
    withoutSeparators text = String.ofList (letters text.toList) := by
  simp only [withoutSeparators, letters, ← isSeparator_iff, Bool.not_eq_true, Bool.decide_eq_false]

theorem normalize_eq (text : String) :
    normalize text = String.ofList (Text.lowerFrom [] (letters text.toList)) := by
  rw [normalize, withoutSeparators_eq, Text.lowercase, String.toList_ofList]

theorem normalize_respelled {left right : String}
    (hrespelled : Respelled left.toList right.toList) : normalize right = normalize left := by
  rw [normalize_eq, normalize_eq, ← Text.lowerFrom_toLower, ← hrespelled.letters_eq,
    Text.lowerFrom_toLower]

theorem lowerChar_not_separator {char : Char} (hchar : char ∉ separators) :
    Text.lowerChar char ∉ separators := by
  intro hlower
  obtain ⟨hsame, hlow⟩ := separators_plain _ hlower
  have hascii := Text.lowerChar_of_ascii (@Text.ascii_of_lowerChar char (by omega))
  exact hchar (eq_of_toLower_separator (hascii.symm.trans hsame.symm) hlower ▸ hlower)

theorem kept_of_mem_normalize {text : String} {char : Char}
    (hmem : char ∈ (normalize text).toList) : Kept char := by
  rw [normalize_eq, String.toList_ofList] at hmem
  rcases Text.mem_lowerFrom hmem with ⟨source, hsource, hdotted, rfl⟩ | hspecial
  · have hletter : source ∉ separators := by simpa using (List.mem_filter.mp hsource).2
    refine ⟨?_, Text.lowerChar_ne_sigma source, Text.lowerChar_ne_dotted hdotted,
      Text.lowerChar_lowerChar source⟩
    simpa [← isSeparator_iff] using lowerChar_not_separator hletter
  · have hkept : (['σ', 'ς', 'i', '\u0307'].all fun special => Kept special) = true := by
      decide +kernel
    exact of_decide_eq_true (List.all_eq_true.mp hkept char hspecial)

def hexDigits : List Char := "0123456789abcdefABCDEF".toList

/-- A text that spells nothing but digits. -/
def InDigits (chars : List Char) : Prop := ∀ char ∈ letters chars, char ∈ hexDigits

theorem isHexDigit_iff {char : Char} : isHexDigit char = true ↔
    0x30 ≤ char.toNat ∧ char.toNat ≤ 0x39 ∨ 0x61 ≤ char.toNat ∧ char.toNat ≤ 0x66 ∨
      0x41 ≤ char.toNat ∧ char.toNat ≤ 0x46 := by
  simp only [isHexDigit, Bool.or_eq_true, Bool.and_eq_true, decide_eq_true_eq,
    Char.isDigit_iff_toNat, or_assoc]
  rfl

theorem isHexDigit_iff_mem {char : Char} : isHexDigit char = true ↔ char ∈ hexDigits := by
  have hall : ∀ code < 0x67,
      isHexDigit (Char.ofNat code) = true ↔ Char.ofNat code ∈ hexDigits := by decide +kernel
  by_cases hlow : char.toNat < 0x67
  · simpa only [Char.ofNat_toNat] using hall char.toNat hlow
  · have hbelow : (hexDigits.all fun digit => digit.toNat < 0x67) = true := by decide
    constructor
    · intro hdigit
      have hranges := isHexDigit_iff.mp hdigit
      omega
    · intro hmem
      exact absurd (of_decide_eq_true (List.all_eq_true.mp hbelow char hmem)) hlow

theorem inDigits_iff {chars : List Char} :
    InDigits chars ↔ (letters chars).all isHexDigit = true := by
  simp only [InDigits, List.all_eq_true, isHexDigit_iff_mem]

theorem isHexDigit_toLower (char : Char) : isHexDigit char.toLower = isHexDigit char := by
  rw [Bool.eq_iff_iff, isHexDigit_iff, isHexDigit_iff]
  by_cases hupper : char.isUpper = true
  · rw [Text.toNat_toLower hupper]
    have hcapital := Text.isUpper_iff.mp hupper
    omega
  · rw [Text.toLower_of_not_isUpper hupper]

/-- No letter outside ASCII has a hexadecimal digit for its lower case. -/
theorem isHexDigit_lowerChar (char : Char) :
    isHexDigit (Text.lowerChar char) = isHexDigit char := by
  by_cases hascii : char.toNat < 0x80
  · rw [Text.lowerChar_of_ascii hascii, isHexDigit_toLower]
  · rw [Bool.eq_iff_iff, isHexDigit_iff, isHexDigit_iff]
    have hlower := mt (@Text.ascii_of_lowerChar char) hascii
    omega

theorem all_isHexDigit_lowerFrom (before chars : List Char) :
    (Text.lowerFrom before chars).all isHexDigit = chars.all isHexDigit := by
  induction chars generalizing before with
  | nil => rfl
  | cons char rest ih =>
      rw [Text.lowerFrom, List.all_append, ih, List.all_cons]
      congr 1
      split
      · next hsigma =>
          subst hsigma
          rw [Text.lowerSigma]
          split <;> decide
      · split
        · next hdotted =>
            subst hdotted
            decide
        · simp [isHexDigit_lowerChar]

theorem ascii_of_isHexDigit {char : Char} (hdigit : isHexDigit char = true) :
    char.toNat < 0x80 := by
  have hranges := isHexDigit_iff.mp hdigit
  omega

theorem lowerFrom_digits {chars : List Char} (before : List Char)
    (hdigits : chars.all isHexDigit = true) :
    Text.lowerFrom before chars = chars.map Char.toLower := by
  induction chars generalizing before with
  | nil => rfl
  | cons char rest ih =>
      rw [List.all_cons, Bool.and_eq_true] at hdigits
      have hascii := ascii_of_isHexDigit hdigits.1
      have hsigma : char ≠ 'Σ' := by
        rintro rfl
        exact absurd hascii (by decide)
      have hdotted : char ≠ 'İ' := by
        rintro rfl
        exact absurd hascii (by decide)
      simp [Text.lowerFrom, hsigma, hdotted, Text.lowerChar_of_ascii hascii, ih _ hdigits.2]

theorem respelled_of_normalize {digits other : String} (hdigits : InDigits digits.toList)
    (hsame : normalize other = normalize digits) : Respelled digits.toList other.toList := by
  rw [normalize_eq, normalize_eq, String.ofList_inj] at hsame
  rw [inDigits_iff] at hdigits
  have hother : (letters other.toList).all isHexDigit = true := by
    rw [← all_isHexDigit_lowerFrom [], hsame, all_isHexDigit_lowerFrom, hdigits]
  rw [lowerFrom_digits [] hdigits, lowerFrom_digits [] hother] at hsame
  exact respelled_iff.mpr hsame.symm

/-- Checksums are compared without regard to their spelling, and those that are all digits with
regard to nothing else. -/
theorem normalize_canonical (left right : String) :
    normalize (normalize left) = normalize left ∧
    (∀ separator ∈ separators, separator ∉ (normalize left).toList) ∧
    (∀ leftOther rightOther : String, Respelled left.toList leftOther.toList →
      Respelled right.toList rightOther.toList →
        normalize leftOther = normalize left ∧
        agree leftOther rightOther = agree left right ∧
        ∀ name, validate leftOther name = validate left name) ∧
    (InDigits right.toList →
      (agree left right = true ↔ Respelled right.toList left.toList)) := by
  refine ⟨normalize_kept fun char hmem => kept_of_mem_normalize hmem, ?_, ?_, ?_⟩
  · intro separator hseparator hmem
    have hkept := (kept_of_mem_normalize hmem).1
    rw [isSeparator_iff.mpr hseparator] at hkept
    cases hkept
  · intro leftOther rightOther hleft hright
    have hleft := normalize_respelled hleft
    have hright := normalize_respelled hright
    refine ⟨hleft, ?_, fun name => ?_⟩
    · rw [agree, agree, hleft, hright]
    · rw [validate, validate, hleft]
  · intro hdigits
    rw [agree, beq_iff_eq]
    exact ⟨respelled_of_normalize hdigits, normalize_respelled⟩

theorem normalize_canonical_finalSigma :
    Respelled "AB-Σ".toList " a_bΣ".toList ∧ normalize " a_bΣ" = "abς" ∧
      normalize "AB-Σ" = "abς" ∧ agree " a_bΣ" "0 Ff" = agree "AB-Σ" "0fF" := by
  have hleft : Respelled "AB-Σ".toList " a_bΣ".toList := respelled_iff.mpr (by decide)
  have hright : Respelled "0fF".toList "0 Ff".toList := respelled_iff.mpr (by decide)
  obtain ⟨_, _, hrespelled, _⟩ := normalize_canonical "AB-Σ" "0fF"
  obtain ⟨hnormal, hagree, _⟩ := hrespelled " a_bΣ" "0 Ff" hleft hright
  have hform : normalize "AB-Σ" = "abς" := by decide +kernel
  exact ⟨hleft, hnormal.trans hform, hform, hagree⟩

end Signoff.Checksum
