import Signoff.Text.Lowercase
import Signoff.Proofs.Text.Bytes

namespace Signoff.Text

/-! Lower case, of characters and of whole texts. Only the letters A to Z lead to those from a to z,
and what has been put into lower case stays as it is. -/

namespace CodeRun

def target (run : CodeRun) (code : Nat) : Nat := (code + run.shift).toNat

/-- None of the code points that a run leads to is in the other: they lie apart or alternate. -/
def misses (run other : CodeRun) : Bool :=
  Nat.blt other.last (run.target run.first) || Nat.blt (run.target run.last) other.first ||
    (other.step == 2 && (run.step == 2 || run.first == run.last) &&
      (run.target run.first + other.first) % 2 == 1)

theorem bounds_of_contains {run : CodeRun} {code : Nat} (hcontains : run.contains code = true) :
    run.first ≤ code ∧ code ≤ run.last ∧ (code - run.first) % run.step = 0 := by
  simpa [contains, and_assoc] using hcontains

theorem not_contains_of_misses {run other : CodeRun} (hmisses : run.misses other = true)
    (hlow : 0 ≤ run.first + run.shift) {code : Nat} (hcontains : run.contains code = true) :
    other.contains (run.target code) = false := by
  obtain ⟨hfirst, hlast, hstep⟩ := bounds_of_contains hcontains
  cases hother : other.contains (run.target code) with
  | false => rfl
  | true =>
      obtain ⟨hfirstOther, hlastOther, hstepOther⟩ := bounds_of_contains hother
      simp only [misses, Bool.or_eq_true, Bool.and_eq_true, Nat.blt_eq, beq_iff_eq, target]
        at hmisses hfirstOther hlastOther hstepOther
      rcases hmisses with (hbelow | habove) | ⟨⟨htwo, hsteps⟩, hodd⟩
      · omega
      · omega
      · rw [htwo] at hstepOther
        rcases hsteps with hsame | hone
        · rw [hsame] at hstep
          omega
        · omega

end CodeRun

/-- Small letters lie at 0x61 and beyond, and no number is one reserved for surrogates. -/
theorem lowerRuns_target : ∀ run ∈ lowerRuns, 0x61 ≤ run.first + run.shift ∧
    (run.last + run.shift < 0xd800 ∨
      0xdfff < run.first + run.shift ∧ run.last + run.shift < 0x110000) := by
  decide +kernel

theorem lowerRuns_ascii : ∀ run ∈ lowerRuns,
    run = ⟨0x41, 0x5a, 1, 32⟩ ∨ 0x80 ≤ run.first ∧ 0x67 ≤ run.first + run.shift := by
  decide +kernel

theorem lowerRuns_misses : (lowerRuns.all fun run => lowerRuns.all run.misses) = true := by
  decide +kernel

/-- The one letter whose lower case the table leaves out is no lower case either. -/
theorem lowerRuns_misses_dotted :
    (lowerRuns.all fun run => run.misses ⟨0x130, 0x130, 1, 0⟩) = true := by
  decide +kernel

theorem lowerChar_of_not_contains {char : Char}
    (hnone : ∀ run ∈ lowerRuns, run.contains char.toNat = false) : lowerChar char = char := by
  have hfind : lowerRuns.find? (·.contains char.toNat) = none := by
    rw [List.find?_eq_none]
    intro run hmem
    simp [hnone run hmem]
  rw [lowerChar, hfind]

theorem lowerChar_cases (char : Char) :
    (∀ run ∈ lowerRuns, run.contains char.toNat = false) ∨
    ∃ run ∈ lowerRuns, run.contains char.toNat = true ∧
      (lowerChar char).toNat = run.target char.toNat := by
  cases hfind : lowerRuns.find? (·.contains char.toNat) with
  | none => exact .inl fun run hmem => by simpa using List.find?_eq_none.mp hfind run hmem
  | some run =>
      have hmem := List.mem_of_find?_eq_some hfind
      have hcontains := List.find?_some hfind
      obtain ⟨hfirst, hlast, _⟩ := CodeRun.bounds_of_contains hcontains
      obtain ⟨hlow, hscalar⟩ := lowerRuns_target run hmem
      refine .inr ⟨run, hmem, hcontains, ?_⟩
      rw [lowerChar, hfind]
      apply toNat_ofNat
      simp only [Nat.isValidChar]
      omega

theorem not_contains_lowerChar (char : Char) {run : CodeRun} (hrun : run ∈ lowerRuns) :
    run.contains (lowerChar char).toNat = false := by
  rcases lowerChar_cases char with hnone | ⟨taken, htaken, hcontains, htarget⟩
  · rw [lowerChar_of_not_contains hnone]
    exact hnone run hrun
  · rw [htarget]
    have hlow := (lowerRuns_target taken htaken).1
    have hmisses := List.all_eq_true.mp (List.all_eq_true.mp lowerRuns_misses taken htaken) run hrun
    exact CodeRun.not_contains_of_misses hmisses (by omega) hcontains

theorem lowerChar_lowerChar (char : Char) : lowerChar (lowerChar char) = lowerChar char :=
  lowerChar_of_not_contains fun _ hrun => not_contains_lowerChar char hrun

theorem lowerChar_ne_sigma (char : Char) : lowerChar char ≠ 'Σ' := by
  intro hsigma
  have hnone := @not_contains_lowerChar char ⟨0x3a3, 0x3ab, 1, 32⟩ (by decide +kernel)
  rw [hsigma] at hnone
  exact absurd hnone (by decide)

theorem lowerChar_ne_dotted {char : Char} (hchar : char ≠ 'İ') : lowerChar char ≠ 'İ' := by
  intro hdotted
  rcases lowerChar_cases char with hnone | ⟨run, hrun, hcontains, htarget⟩
  · exact hchar (lowerChar_of_not_contains hnone ▸ hdotted)
  · have hlow := (lowerRuns_target run hrun).1
    have hmisses := List.all_eq_true.mp lowerRuns_misses_dotted run hrun
    have hnone := CodeRun.not_contains_of_misses hmisses (by omega) hcontains
    rw [← htarget, hdotted] at hnone
    exact absurd hnone (by decide)

theorem isUpper_iff {char : Char} :
    char.isUpper = true ↔ 0x41 ≤ char.toNat ∧ char.toNat ≤ 0x5a := by
  change decide (_ ∧ _) = true ↔ _
  rw [decide_eq_true_iff]
  rfl

theorem toLower_of_not_isUpper {char : Char} (hupper : ¬ char.isUpper = true) :
    char.toLower = char :=
  dif_neg fun hrange => hupper (decide_eq_true hrange)

theorem toNat_toLower {char : Char} (hupper : char.isUpper = true) :
    char.toLower.toNat = char.toNat + 0x20 := by
  obtain ⟨hfirst, hlast⟩ := isUpper_iff.mp hupper
  have htoLower : char.toLower = ⟨char.val + 0x20, _⟩ := dif_pos (of_decide_eq_true hupper)
  rw [Char.toNat, htoLower, UInt32.toNat_add]
  change (char.toNat + 0x20) % 4294967296 = _
  omega

theorem lowerChar_capital {char : Char} (hupper : char.isUpper = true) :
    lowerChar char = char.toLower := by
  obtain ⟨hfirst, hlast⟩ := isUpper_iff.mp hupper
  have hcontains : CodeRun.contains ⟨0x41, 0x5a, 1, 32⟩ char.toNat = true := by
    simp [CodeRun.contains, hfirst, hlast, Nat.mod_one]
  have hfind : lowerRuns.find? (·.contains char.toNat) = some ⟨0x41, 0x5a, 1, 32⟩ :=
    List.find?_cons_of_pos hcontains
  have hvalid : (char.toNat + 0x20).isValidChar := by
    simp only [Nat.isValidChar]
    omega
  rw [lowerChar, hfind, ← Char.toNat_inj, toNat_toLower hupper]
  exact toNat_ofNat hvalid

theorem lowerChar_of_ascii {char : Char} (hascii : char.toNat < 0x80) :
    lowerChar char = char.toLower := by
  by_cases hupper : char.isUpper = true
  · exact lowerChar_capital hupper
  · rw [toLower_of_not_isUpper hupper]
    apply lowerChar_of_not_contains
    intro run hrun
    cases hcontains : run.contains char.toNat with
    | false => rfl
    | true =>
        obtain ⟨hfirst, hlast, _⟩ := CodeRun.bounds_of_contains hcontains
        rcases lowerRuns_ascii run hrun with rfl | ⟨hbeyond, _⟩
        · exact absurd (isUpper_iff.mpr ⟨hfirst, hlast⟩) hupper
        · omega

theorem ascii_of_lowerChar {char : Char} (hlow : (lowerChar char).toNat < 0x67) :
    char.toNat < 0x80 := by
  rcases lowerChar_cases char with hnone | ⟨run, hrun, hcontains, htarget⟩
  · rw [lowerChar_of_not_contains hnone] at hlow
    omega
  · obtain ⟨hfirst, hlast, _⟩ := CodeRun.bounds_of_contains hcontains
    rw [htarget, CodeRun.target] at hlow
    rcases lowerRuns_ascii run hrun with rfl | ⟨_, hbeyond⟩
    · simp only at hlast
      omega
    · omega

theorem caseIgnorableRanges_letters : ∀ range ∈ caseIgnorableRanges,
    range.last < 0x41 ∨ 0x5a < range.first ∧ range.last < 0x61 ∨ 0x7a < range.first := by
  decide +kernel

theorem isCaseIgnorable_capital {char : Char} (hupper : char.isUpper = true) :
    isCaseIgnorable char = false ∧ isCaseIgnorable char.toLower = false := by
  obtain ⟨hfirst, hlast⟩ := isUpper_iff.mp hupper
  simp only [isCaseIgnorable, List.any_eq_false, CodeRange.contains, Bool.and_eq_true,
    decide_eq_true_eq, toNat_toLower hupper]
  constructor
  · intro range hrange
    have hletters := caseIgnorableRanges_letters range hrange
    omega
  · intro range hrange
    have hletters := caseIgnorableRanges_letters range hrange
    omega

theorem isCased_capital {char : Char} (hupper : char.isUpper = true) :
    isCased char = true ∧ isCased char.toLower = true := by
  obtain ⟨hfirst, hlast⟩ := isUpper_iff.mp hupper
  simp only [isCased, List.any_eq_true, CodeRange.contains, Bool.and_eq_true, decide_eq_true_eq,
    toNat_toLower hupper]
  constructor
  · exact ⟨⟨0x41, 0x5a⟩, List.mem_cons_self, hfirst, hlast⟩
  · exact ⟨⟨0x61, 0x7a⟩, List.mem_cons_of_mem _ List.mem_cons_self,
      Nat.add_le_add_right hfirst 0x20, Nat.add_le_add_right hlast 0x20⟩

theorem casedAhead_toLower (chars : List Char) :
    casedAhead (chars.map Char.toLower) = casedAhead chars := by
  induction chars with
  | nil => rfl
  | cons char rest ih =>
      by_cases hupper : char.isUpper = true
      · obtain ⟨hcapital, hsmall⟩ := isCaseIgnorable_capital hupper
        simp [casedAhead, hcapital, hsmall, isCased_capital hupper]
      · cases hignorable : isCaseIgnorable char with
        | true => simpa [casedAhead, toLower_of_not_isUpper hupper, hignorable] using ih
        | false => simp [casedAhead, toLower_of_not_isUpper hupper, hignorable]

theorem lowerChar_toLower (char : Char) : lowerChar char.toLower = lowerChar char := by
  by_cases hupper : char.isUpper = true
  · rw [← lowerChar_capital hupper, lowerChar_lowerChar]
  · rw [toLower_of_not_isUpper hupper]

theorem toLower_eq_iff {char other : Char}
    (hother : other.toNat < 0x41 ∨ 0x7a < other.toNat) :
    char.toLower = other ↔ char = other := by
  by_cases hupper : char.isUpper = true
  · obtain ⟨_, hlast⟩ := isUpper_iff.mp hupper
    have hsmall := toNat_toLower hupper
    constructor
    · rintro rfl
      omega
    · rintro rfl
      omega
  · rw [toLower_of_not_isUpper hupper]

theorem mem_map_toLower {other : Char} (hother : other.toNat < 0x41 ∨ 0x7a < other.toNat)
    {chars : List Char} : other ∈ chars.map Char.toLower ↔ other ∈ chars := by
  simp [List.mem_map, toLower_eq_iff hother]

theorem map_toLower_eq_iff {uncased chars : List Char}
    (huncased : ∀ char ∈ uncased, char.toNat < 0x41 ∨ 0x7a < char.toNat) :
    chars.map Char.toLower = uncased ↔ chars = uncased := by
  induction uncased generalizing chars with
  | nil => exact List.map_eq_nil_iff
  | cons first rest ih =>
      obtain ⟨hfirst, hrest⟩ := List.forall_mem_cons.mp huncased
      cases chars with
      | nil => simp
      | cons char chars =>
          rw [List.map_cons, List.cons.injEq, List.cons.injEq, toLower_eq_iff hfirst, ih hrest]

theorem lowerFrom_toLower (before chars : List Char) :
    lowerFrom (before.map Char.toLower) (chars.map Char.toLower) = lowerFrom before chars := by
  induction chars generalizing before with
  | nil => rfl
  | cons char rest ih =>
      have hrest := ih (char :: before)
      rw [List.map_cons] at hrest
      have hsigma : lowerSigma (before.map Char.toLower) (rest.map Char.toLower) =
          lowerSigma before rest := by
        rw [lowerSigma, casedAhead_toLower, casedAhead_toLower]
        rfl
      have hcapital : char.toLower = 'Σ' ↔ char = 'Σ' := toLower_eq_iff (by decide)
      have hdotted : char.toLower = 'İ' ↔ char = 'İ' := toLower_eq_iff (by decide)
      simp only [List.map_cons, lowerFrom, hcapital, hdotted, lowerChar_toLower, hsigma, hrest]

theorem mem_lowerFrom {before chars : List Char} {lower : Char}
    (hmem : lower ∈ lowerFrom before chars) :
    (∃ char ∈ chars, char ≠ 'İ' ∧ lower = lowerChar char) ∨ lower ∈ ['σ', 'ς', 'i', '\u0307'] := by
  induction chars generalizing before with
  | nil => cases hmem
  | cons char rest ih =>
      rw [lowerFrom, List.mem_append] at hmem
      rcases hmem with hfirst | hrest
      · split at hfirst
        · rw [List.mem_singleton.mp hfirst, lowerSigma]
          split <;> simp
        · next hsigma =>
            split at hfirst
            · exact .inr (by rcases List.mem_cons.mp hfirst with rfl | hdot <;> simp_all)
            · next hdotted =>
                exact .inl ⟨char, List.mem_cons_self, hdotted, List.mem_singleton.mp hfirst⟩
      · rcases ih hrest with ⟨source, hsource, hlower⟩ | hspecial
        · exact .inl ⟨source, List.mem_cons_of_mem _ hsource, hlower⟩
        · exact .inr hspecial

end Signoff.Text
