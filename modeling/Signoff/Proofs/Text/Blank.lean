import Mathlib.Data.List.DropRight
import Signoff.Text.Blank
import Signoff.Proofs.Text.Lowercase

namespace Signoff.Text

/-- The part of a text that neither starts nor ends with white space, with nothing else around. -/
structure Trimmed (chars core : List Char) : Prop where
  within : ∃ before after, (∀ char ∈ before, isBlank char = true) ∧
    (∀ char ∈ after, isBlank char = true) ∧ chars = before ++ core ++ after
  starts : ∀ hne : core ≠ [], isBlank (core.head hne) = false
  ends : ∀ hne : core ≠ [], isBlank (core.getLast hne) = false

theorem trimChars_eq (chars : List Char) :
    trimChars chars = (chars.dropWhile isBlank).rdropWhile isBlank := rfl

theorem trimChars_pad {before after : List Char} (hbefore : ∀ char ∈ before, isBlank char = true)
    (hafter : ∀ char ∈ after, isBlank char = true) (chars : List Char) :
    trimChars (before ++ chars ++ after) = trimChars chars := by
  have hreverse : ∀ char ∈ after.reverse, isBlank char = true :=
    fun char hmem => hafter char (List.mem_reverse.mp hmem)
  rw [trimChars, List.append_assoc, List.dropWhile_append_of_pos hbefore, List.dropWhile_append]
  split
  · next hempty =>
      rw [List.dropWhile_eq_nil_iff.mpr hafter, trimChars, List.isEmpty_iff.mp hempty]
  · rw [List.reverse_append, List.dropWhile_append_of_pos hreverse, trimChars]

theorem trimmed_trimChars (chars : List Char) : Trimmed chars (trimChars chars) where
  within := ⟨chars.takeWhile isBlank, (chars.dropWhile isBlank).rtakeWhile isBlank,
    fun _ => List.mem_takeWhile_imp, fun _ => List.mem_rtakeWhile_imp, by
      rw [List.append_assoc, trimChars_eq, List.rdropWhile_append_rtakeWhile,
        List.takeWhile_append_dropWhile]⟩
  starts hne := by
    -- What is cut off behind leaves the first character as it is.
    have hfront : trimChars chars <+: chars.dropWhile isBlank := List.rdropWhile_prefix ..
    rw [hfront.head hne]
    exact List.head_dropWhile_not isBlank (hfront.ne_nil hne)
  ends hne := Bool.eq_false_iff.mpr (List.rdropWhile_last_not isBlank _ hne)

theorem trimmed_iff {chars core : List Char} : Trimmed chars core ↔ trimChars chars = core := by
  constructor
  · intro htrimmed
    obtain ⟨before, after, hbefore, hafter, rfl⟩ := htrimmed.within
    have hstarts : core.dropWhile isBlank = core := by
      cases core with
      | nil => rfl
      | cons char rest =>
          have hchar := htrimmed.starts (List.cons_ne_nil char rest)
          exact List.dropWhile_cons_of_neg (Bool.eq_false_iff.mp hchar)
    rw [trimChars_pad hbefore hafter, trimChars_eq, hstarts]
    exact List.rdropWhile_eq_self_iff.mpr fun hne => Bool.eq_false_iff.mp (htrimmed.ends hne)
  · rintro rfl
    exact trimmed_trimChars chars

theorem isBlank_toLower (char : Char) : isBlank char.toLower = isBlank char := by
  by_cases hupper : char.isUpper = true
  · obtain ⟨hfirst, hlast⟩ := isUpper_iff.mp hupper
    have hsmall := toNat_toLower hupper
    rw [Bool.eq_iff_iff]
    simp only [isBlank, Bool.or_eq_true, Bool.and_eq_true, decide_eq_true_eq, beq_iff_eq]
    omega
  · rw [toLower_of_not_isUpper hupper]

theorem trimChars_map_toLower (chars : List Char) :
    trimChars (chars.map Char.toLower) = (trimChars chars).map Char.toLower := by
  have hsame : isBlank ∘ Char.toLower = isBlank := funext isBlank_toLower
  simp only [trimChars, List.dropWhile_map, ← List.map_reverse, hsame]

end Signoff.Text
