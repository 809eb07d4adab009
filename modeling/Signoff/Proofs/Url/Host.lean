import Signoff.Fetch.Guard
import Signoff.Proofs.Address.Text

namespace Signoff

/-! Which hosts there are. An address is written so that it is read as itself, and no name can be
read as an address. -/

namespace Text

theorem mem_of_mem_splitAt {isSeparator : Char → Bool} {chars part : List Char}
    (hpart : part ∈ splitAt isSeparator chars) : ∀ char ∈ part, char ∈ chars := by
  induction chars generalizing part with
  | nil =>
      rw [splitAt, List.mem_singleton] at hpart
      simp [hpart]
  | cons first rest ih =>
      simp only [splitAt] at hpart
      split at hpart
      · rcases List.mem_cons.mp hpart with rfl | hmem
        · simp
        · exact fun char hchar => List.mem_cons_of_mem _ (ih hmem char hchar)
      · cases hsplit : splitAt isSeparator rest with
        | nil => exact absurd hsplit (splitAt_ne_nil isSeparator rest)
        | cons front more =>
            rw [hsplit] at hpart ih
            rcases List.mem_cons.mp hpart with rfl | hmem
            · intro char hchar
              rcases List.mem_cons.mp hchar with rfl | hback
              · simp
              · exact List.mem_cons_of_mem _ (ih (by simp) char hback)
            · exact fun char hchar => List.mem_cons_of_mem _ (ih (by simp [hmem]) char hchar)

theorem splitAt_of_forall {isSeparator : Char → Bool} {chars : List Char}
    (hnone : ∀ char ∈ chars, isSeparator char = false) : splitAt isSeparator chars = [chars] := by
  induction chars with
  | nil => rfl
  | cons first rest ih =>
      have hrest := ih fun char hchar => hnone char (by simp [hchar])
      simp [splitAt, hnone first (by simp), hrest]

theorem splitAt_append_cons {isSeparator : Char → Bool} {char : Char} (front back : List Char)
    (hchar : isSeparator char = true) :
    splitAt isSeparator (front ++ char :: back) =
      splitAt isSeparator front ++ splitAt isSeparator back := by
  induction front with
  | nil => simp [splitAt, hchar]
  | cons first front ih =>
      simp only [List.cons_append, splitAt, ih]
      split
      · rfl
      · cases hsplit : splitAt isSeparator front with
        | nil => exact absurd hsplit (splitAt_ne_nil isSeparator front)
        | cons part more => rfl

end Text

namespace Url

namespace Punycode

def IsDigit (char : Char) : Prop := ∃ digit < 36, char = digitChar digit

theorem isDigit_of_mem_encodeNumber {bias position number : Nat} {char : Char}
    (hchar : char ∈ encodeNumber bias position number) : IsDigit char := by
  have hbounds (position : Nat) := threshold_bounds position bias
  fun_induction encodeNumber bias position number with
  | case1 position number limit hsmall =>
      rw [List.mem_singleton] at hchar
      exact ⟨number, by have := hbounds position; omega, hchar⟩
  | case2 position number limit hlarge ih =>
      rcases List.mem_cons.mp hchar with hfirst | hrest
      · refine ⟨_, ?_, hfirst⟩
        have hlimit := hbounds position
        have hmod : (number - limit) % (base - limit) < base - limit :=
          Nat.mod_lt _ (by simp only [base]; omega)
        simp only [base] at hmod ⊢
        omega
      · exact ih hrest

theorem isDigit_of_mem_insertAll {label : List Char} {plain code : Nat} {writer : Writer}
    (hwriter : ∀ char ∈ writer.digits, IsDigit char) :
    ∀ char ∈ (writer.insertAll label plain code).digits, IsDigit char := by
  have hpass (writer : Writer) (hwriter : ∀ char ∈ writer.digits, IsDigit char) (next : Char) :
      ∀ char ∈ (writer.pass plain code next).digits, IsDigit char := by
    intro char hchar
    simp only [Writer.pass] at hchar
    split at hchar
    · exact hwriter char hchar
    · split at hchar
      · rcases List.mem_append.mp hchar with hold | hnew
        · exact hwriter char hold
        · exact isDigit_of_mem_encodeNumber hnew
      · exact hwriter char hchar
  have hfold (label : List Char) (writer : Writer)
      (hwriter : ∀ char ∈ writer.digits, IsDigit char) :
      ∀ char ∈ (label.foldl (Writer.pass plain code) writer).digits, IsDigit char := by
    induction label generalizing writer with
    | nil => exact hwriter
    | cons next label ih => exact ih _ (hpass writer hwriter next)
  exact hfold label _ hwriter

theorem mem_encode {label : List Char} {char : Char} (hchar : char ∈ encode label) :
    char ∈ label ∨ char = '-' ∨ IsDigit char := by
  have hfold (codes : List Nat) (writer : Writer)
      (hwriter : ∀ char ∈ writer.digits, IsDigit char) :
      ∀ char ∈ (codes.foldl (Writer.insertAll label (label.filter isPlain).length) writer).digits,
        IsDigit char := by
    induction codes generalizing writer with
    | nil => exact hwriter
    | cons code codes ih => exact ih _ (isDigit_of_mem_insertAll hwriter)
  have hdigits := hfold (extendedCodes label)
    ⟨initialCode, 0, initialBias, (label.filter isPlain).length, []⟩ (by simp)
  simp only [encode] at hchar
  split at hchar
  · exact .inr (.inr (hdigits char hchar))
  · rcases List.mem_append.mp hchar with hplain | hrest
    · exact .inl (List.mem_filter.mp hplain).1
    · rcases List.mem_cons.mp hrest with hhyphen | hdigit
      · exact .inr (.inl hhyphen)
      · exact .inr (.inr (hdigits char hdigit))

end Punycode

namespace Name

theorem mem_of_mapM_ofText? {texts : List (List Char)} {labels : List Label}
    (hlabels : texts.mapM Label.ofText? = some labels) :
    ∀ label ∈ labels, ∃ text ∈ texts, Label.ofText? text = some label := by
  induction texts generalizing labels with
  | nil =>
      cases hlabels
      simp
  | cons text texts ih =>
      simp only [List.mapM_cons, Option.bind_eq_bind, Option.bind_eq_some_iff, Option.pure_def,
        Option.some.injEq] at hlabels
      obtain ⟨first, hfirst, rest, hrest, rfl⟩ := hlabels
      intro label hlabel
      rcases List.mem_cons.mp hlabel with rfl | hmem
      · exact ⟨text, by simp, hfirst⟩
      · obtain ⟨other, hother, hread⟩ := ih hrest label hmem
        exact ⟨other, List.mem_cons_of_mem _ hother, hread⟩

theorem mem_joinLabels {labels : List (List Char)} {char : Char}
    (hchar : char ∈ joinLabels labels) :
    char = '.' ∨ ∃ label ∈ labels, char ∈ label := by
  induction labels with
  | nil => simp [joinLabels] at hchar
  | cons label labels ih =>
      cases labels with
      | nil => exact .inr ⟨label, by simp, hchar⟩
      | cons next labels =>
          simp only [joinLabels, List.mem_append, List.mem_cons] at hchar
          rcases hchar with hfirst | hdot | hrest
          · exact .inr ⟨label, by simp, hfirst⟩
          · exact .inl hdot
          · rcases ih hrest with hdot | ⟨other, hother, hmem⟩
            · exact .inl hdot
            · exact .inr ⟨other, List.mem_cons_of_mem _ hother, hmem⟩

theorem isForbidden_digit {char : Char} (hdigit : Punycode.IsDigit char) :
    isForbidden char = false := by
  obtain ⟨digit, hbound, rfl⟩ := hdigit
  have hall : ∀ digit < 36, isForbidden (Punycode.digitChar digit) = false := by decide
  exact hall digit hbound

theorem isForbidden_ascii {text : List Char} {label : Label}
    (htext : ∀ char ∈ text, isForbidden char = false) (hlabel : Label.ofText? text = some label) :
    ∀ char ∈ label.ascii, isForbidden char = false := by
  have hmarker : marker.any isForbidden = false := by decide
  simp only [Label.ofText?] at hlabel
  split at hlabel
  · split at hlabel
    · obtain ⟨decoded, _, rfl⟩ := Option.map_eq_some_iff.mp hlabel
      exact htext
    · cases hlabel
      exact htext
  · split at hlabel
    · cases hlabel
      intro char hchar
      rcases List.mem_append.mp hchar with hmark | hencoded
      · simpa using List.any_eq_false.mp hmarker char hmark
      · rcases Punycode.mem_encode hencoded with hmem | rfl | hdigit
        · exact htext char hmem
        · decide
        · exact isForbidden_digit hdigit
    · cases hlabel

theorem isForbidden_of_toAscii {chars found : List Char} (hfound : toAscii chars = some found) :
    ∀ char ∈ found, isForbidden char = false := by
  simp only [toAscii, Option.bind_eq_bind, Option.bind_eq_some_iff] at hfound
  obtain ⟨name, _, hfound⟩ := hfound
  split at hfound
  · simp at hfound
  · next hname =>
      simp only [Option.bind_eq_some_iff] at hfound
      obtain ⟨labels, hlabels, hfound⟩ := hfound
      split at hfound
      · cases hfound
        intro char hchar
        rcases mem_joinLabels hchar with rfl | ⟨ascii, hascii, hmem⟩
        · decide
        · obtain ⟨label, hlabel, rfl⟩ := List.mem_map.mp hascii
          obtain ⟨text, htext, hread⟩ := mem_of_mapM_ofText? hlabels label hlabel
          refine isForbidden_ascii (fun other hother => ?_) hread char hmem
          have hin := Text.mem_of_mem_splitAt htext other hother
          simpa using fun hbad => hname (List.any_eq_true.mpr ⟨other, hin, hbad⟩)
      · cases hfound

theorem isForbidden_of_ofEscaped? {chars found : List Char}
    (hfound : ofEscaped? chars = some found) : ∀ char ∈ found, isForbidden char = false := by
  simp only [ofEscaped?, Option.bind_eq_bind, Option.bind_eq_some_iff] at hfound
  obtain ⟨text, _, hascii⟩ := hfound
  exact isForbidden_of_toAscii hascii

end Name

end Url

namespace Host

/-- A host that some text is read as. -/
def Readable (host : Host) : Prop := ∃ chars, Host.parse chars = .ok host

theorem isDigit_of_digitValue? {char : Char} (hchar : (Address.digitValue? 10 char).isSome = true) :
    char.isDigit = true := by
  have hle (left right : Char) : left ≤ right ↔ left.toNat ≤ right.toNat := Iff.rfl
  have hvalues : 'a'.toNat = 97 ∧ 'A'.toNat = 65 := ⟨rfl, rfl⟩
  simp only [Address.digitValue?, hle] at hchar
  split at hchar
  · next hdigit =>
      have hbounds : 48 ≤ char.toNat ∧ char.toNat ≤ 57 := hdigit
      simpa [Char.isDigit, UInt32.le_iff_toNat_le] using hbounds
  · split at hchar
    · next hlower => simp at hchar; omega
    · split at hchar
      · next hupper => simp at hchar; omega
      · simp at hchar

theorem endsInNumber_of_readV4 {chars : List Char} {bits : BitVec 32}
    (hread : Address.readV4 chars = some (bits, [])) : endsInNumber chars = true := by
  obtain ⟨front, last, hlast, rfl, hdigits⟩ := Address.readV4_eq_some hread
  rw [List.append_nil]
  have hdigit (char : Char) (hchar : (Address.digitValue? 10 char).isSome = true) :
      char.isDigit = true ∧ decide (char = '.') = false := by
    have hdigit := isDigit_of_digitValue? hchar
    refine ⟨hdigit, decide_eq_false ?_⟩
    rintro rfl
    exact absurd hdigit (by decide)
  have hparts : Text.splitAt (· = '.') (front ++ '.' :: last) =
      Text.splitAt (· = '.') front ++ Text.splitAt (· = '.') last :=
    Text.splitAt_append_cons front last rfl
  have hsingle : Text.splitAt (· = '.') last = [last] :=
    Text.splitAt_of_forall fun char hchar => (hdigit char (hdigits char hchar)).2
  have hnumber : isNumber last = true := by
    have hall : last.all Char.isDigit = true :=
      List.all_eq_true.mpr fun char hchar => (hdigit char (hdigits char hchar)).1
    simp [isNumber, hlast, hall]
  rw [endsInNumber, hparts, hsingle, List.reverse_append, List.reverse_singleton]
  cases last with
  | nil => exact absurd rfl hlast
  | cons char last => exact hnumber

theorem parse?_of_name {chars : List Char} (hends : endsInNumber chars = false)
    (hcolon : ':' ∉ chars) : Address.parse? (String.ofList chars) = none := by
  have hv6 := Address.readV6_eq_none hcolon
  have hv4 (bits : BitVec 32) : Address.readV4 chars ≠ some (bits, []) := by
    intro hread
    rw [endsInNumber_of_readV4 hread] at hends
    cases hends
  -- The first alternative is ruled out by `hv4`, the second by `hv6`.
  simp only [Address.parse?, String.toList_ofList, hv6]

theorem dropWhile_of_not_mem {bracket : Char} {chars : List Char} (hnone : bracket ∉ chars) :
    chars.dropWhile (· = bracket) = chars := by
  cases chars with
  | nil => rfl
  | cons first rest =>
      have hfirst : first ≠ bracket := fun heq => hnone (by simp [heq])
      simp [hfirst]

theorem withoutBrackets_of_not_mem {chars : List Char} (hopen : '[' ∉ chars)
    (hclose : ']' ∉ chars) :
    Guard.withoutBrackets (String.ofList chars) = String.ofList chars := by
  have hreverse : ']' ∉ chars.reverse := by simpa using hclose
  simp only [Guard.withoutBrackets, String.toList_ofList]
  rw [dropWhile_of_not_mem hopen, dropWhile_of_not_mem hreverse, List.reverse_reverse]

theorem withoutBrackets_bracketed {chars : List Char} (hopen : '[' ∉ chars) (hclose : ']' ∉ chars) :
    Guard.withoutBrackets (String.ofList ('[' :: (chars ++ [']']))) = String.ofList chars := by
  have hopenRest : '[' ∉ chars ++ [']'] := by simpa using hopen
  have hreverse : ']' ∉ chars.reverse := by simpa using hclose
  simp only [Guard.withoutBrackets, String.toList_ofList, List.dropWhile_cons, decide_true, if_true]
  rw [dropWhile_of_not_mem hopenRest, List.reverse_append, List.reverse_singleton,
    List.singleton_append, List.dropWhile_cons_of_pos (by simp), dropWhile_of_not_mem hreverse,
    List.reverse_reverse]

theorem parse?_address (address : Address) :
    Address.parse? (Guard.withoutBrackets (Host.address address).text) = some address := by
  have hopen : Address.NoDigit '[' := by unfold Address.NoDigit; decide
  have hclose : Address.NoDigit ']' := by unfold Address.NoDigit; decide
  cases address with
  | v4 bits =>
      have hbare := withoutBrackets_of_not_mem (hopen.not_mem_dotted (by decide) bits)
        (hclose.not_mem_dotted (by decide) bits)
      rw [String.ofList_toList] at hbare
      rw [Host.text, hbare, Address.parse?_dotted]
  | v6 bits =>
      have hbare := withoutBrackets_bracketed
        (hopen.not_mem_compressed (by decide) (Address.segments bits))
        (hclose.not_mem_compressed (by decide) (Address.segments bits))
      have htext : (Host.address (.v6 bits)).text = String.ofList
          ('[' :: ((Address.compressed (Address.segments bits)).toList ++ [']'])) := by
        apply String.toList_inj.mp
        simp [Host.text]
      rw [htext, hbare, String.ofList_toList, Address.parse?_compressed]

theorem ofBracketed_ne_name {rest : List Char} {text : String} :
    ofBracketed rest ≠ .ok (.name text) := by
  simp only [ofBracketed]
  split
  · split <;> simp
  · simp

theorem ofName_eq_name {chars : List Char} {text : String}
    (hread : ofName chars = .ok (.name text)) :
    text = String.ofList chars ∧ endsInNumber chars = false := by
  simp only [ofName] at hread
  split at hread
  · cases hread
  · split at hread
    · split at hread <;> cases hread
    · next hends =>
        cases hread
        exact ⟨rfl, by simpa using hends⟩

/-- The guard looks up the name of a host as it stands. -/
theorem Readable.bare_name {text : String} (hreadable : Readable (.name text)) :
    Guard.withoutBrackets text = text ∧ Address.parse? text = none ∧ '\x00' ∉ text.toList := by
  obtain ⟨chars, hparse⟩ := hreadable
  simp only [Host.parse] at hparse
  split at hparse
  · exact absurd hparse ofBracketed_ne_name
  · split at hparse
    · next found hfound =>
        obtain ⟨rfl, hends⟩ := ofName_eq_name hparse
        have hallowed := Url.Name.isForbidden_of_ofEscaped? hfound
        have hnone {char : Char} (hchar : Url.Name.isForbidden char = true) : char ∉ found := by
          intro hmem
          rw [hallowed char hmem] at hchar
          cases hchar
        refine ⟨withoutBrackets_of_not_mem (hnone (by decide)) (hnone (by decide)),
          parse?_of_name hends (hnone (by decide)), ?_⟩
        rw [String.toList_ofList]
        exact hnone (by decide)
    · cases hparse

end Host

end Signoff
