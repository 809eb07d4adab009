import Mathlib.Data.List.Nodup
import Mathlib.Tactic.SplitIfs
import Signoff.Cbor

namespace Signoff.Cbor

/-! Maps as they are written. Their entries stand in the order of their encoded keys, those with
one key as they stand in the map, and what is written of a key or a value stands in one piece. -/

/-- What holds of a map if it holds of its keys and values holds of values nested to any depth. -/
@[elab_as_elim] theorem induct {motive : Cbor → Prop}
    (integer : ∀ value, motive (integer value)) (bytes : ∀ value, motive (bytes value))
    (text : ∀ value, motive (text value)) (null : motive null)
    (map : ∀ entries, (∀ entry ∈ entries, motive entry.1 ∧ motive entry.2) → motive (map entries))
    (value : Cbor) : motive value :=
  @Cbor.rec motive (fun entries => ∀ entry ∈ entries, motive entry.1 ∧ motive entry.2)
    (fun entry => motive entry.1 ∧ motive entry.2) integer bytes text null map (by simp)
    (fun _ _ hfirst hrest => List.forall_mem_cons.mpr ⟨hfirst, hrest⟩)
    (fun _ _ hkey hvalue => ⟨hkey, hvalue⟩) value

theorem keyBefore_trans (first second third : Entry) (hfirst : keyBefore first second)
    (hsecond : keyBefore second third) : keyBefore first third := by
  simp only [keyBefore, decide_eq_true_eq] at *
  exact List.le_trans hfirst hsecond

theorem keyBefore_total (first second : Entry) :
    keyBefore first second || keyBefore second first := by
  simpa [keyBefore] using List.le_total first.1 second.1

def written (entry : Cbor × Cbor) : Entry := (entry.1.encode, entry.2.encode)

theorem encodeEntries_eq_map (entries : List (Cbor × Cbor)) :
    encodeEntries entries = entries.map written := by
  induction entries with
  | nil => simp [encodeEntries]
  | cons entry rest ih => simp [encodeEntries, written, ih]

theorem sortEntries_sortEntries (entries : List Entry) :
    sortEntries (sortEntries entries) = sortEntries entries :=
  List.mergeSort_of_pairwise (List.pairwise_mergeSort keyBefore_trans keyBefore_total entries)

def sortByKey (entries : List (Cbor × Cbor)) : List (Cbor × Cbor) :=
  entries.mergeSort fun left right => keyBefore (written left) (written right)

theorem map_written_sortByKey (entries : List (Cbor × Cbor)) :
    (sortByKey entries).map written = sortEntries (entries.map written) :=
  List.map_mergeSort fun _ _ _ _ => rfl

theorem sortByKey_perm (entries : List (Cbor × Cbor)) : (sortByKey entries).Perm entries :=
  List.mergeSort_perm _ _

/-- The same entries in the order of their encoded keys, those with one key as they were. -/
structure SortedFrom (entries ordered : List (Cbor × Cbor)) : Prop where
  ascending : ordered.Pairwise fun left right => left.1.encode ≤ right.1.encode
  stable : ∀ key : List UInt8,
    ordered.filter (·.1.encode = key) = entries.filter (·.1.encode = key)

theorem sortedFrom_sortByKey (entries : List (Cbor × Cbor)) :
    SortedFrom entries (sortByKey entries) := by
  have trans (first second third : Cbor × Cbor) := keyBefore_trans (written first) (written second)
    (written third)
  have total (first second : Cbor × Cbor) := keyBefore_total (written first) (written second)
  constructor
  · exact (List.pairwise_mergeSort trans total entries).imp of_decide_eq_true
  · intro key
    -- Entries of one key are in order as they stand, and sorting keeps what is in order.
    have hsame : (entries.filter (·.1.encode = key)).Pairwise fun left right =>
        keyBefore (written left) (written right) := by
      apply List.pairwise_of_forall_mem_list
      intro left hleft right hright
      have hkey : left.1.encode = key := by simpa using (List.mem_filter.mp hleft).2
      have hother : right.1.encode = key := by simpa using (List.mem_filter.mp hright).2
      simp [keyBefore, written, hkey, hother]
    have hsorted := List.sublist_mergeSort trans total hsame List.filter_sublist
    have hkept := hsorted.filter (·.1.encode = key)
    rw [List.filter_filter] at hkept
    simp only [Bool.and_self] at hkept
    exact (hkept.eq_of_length ((sortByKey_perm entries).filter _).length_eq.symm).symm

theorem encode_le_of_pairwise {first entry : Cbor × Cbor} {rest : List (Cbor × Cbor)}
    (hsorted : (first :: rest).Pairwise fun left right => left.1.encode ≤ right.1.encode)
    (hentry : entry ∈ first :: rest) : first.1.encode ≤ entry.1.encode := by
  rcases List.mem_cons.mp hentry with rfl | hrest
  · exact List.le_refl _
  · exact List.rel_of_pairwise_cons hsorted hrest

theorem mem_of_filter_eq {left right : List (Cbor × Cbor)} {entry : Cbor × Cbor}
    (hsame : ∀ key : List UInt8,
      left.filter (·.1.encode = key) = right.filter (·.1.encode = key))
    (hentry : entry ∈ left) : entry ∈ right := by
  have hfilter : entry ∈ right.filter (·.1.encode = entry.1.encode) :=
    hsame entry.1.encode ▸ List.mem_filter.mpr ⟨hentry, by simp⟩
  exact (List.mem_filter.mp hfilter).1

theorem eq_of_filter_eq {left right : List (Cbor × Cbor)}
    (hleft : left.Pairwise fun first second => first.1.encode ≤ second.1.encode)
    (hright : right.Pairwise fun first second => first.1.encode ≤ second.1.encode)
    (hsame : ∀ key : List UInt8,
      left.filter (·.1.encode = key) = right.filter (·.1.encode = key)) : left = right := by
  induction left generalizing right with
  | nil =>
      cases right with
      | nil => rfl
      | cons entry rest =>
          exact absurd (mem_of_filter_eq (fun key => (hsame key).symm) List.mem_cons_self)
            List.not_mem_nil
  | cons first others ih =>
      cases right with
      | nil => exact absurd (mem_of_filter_eq hsame List.mem_cons_self) List.not_mem_nil
      | cons entry rest =>
          have hentry : entry ∈ first :: others :=
            mem_of_filter_eq (fun key => (hsame key).symm) List.mem_cons_self
          have hkey : first.1.encode = entry.1.encode :=
            List.le_antisymm (encode_le_of_pairwise hleft hentry)
              (encode_le_of_pairwise hright (mem_of_filter_eq hsame List.mem_cons_self))
          have hfirst := hsame first.1.encode
          rw [List.filter_cons_of_pos (by simp), List.filter_cons_of_pos (by simp [hkey])] at hfirst
          obtain rfl : first = entry := (List.cons.inj hfirst).1
          have hrest (key : List UInt8) :
              others.filter (·.1.encode = key) = rest.filter (·.1.encode = key) := by
            have hboth := hsame key
            simp only [List.filter_cons] at hboth
            split_ifs at hboth
            · exact (List.cons.inj hboth).2
            · exact hboth
          rw [ih hleft.tail (List.pairwise_cons.mp hright).2 hrest]

theorem sortedFrom_iff {entries ordered : List (Cbor × Cbor)} :
    SortedFrom entries ordered ↔ ordered = sortByKey entries := by
  constructor
  · intro hsorted
    have hsortByKey := sortedFrom_sortByKey entries
    apply eq_of_filter_eq hsorted.ascending hsortByKey.ascending
    intro key
    rw [hsorted.stable, hsortByKey.stable]
  · rintro rfl
    exact sortedFrom_sortByKey entries

/-- No two keys of a map are written alike. -/
def DistinctKeys (entries : List (Cbor × Cbor)) : Prop :=
  (entries.map fun entry => entry.1.encode).Nodup

theorem DistinctKeys.pairwise_lt {entries : List (Cbor × Cbor)} (hdistinct : DistinctKeys entries) :
    (sortByKey entries).Pairwise fun left right => left.1.encode < right.1.encode := by
  have hperm := (sortByKey_perm entries).map fun entry => entry.1.encode
  have hne := List.pairwise_map.mp (hperm.nodup_iff.mpr hdistinct)
  refine ((sortedFrom_sortByKey entries).ascending.and hne).imp ?_
  rintro left right ⟨hle, hne⟩
  exact (List.le_iff_lt_or_eq.mp hle).resolve_right hne

theorem sortEntries_perm {left right : List Entry} (hperm : left.Perm right)
    (hdistinct : (left.map Prod.fst).Nodup) : sortEntries left = sortEntries right := by
  have hsorted := List.pairwise_mergeSort keyBefore_trans keyBefore_total
  refine ((List.mergeSort_perm left keyBefore).trans
    (hperm.trans (List.mergeSort_perm right keyBefore).symm)).eq_of_pairwise ?_ (hsorted left)
    (hsorted right)
  intro first second hfirst hsecond hbefore hafter
  have hkey : first.1 = second.1 :=
    List.le_antisymm (of_decide_eq_true hbefore) (of_decide_eq_true hafter)
  exact List.inj_on_of_nodup_map hdistinct (List.mem_mergeSort.mp hfirst)
    (hperm.mem_iff.mpr (List.mem_mergeSort.mp hsecond)) hkey

theorem encode_map (entries : List (Cbor × Cbor)) :
    (map entries).encode = head 5 entries.length ++
      (sortByKey entries).flatMap fun entry => entry.1.encode ++ entry.2.encode := by
  rw [encode, encodeEntries_eq_map, ← map_written_sortByKey, List.flatMap_map]
  rfl

theorem encode_map_congr {left right : List (Cbor × Cbor)}
    (hsorted : sortEntries (left.map written) = sortEntries (right.map written)) :
    (map left).encode = (map right).encode := by
  have hlength : left.length = right.length := by
    simpa [sortEntries] using congrArg List.length hsorted
  rw [encode, encode, encodeEntries_eq_map, encodeEntries_eq_map, hsorted, hlength]

/-- The values that a value is made of, itself among them. -/
inductive Within : Cbor → Cbor → Prop
  | self {value : Cbor} : Within value value
  | key {inner : Cbor} {entries : List (Cbor × Cbor)} {entry : Cbor × Cbor}
      (hentry : entry ∈ entries) (hinner : Within inner entry.1) : Within inner (map entries)
  | value {inner : Cbor} {entries : List (Cbor × Cbor)} {entry : Cbor × Cbor}
      (hentry : entry ∈ entries) (hinner : Within inner entry.2) : Within inner (map entries)

theorem infix_encode_entry {entries : List (Cbor × Cbor)} {entry : Cbor × Cbor}
    (hentry : entry ∈ entries) :
    entry.1.encode ++ entry.2.encode <:+: (map entries).encode := by
  have hsorted : entry ∈ sortByKey entries := (sortByKey_perm entries).mem_iff.mpr hentry
  rw [encode_map, List.flatMap_def]
  refine List.IsInfix.trans ?_ (List.suffix_append _ _).isInfix
  exact List.infix_of_mem_flatten (List.mem_map.mpr ⟨entry, hsorted, rfl⟩)

theorem Within.infix_encode {inner value : Cbor} (hwithin : Within inner value) :
    inner.encode <:+: value.encode := by
  induction hwithin with
  | self => exact List.infix_rfl
  | key hentry _ ih =>
      exact ih.trans ((List.prefix_append _ _).isInfix.trans (infix_encode_entry hentry))
  | value hentry _ ih =>
      exact ih.trans ((List.suffix_append _ _).isInfix.trans (infix_encode_entry hentry))

end Signoff.Cbor
