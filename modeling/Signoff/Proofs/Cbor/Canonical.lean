import Mathlib
import Signoff.Proofs.Cbor.Decoding

namespace Signoff.Cbor

/-! What is written of a value is read back as the value with its maps in order, and the order in
which a value has entries with distinct keys leaves no trace. -/

mutual

/-- The value with the entries of each map in order, within keys and values too. -/
def sorted : Cbor → Cbor
  | map entries => map (sortByKey (sortedEntries entries))
  | value => value

def sortedEntries : List (Cbor × Cbor) → List (Cbor × Cbor)
  | [] => []
  | (key, value) :: rest => (key.sorted, value.sorted) :: sortedEntries rest

end

theorem sortedEntries_eq_map (entries : List (Cbor × Cbor)) :
    sortedEntries entries = entries.map fun entry => (entry.1.sorted, entry.2.sorted) := by
  induction entries with
  | nil => simp [sortedEntries]
  | cons entry rest ih => simp [sortedEntries, ih]

theorem sorted_map (entries : List (Cbor × Cbor)) :
    (map entries).sorted =
      map (sortByKey (entries.map fun entry => (entry.1.sorted, entry.2.sorted))) := by
  rw [sorted, sortedEntries_eq_map]

/-- Values in order are written like those that they come from. -/
theorem encode_sorted (value : Cbor) : value.sorted.encode = value.encode := by
  induction value using induct with
  | map entries ih =>
      rw [sorted_map]
      apply encode_map_congr
      have hwritten : (entries.map fun entry => (entry.1.sorted, entry.2.sorted)).map written =
          entries.map written := by
        rw [List.map_map]
        apply List.map_congr_left
        intro entry hentry
        simp [written, ih entry hentry]
      rw [map_written_sortByKey, sortEntries_sortEntries, hwritten]
  | _ => simp only [sorted]

theorem written_sorted (entry : Cbor × Cbor) :
    written (entry.1.sorted, entry.2.sorted) = written entry := by
  simp only [written, encode_sorted]

theorem sortByKey_sorted (entries : List (Cbor × Cbor)) :
    sortByKey (entries.map fun entry => (entry.1.sorted, entry.2.sorted)) =
      (sortByKey entries).map fun entry => (entry.1.sorted, entry.2.sorted) := by
  refine (List.map_mergeSort ?_).symm
  intro left _ right _
  rw [written_sorted, written_sorted]

def Fits : Cbor → Prop
  | integer value => -(Bytes.capacity 8 : Int) ≤ value ∧ value < Bytes.capacity 8
  | bytes value => value.length < Bytes.capacity 8
  | text value => (Text.bytes value).length < Bytes.capacity 8
  | null => True
  | map entries => entries.length < Bytes.capacity 8

def Sized (value : Cbor) : Prop :=
  ∀ inner, Within inner value → inner.Fits

theorem Fits.number_lt {value : Cbor} (hfits : value.Fits) : value.number < Bytes.capacity 8 := by
  cases value with
  | integer value =>
      obtain ⟨hlow, hhigh⟩ := hfits
      simp only [number]
      split <;> omega
  | null => decide
  | _ => exact hfits

theorem sized_map_iff {entries : List (Cbor × Cbor)} :
    (map entries).Sized ↔ entries.length < Bytes.capacity 8 ∧
      ∀ entry ∈ entries, entry.1.Sized ∧ entry.2.Sized := by
  constructor
  · intro hsized
    refine ⟨hsized _ .self, fun entry hentry => ⟨fun inner hinner => ?_, fun inner hinner => ?_⟩⟩
    · exact hsized inner (.key hentry hinner)
    · exact hsized inner (.value hentry hinner)
  · rintro ⟨hcount, hentries⟩ inner hwithin
    cases hwithin with
    | self => exact hcount
    | key hentry hinner => exact (hentries _ hentry).1 _ hinner
    | value hentry hinner => exact (hentries _ hentry).2 _ hinner

theorem sized_iff_fits {value : Cbor} (hplain : ∀ entries, value ≠ map entries) :
    value.Sized ↔ value.Fits := by
  refine ⟨fun hsized => hsized _ .self, fun hfits inner hwithin => ?_⟩
  cases hwithin with
  | self => exact hfits
  | _ => exact absurd rfl (hplain _)

theorem Sized.readAs {value : Cbor} (hsized : value.Sized) : ReadAs value value.sorted := by
  induction value using induct with
  | map entries ih =>
      obtain ⟨hcount, hentries⟩ := sized_map_iff.mp hsized
      rw [sorted_map, sortByKey_sorted]
      apply readAs_map hcount
      intro entry hentry
      exact ⟨(ih entry hentry).1 (hentries entry hentry).1,
        (ih entry hentry).2 (hentries entry hentry).2⟩
  | _ =>
      simp only [sorted]
      exact Framed.readAs (hsized _ .self).number_lt

/-- Some map in a value, with distinct keys, has its entries in another order. -/
inductive Reorders : Cbor → Cbor → Prop
  | entries {entries others : List (Cbor × Cbor)} (hperm : entries.Perm others)
      (hdistinct : DistinctKeys entries) : Reorders (map entries) (map others)
  | key {front back : List (Cbor × Cbor)} {key other value : Cbor} (hkey : Reorders key other) :
      Reorders (map (front ++ (key, value) :: back)) (map (front ++ (other, value) :: back))
  | value {front back : List (Cbor × Cbor)} {key value other : Cbor}
      (hvalue : Reorders value other) :
      Reorders (map (front ++ (key, value) :: back)) (map (front ++ (key, other) :: back))

theorem Reorders.encode_eq {value other : Cbor} (hreorders : Reorders value other) :
    value.encode = other.encode := by
  induction hreorders with
  | entries hperm hdistinct =>
      apply encode_map_congr
      apply sortEntries_perm (hperm.map written)
      rwa [List.map_map]
  | key _ ih =>
      apply encode_map_congr
      simp [written, ih]
  | value _ ih =>
      apply encode_map_congr
      simp [written, ih]

theorem encode_eq_of_reordered {value other : Cbor}
    (hreordered : Relation.ReflTransGen Reorders value other) : other.encode = value.encode := by
  induction hreordered with
  | refl => rfl
  | tail _ hlast ih => rw [← hlast.encode_eq, ih]

/-- What is written of a value is read back, whatever follows it, as the value with its maps in
order, and every head on the way is as short as it can be. A map stands in it with its entries
sorted by their keys, stably and strictly if the keys are distinct, and then it is the same for
every order of the entries, at any depth. -/
theorem encode_canonical {value : Cbor} (hsized : value.Sized) :
    (∀ rest, ∃ item, decode (value.encode ++ rest) = some item ∧ item.value = value.sorted ∧
      item.rest = rest ∧ ∀ head ∈ item.heads, head.Shortest) ∧
    (∀ entries ordered, SortedFrom entries ordered ↔ ordered = sortByKey entries) ∧
    (∀ entries, Within (map entries) value →
      (map entries).encode <:+: value.encode ∧
      (map entries).encode = head 5 entries.length ++
        (sortByKey entries).flatMap (fun entry => entry.1.encode ++ entry.2.encode) ∧
      (DistinctKeys entries →
        (sortByKey entries).Pairwise fun left right => left.1.encode < right.1.encode)) ∧
    ∀ other, Relation.ReflTransGen Reorders value other → other.encode = value.encode := by
  refine ⟨hsized.readAs, fun _ _ => sortedFrom_iff, ?_, fun _ => encode_eq_of_reordered⟩
  intro entries hwithin
  exact ⟨hwithin.infix_encode, encode_map entries, DistinctKeys.pairwise_lt⟩

def nested (inner : List (Cbor × Cbor)) : Cbor :=
  map [(map inner, text "é"), (integer (-0x10000000000000000), integer 0xffffffffffffffff),
    (integer 24, map []), (integer 24, null)]

theorem encode_canonical_nested :
    let inner := [(integer 1, null), (integer (-1), bytes [0]), (integer 0, null)]
    let value := nested inner
    value.Sized ∧
      (∃ item, decode (value.encode ++ [0xff]) = some item ∧
        item.value = map [(integer 24, map []), (integer 24, null),
          (integer (-0x10000000000000000), integer 0xffffffffffffffff),
          (map [(integer 0, null), (integer 1, null), (integer (-1), bytes [0])], text "é")] ∧
        item.rest = [0xff] ∧ ∀ head ∈ item.heads, head.Shortest) ∧
      (nested inner.reverse).encode = value.encode := by
  intro inner value
  have htext : "é".utf8ByteSize < 0x10000000000000000 := by decide
  have hsized : value.Sized := by
    simp [value, nested, inner, sized_map_iff, sized_iff_fits, Fits, Bytes.capacity_eight,
      Text.length_bytes, htext]
  obtain ⟨hread, _, _, hreordered⟩ := encode_canonical hsized
  obtain ⟨item, hdecode, hvalue, hrest⟩ := hread [0xff]
  have hdistinct : DistinctKeys inner := by
    rw [DistinctKeys]
    decide
  have hinner : Reorders (map inner) (map inner.reverse) :=
    .entries inner.reverse_perm.symm hdistinct
  have houter : Reorders value (nested inner.reverse) := @Reorders.key [] _ _ _ _ hinner
  refine ⟨hsized, ⟨item, hdecode, ?_, hrest⟩, hreordered _ (.single houter)⟩
  rw [hvalue]
  cbv

end Signoff.Cbor
