import Signoff.Fixture
import Signoff.Proofs.Fetch.Content

namespace Signoff

/-! Bodies held against the limit. What is made of a body that arrives as a whole follows from its
bytes alone; no more of any body is hashed than the limit allows; and no digest is made of a
part. -/

namespace Hasher

def fed : Hasher → Nat
  | sha256 stream => stream.length
  | sha512 stream => stream.length

@[simp] theorem fed_absorb (hasher : Hasher) (piece : List UInt8) :
    (hasher.absorb piece).fed = hasher.fed + piece.length := by
  cases hasher with
  | sha256 stream => rfl
  | sha512 stream => rfl

theorem fed_foldl (hasher : Hasher) (pieces : List (List UInt8)) :
    (pieces.foldl absorb hasher).fed = hasher.fed + pieces.flatten.length := by
  induction pieces generalizing hasher with
  | nil => rfl
  | cons piece rest ih =>
      rw [List.foldl_cons, ih, fed_absorb, List.flatten_cons, List.length_append, Nat.add_assoc]

theorem fed_ofAlgorithm? {algorithm : Algorithm} {hasher : Hasher}
    (hhasher : ofAlgorithm? algorithm = some hasher) : hasher.fed = 0 := by
  cases algorithm with
  | sha256 => cases hhasher; rfl
  | sha512 => cases hhasher; rfl
  | md5 => cases hhasher

end Hasher

namespace Response

/-- The body ends before the length that was declared for it, or before its last piece. -/
def Truncated (response : Response) : Prop :=
  response.hasBody = true ∧
    match response.framing with
    | .declared length => response.chunks.flatten.length < length
    | .chunked => response.ending ≠ .finished
    | .untilClose => False

theorem Truncated.ending_ne {response : Response} (htruncated : response.Truncated) :
    response.arrival.ending ≠ .finished := by
  obtain ⟨hbody, hshort⟩ := htruncated
  rw [arrival, if_pos hbody]
  cases hframing : response.framing with
  | declared length =>
      simp only [hframing] at hshort
      have hmissing : (within length response.chunks).flatten.length < length := by
        rw [flatten_within, List.length_take]
        omega
      simp only [hmissing, decide_true, Bool.not_true, Bool.false_eq_true, if_false]
      split
      · simp
      · simp
  | chunked =>
      simp only [hframing] at hshort
      exact hshort
  | untilClose =>
      simp only [hframing] at hshort

/-- The same answer with a body that arrives as a whole, in these pieces. -/
def serving (response : Response) (framing : Framing) (pieces : List (List UInt8)) : Response :=
  { response with framing, chunks := pieces, ending := .finished }

end Response

/-- A body of this length is complete under the framing. -/
def Framing.Fits (length : Nat) : Framing → Prop
  | .declared announced => announced = length
  | .chunked => True
  | .untilClose => True

namespace Response

theorem arrival_serving {response : Response} {framing : Framing} {pieces : List (List UInt8)}
    (hbody : response.hasBody = true) (hfits : framing.Fits pieces.flatten.length) :
    (response.serving framing pieces).arrival.ending = .finished ∧
      (response.serving framing pieces).arrival.chunks.flatten = pieces.flatten := by
  have hserving : (response.serving framing pieces).hasBody = true := hbody
  rw [arrival, if_pos hserving]
  cases framing with
  | declared announced =>
      simp only [Framing.Fits] at hfits
      subst hfits
      have hwithin : (within pieces.flatten.length pieces).flatten = pieces.flatten := by
        rw [flatten_within, List.take_length]
      refine ⟨?_, hwithin⟩
      simp only [serving, hwithin, Nat.lt_irrefl, decide_false, Bool.not_false, if_true]
  | chunked => exact ⟨rfl, rfl⟩
  | untilClose => exact ⟨rfl, rfl⟩

end Response

namespace Fetch

variable {options : FetchOptions} {response : Response}

structure Accepted (options : FetchOptions) (response : Response) : Prop where
  success : response.isSuccess = true
  allowed : options.allows (response.header? "content-type") = true

/-- What is to be made of a whole body: its digest, unless it is larger than the limit. -/
def Settles (options : FetchOptions) (body : List UInt8)
    (outcome : Except FetchError String) : Prop :=
  ∃ digest, options.algorithm.digest? body = some digest ∧
    outcome = if body.length ≤ options.maxBytes.toNat then .ok digest
      else .error (.tooLarge options.maxBytes)

theorem exists_hasher {algorithm : Algorithm} (halgorithm : algorithm ≠ .md5) :
    ∃ hasher, Hasher.ofAlgorithm? algorithm = some hasher := by
  cases algorithm with
  | sha256 => exact ⟨_, rfl⟩
  | sha512 => exact ⟨_, rfl⟩
  | md5 => exact absurd rfl halgorithm

theorem digestSuccess_eq {hasher : Hasher} (haccepted : Accepted options response)
    (hhasher : Hasher.ofAlgorithm? options.algorithm = some hasher) :
    digestSuccess options response =
      if response.declaredLength?.any (options.maxBytes.toNat < ·) then
        .error (.tooLarge options.maxBytes)
      else (digestArrival options hasher response.arrival).1 := by
  rw [digestSuccess, if_pos haccepted.success, digestResponse_eq, if_pos haccepted.allowed, hhasher]

theorem settles_of_finished (halgorithm : options.algorithm ≠ .md5)
    (haccepted : Accepted options response) (hfinished : response.arrival.ending = .finished) :
    Settles options response.arrival.chunks.flatten (digestSuccess options response) := by
  obtain ⟨hasher, hhasher⟩ := exists_hasher halgorithm
  have hdigest := Hasher.digest_foldl options.algorithm response.arrival.chunks
  rw [hhasher] at hdigest
  refine ⟨_, hdigest.symm, ?_⟩
  rw [digestSuccess_eq haccepted hhasher, digestArrival_eq]
  by_cases hbound : response.arrival.chunks.flatten.length ≤ options.maxBytes.toNat
  · rw [declaredLength_le hfinished hbound, if_neg Bool.false_ne_true, if_pos hbound, if_pos hbound,
      hfinished]
  · rw [if_neg hbound, if_neg hbound, ite_self]

theorem Accepted.serving (haccepted : Accepted options response) (framing : Framing)
    (pieces : List (List UInt8)) : Accepted options (response.serving framing pieces) :=
  ⟨haccepted.success, haccepted.allowed⟩

/-- From its start a hasher has been given pieces up to the first that the limit has no room for,
and nothing of that one. -/
def Rationed (limit : UInt64) (pieces : List (List UInt8)) (start reached : Hasher) : Prop :=
  ∃ front back, pieces = front ++ back ∧ reached = front.foldl Hasher.absorb start ∧
    reached.fed = start.fed + front.flatten.length ∧ reached.fed ≤ limit.toNat ∧
    ∀ next ∈ back.head?, limit.toNat < reached.fed + next.length

theorem Rationed.cons {limit : UInt64} {piece : List UInt8} {rest : List (List UInt8)}
    {start reached : Hasher} (hrest : Rationed limit rest (start.absorb piece) reached) :
    Rationed limit (piece :: rest) start reached := by
  obtain ⟨front, back, rfl, rfl, hfed, hlimit, hnext⟩ := hrest
  refine ⟨piece :: front, back, rfl, rfl, ?_, hlimit, hnext⟩
  rw [hfed, Hasher.fed_absorb, List.flatten_cons, List.length_append, Nat.add_assoc]

theorem absorbAll_rationed {limit : UInt64} {hasher : Hasher} (pieces : List (List UInt8))
    (hfed : hasher.fed ≤ limit.toNat) :
    Rationed limit pieces hasher (absorbAll limit hasher.fed hasher pieces).2 := by
  induction pieces generalizing hasher with
  | nil => exact ⟨[], [], rfl, rfl, rfl, hfed, by simp⟩
  | cons piece rest ih =>
      simp only [absorbAll]
      split
      · next hexcess =>
          refine ⟨[], piece :: rest, rfl, rfl, rfl, hfed, ?_⟩
          rintro next hnext
          cases hnext
          exact hexcess
      · next hroom =>
          rw [← Hasher.fed_absorb] at hroom ⊢
          exact (ih (Nat.not_lt.mp hroom)).cons

theorem digestArrival_snd (options : FetchOptions) (hasher : Hasher) (arrival : Arrival) :
    (digestArrival options hasher arrival).2 =
      (absorbAll options.maxBytes 0 hasher arrival.chunks).2 := by
  rw [digestArrival]
  split
  · next habsorbed => rw [habsorbed]
  · next habsorbed =>
      rw [habsorbed]
      cases arrival.ending <;> rfl

theorem absorbAll_append {limit : UInt64} {received : Nat} {hasher reached : Hasher}
    {front : List (List UInt8)} (back : List (List UInt8))
    (hfront : absorbAll limit received hasher front = (.ok (), reached)) :
    absorbAll limit received hasher (front ++ back) =
      absorbAll limit (received + front.flatten.length) reached back := by
  induction front generalizing received hasher with
  | nil =>
      cases hfront
      rfl
  | cons piece rest ih =>
      simp only [absorbAll] at hfront
      split at hfront
      · cases hfront
      · next hlimit =>
          rw [List.cons_append, absorbAll, List.flatten_cons, List.length_append, ← Nat.add_assoc]
          simp only [if_neg hlimit]
          exact ih hfront

theorem fed_of_absorbAll {limit : UInt64} {hasher reached : Hasher} {pieces : List (List UInt8)}
    (hfresh : hasher.fed = 0) (hreached : absorbAll limit 0 hasher pieces = (.ok (), reached)) :
    reached.fed = pieces.flatten.length := by
  by_cases hbound : 0 + pieces.flatten.length ≤ limit.toNat
  · rw [absorbAll_of_le hasher hbound] at hreached
    cases hreached
    rw [Hasher.fed_foldl, hfresh, Nat.zero_add]
  · have hfails := absorbAll_of_lt hasher (Nat.zero_le _) (Nat.not_le.mp hbound)
    rw [hreached] at hfails
    cases hfails

/-- A body that arrives as a whole is settled by its bytes, whatever the pieces and the framing in
which they come. Hashing goes through the pieces in order and, whether a digest comes of it or an
error, the hasher has been given no more bytes than the limit, and nothing of the piece that would
have passed it. A body that is cut off has no digest. -/
theorem digest_streamed (halgorithm : options.algorithm ≠ .md5)
    (haccepted : Accepted options response) :
    (response.arrival.ending = .finished →
      Settles options response.arrival.chunks.flatten (digestSuccess options response)) ∧
    (∀ (framing : Framing) (pieces : List (List UInt8)), response.hasBody = true →
      framing.Fits pieces.flatten.length →
        Settles options pieces.flatten (digestSuccess options (response.serving framing pieces))) ∧
    (∃ hasher, Hasher.ofAlgorithm? options.algorithm = some hasher ∧ hasher.fed = 0 ∧
      Rationed options.maxBytes response.arrival.chunks hasher
        (digestArrival options hasher response.arrival).2 ∧
      (digestSuccess options response =
        if response.declaredLength?.any (options.maxBytes.toNat < ·) then
          .error (.tooLarge options.maxBytes)
        else (digestArrival options hasher response.arrival).1) ∧
      ∀ front back reached, response.arrival.chunks = front ++ back →
        absorbAll options.maxBytes 0 hasher front = (.ok (), reached) →
          reached.fed = front.flatten.length ∧
            absorbAll options.maxBytes 0 hasher response.arrival.chunks =
              absorbAll options.maxBytes reached.fed reached back) ∧
    (response.Truncated → ∀ digest, digestSuccess options response ≠ .ok digest) := by
  refine ⟨settles_of_finished halgorithm haccepted, ?_, ?_, ?_⟩
  · intro framing pieces hbody hfits
    obtain ⟨hfinished, hflatten⟩ := Response.arrival_serving hbody hfits
    rw [← hflatten]
    exact settles_of_finished halgorithm (haccepted.serving framing pieces) hfinished
  · obtain ⟨hasher, hhasher⟩ := exists_hasher halgorithm
    have hfresh := Hasher.fed_ofAlgorithm? hhasher
    refine ⟨hasher, hhasher, hfresh, ?_, digestSuccess_eq haccepted hhasher, ?_⟩
    · have hrationed := absorbAll_rationed response.arrival.chunks
        (hfresh ▸ Nat.zero_le options.maxBytes.toNat)
      rwa [digestArrival_snd, ← hfresh]
    · intro front back reached hchunks hreached
      have hfed := fed_of_absorbAll hfresh hreached
      rw [hchunks, absorbAll_append back hreached, Nat.zero_add, hfed]
      exact ⟨rfl, rfl⟩
  · intro htruncated digest hdigest
    obtain ⟨_, hserves, _⟩ := digestSuccess_eq_ok_iff.mp hdigest
    exact htruncated.ending_ne hserves.complete

def threeBytes : Response where
  status := 200
  headers := [("Content-Type", "application/pdf".toUTF8.toList)]
  framing := .declared 3
  chunks := [[97], [98, 99]]
  ending := .finished

def limitedTo (limit : UInt64) : FetchOptions := { Fixture.localOptions with maxBytes := limit }

/-- Three bytes in three pieces, one of them empty, are as many as are allowed; they are too many
for a lower limit, where the second piece is not hashed; and a fourth that is declared but does not
come leaves no digest. -/
theorem digest_streamed_threeBytes :
    (limitedTo 3).algorithm ≠ .md5 ∧ Accepted (limitedTo 3) threeBytes ∧
      Accepted (limitedTo 2) threeBytes ∧
      digestSuccess (limitedTo 3) (threeBytes.serving .chunked [[97], [], [98, 99]]) =
        .ok "ba7816bf8f01cfea414140de5dae2223b00361a396177a9cb410ff61f20015ad" ∧
      digestSuccess (limitedTo 2) threeBytes = .error (.tooLarge 2) ∧
      (∃ hasher, Rationed 2 [[97], [98, 99]] hasher (hasher.absorb [97])) ∧
      ∀ digest, digestSuccess (limitedTo 3) { threeBytes with framing := .declared 4 } ≠
        .ok digest := by
  have halgorithm (limit : UInt64) : (limitedTo limit).algorithm ≠ .md5 := by
    simp [limitedTo, Fixture.localOptions]
  have hallowed : ContentType.allowed Fixture.localOptions.allowedTypes
      (threeBytes.header? "content-type") = true := by decide +kernel
  have haccepted (limit : UInt64) : Accepted (limitedTo limit) threeBytes := ⟨rfl, hallowed⟩
  have habc : Algorithm.sha256.digest? [97, 98, 99] =
      some "ba7816bf8f01cfea414140de5dae2223b00361a396177a9cb410ff61f20015ad" := by
    decide +kernel
  refine ⟨halgorithm 3, haccepted 3, haccepted 2, ?_, ?_, ?_, ?_⟩
  · obtain ⟨digest, hdigest, houtcome⟩ := (digest_streamed (halgorithm 3) (haccepted 3)).2.1
      .chunked [[97], [], [98, 99]] rfl trivial
    rw [houtcome, if_pos (by decide)]
    exact congrArg Except.ok (Option.some.inj (hdigest.symm.trans habc))
  · obtain ⟨digest, hdigest, houtcome⟩ :=
      (digest_streamed (halgorithm 2) (haccepted 2)).1 (by decide)
    rw [houtcome, if_neg (by decide)]
    rfl
  · obtain ⟨hasher, hhasher, -, hrationed, -⟩ := (digest_streamed (halgorithm 2) (haccepted 2)).2.2.1
    exact ⟨hasher, hrationed⟩
  · have hshort : Accepted (limitedTo 3) { threeBytes with framing := .declared 4 } :=
      ⟨rfl, hallowed⟩
    exact (digest_streamed (halgorithm 3) hshort).2.2.2 ⟨rfl, by decide⟩

end Fetch

end Signoff
