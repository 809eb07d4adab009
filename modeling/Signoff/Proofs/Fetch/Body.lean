import Signoff.Fetch.Body
import Signoff.Proofs.Except

namespace Signoff

/-! What the digest of a body is the digest of. The pieces in which it arrives and the limits that
it is held against leave no trace in it. -/

def Algorithm.digest? : Algorithm → List UInt8 → Option String
  | .sha256, body => some (Signoff.sha256 body).hex
  | .sha512, body => some (Signoff.sha512 body).hex
  | .md5, _ => none

namespace Sha2.Stream

variable {width : Nat}

theorem finish_foldl (variant : Variant width) (pieces : List (List UInt8)) :
    (pieces.foldl (absorb variant) (empty variant)).finish variant =
      hash variant pieces.flatten := by
  cases pieces with
  | nil => simp [finish, empty, hash, pad]
  | cons piece rest => rw [foldl_absorb _ _ _ (by simp), finish_absorb_empty]

end Sha2.Stream

namespace Hasher

/-- Hashing a body piece by piece gives the digest of the whole. -/
theorem digest_foldl (algorithm : Algorithm) (pieces : List (List UInt8)) :
    (ofAlgorithm? algorithm).map (fun hasher => (pieces.foldl absorb hasher).digest) =
      algorithm.digest? pieces.flatten := by
  cases algorithm with
  | sha256 =>
      have hfold (stream : Sha2.Stream 32) : pieces.foldl absorb (sha256 stream) =
          sha256 (pieces.foldl (Sha2.Stream.absorb Sha2.variant256) stream) :=
        List.foldl_hom sha256 fun _ _ => rfl
      simp only [ofAlgorithm?, Option.map_some, hfold, digest, Sha2.Stream.finish_foldl]
      rfl
  | sha512 =>
      have hfold (stream : Sha2.Stream 64) : pieces.foldl absorb (sha512 stream) =
          sha512 (pieces.foldl (Sha2.Stream.absorb Sha2.variant512) stream) :=
        List.foldl_hom sha512 fun _ _ => rfl
      simp only [ofAlgorithm?, Option.map_some, hfold, digest, Sha2.Stream.finish_foldl]
      rfl
  | md5 => rfl

end Hasher

namespace Response

theorem flatten_within (room : Nat) (chunks : List (List UInt8)) :
    (within room chunks).flatten = chunks.flatten.take room := by
  induction chunks generalizing room with
  | nil => simp [within]
  | cons chunk rest ih => simp [within, ih, List.take_append]

theorem length_of_declared {response : Response} {length : Nat}
    (hdeclared : response.declaredLength? = some length)
    (hfinished : response.arrival.ending = .finished) :
    response.arrival.chunks.flatten.length = length := by
  by_cases hbody : response.hasBody = true
  · cases hframing : response.framing with
    | declared announced =>
        simp only [declaredLength?, hbody, if_true, hframing, Option.some.injEq] at hdeclared
        subst hdeclared
        simp only [arrival, hbody, if_true, hframing] at hfinished ⊢
        split at hfinished
        · next hmissing =>
            rw [flatten_within, List.length_take] at hmissing ⊢
            simp only [Bool.not_eq_true', decide_eq_false_iff_not] at hmissing
            omega
        · split at hfinished <;> cases hfinished
    | chunked => simp [declaredLength?, hbody, hframing] at hdeclared
    | untilClose => simp [declaredLength?, hbody, hframing] at hdeclared
  · simp only [declaredLength?, hbody, Bool.false_eq_true, if_false, Option.some.injEq] at hdeclared
    simp [arrival, hbody, hdeclared]

end Response

namespace Fetch

theorem absorbAll_of_le {limit : UInt64} {received : Nat} (hasher : Hasher)
    {pieces : List (List UInt8)} (hbound : received + pieces.flatten.length ≤ limit.toNat) :
    absorbAll limit received hasher pieces = (.ok (), pieces.foldl Hasher.absorb hasher) := by
  induction pieces generalizing received hasher with
  | nil => rfl
  | cons piece rest ih =>
      rw [List.flatten_cons, List.length_append, ← Nat.add_assoc] at hbound
      have hlimit : ¬ limit.toNat < received + piece.length := by omega
      simp only [absorbAll, if_neg hlimit, List.foldl_cons]
      exact ih (hasher.absorb piece) hbound

theorem absorbAll_of_lt {limit : UInt64} {received : Nat} (hasher : Hasher)
    {pieces : List (List UInt8)} (hreceived : received ≤ limit.toNat)
    (hexcess : limit.toNat < received + pieces.flatten.length) :
    (absorbAll limit received hasher pieces).1 = .error (.tooLarge limit) := by
  induction pieces generalizing received hasher with
  | nil => exact absurd hexcess (Nat.not_lt.mpr hreceived)
  | cons piece rest ih =>
      rw [List.flatten_cons, List.length_append, ← Nat.add_assoc] at hexcess
      simp only [absorbAll]
      split
      · rfl
      · next hlimit => exact ih (hasher.absorb piece) (Nat.not_lt.mp hlimit) hexcess

/-- An answer that brings this body, whole, of a type and a size that are allowed. -/
structure Serves (options : FetchOptions) (response : Response) (body : List UInt8) : Prop where
  success : response.isSuccess = true
  allowed : options.allows (response.header? "content-type") = true
  complete : response.arrival.ending = .finished
  body_eq : response.arrival.chunks.flatten = body
  bounded : body.length ≤ options.maxBytes.toNat

theorem digestArrival_eq (options : FetchOptions) (hasher : Hasher) (arrival : Arrival) :
    (digestArrival options hasher arrival).1 =
      if arrival.chunks.flatten.length ≤ options.maxBytes.toNat then
        match arrival.ending with
        | .finished => .ok (arrival.chunks.foldl Hasher.absorb hasher).digest
        | .cut => .error .network
        | .stalled => .error (.timeout options.timeout)
      else .error (.tooLarge options.maxBytes) := by
  rw [digestArrival]
  by_cases hbound : arrival.chunks.flatten.length ≤ options.maxBytes.toNat
  · rw [if_pos hbound, absorbAll_of_le hasher (by rwa [Nat.zero_add])]
    cases arrival.ending <;> rfl
  · have hfails := absorbAll_of_lt hasher (Nat.zero_le options.maxBytes.toNat)
      (by rwa [Nat.zero_add, ← Nat.not_le])
    rw [if_neg hbound]
    generalize absorbAll options.maxBytes 0 hasher arrival.chunks = absorbed at hfails
    obtain ⟨result, reached⟩ := absorbed
    subst hfails
    rfl

theorem digestArrival_eq_ok_iff {options : FetchOptions} {hasher : Hasher} {arrival : Arrival}
    {digest : String} :
    (digestArrival options hasher arrival).1 = .ok digest ↔
      arrival.ending = .finished ∧ arrival.chunks.flatten.length ≤ options.maxBytes.toNat ∧
        (arrival.chunks.foldl Hasher.absorb hasher).digest = digest := by
  rw [digestArrival_eq]
  split
  · next hbound =>
      simp only [hbound, true_and]
      cases arrival.ending with
      | finished => simp
      | cut => simp
      | stalled => simp
  · next hbound => simp only [hbound, false_and, and_false, reduceCtorEq]

/-- The length that is announced is no second limit: it is the length of the body. -/
theorem declaredLength_le {options : FetchOptions} {response : Response}
    (hfinished : response.arrival.ending = .finished)
    (hbound : response.arrival.chunks.flatten.length ≤ options.maxBytes.toNat) :
    response.declaredLength?.any (options.maxBytes.toNat < ·) = false := by
  cases hdeclared : response.declaredLength? with
  | none => rfl
  | some length =>
      rw [Response.length_of_declared hdeclared hfinished] at hbound
      simpa using hbound

theorem digestResponse_eq (options : FetchOptions) (response : Response) :
    digestResponse options response =
      if options.allows (response.header? "content-type") then
        if response.declaredLength?.any (options.maxBytes.toNat < ·) then
          .error (.tooLarge options.maxBytes)
        else
          match Hasher.ofAlgorithm? options.algorithm with
          | none => .error (.unsupportedAlgorithm options.algorithm)
          | some hasher => (digestArrival options hasher response.arrival).1
      else .error (.contentType (response.header? "content-type")) := by
  simp only [digestResponse]
  cases options.allows (response.header? "content-type") with
  | false => rfl
  | true => cases response.declaredLength?.any (options.maxBytes.toNat < ·) <;> rfl

theorem digestResponse_eq_ok_iff {options : FetchOptions} {response : Response} {digest : String}
    (hsuccess : response.isSuccess = true) :
    digestResponse options response = .ok digest ↔
      ∃ body, Serves options response body ∧ options.algorithm.digest? body = some digest := by
  have hdigest := Hasher.digest_foldl options.algorithm response.arrival.chunks
  rw [digestResponse_eq]
  constructor
  · intro hresponse
    split at hresponse
    · next hallowed =>
        split at hresponse
        · cases hresponse
        · split at hresponse
          · cases hresponse
          · next hasher hhasher =>
              obtain ⟨hfinished, hbound, rfl⟩ := digestArrival_eq_ok_iff.mp hresponse
              rw [hhasher] at hdigest
              exact ⟨_, ⟨hsuccess, hallowed, hfinished, rfl, hbound⟩, hdigest.symm⟩
    · cases hresponse
  · rintro ⟨_, ⟨_, hallowed, hfinished, rfl, hbound⟩, hbody⟩
    rw [hbody] at hdigest
    obtain ⟨hasher, hhasher, hdigest⟩ := Option.map_eq_some_iff.mp hdigest
    rw [if_pos hallowed, declaredLength_le hfinished hbound, hhasher]
    exact digestArrival_eq_ok_iff.mpr ⟨hfinished, hbound, hdigest⟩

end Fetch

end Signoff
