import Signoff.Record.Json
import Signoff.Proofs.Hex

namespace Signoff

/-! What a record is written as is read as the same record, in whatever order its fields come and
whatever else stands between them. -/

variable {α : Type}

namespace Json

/-- What is written is read as it was, and nothing that is present is written as null. -/
structure Faithful (read : Json → Option α) (write : α → Json) : Prop where
  reads : ∀ value, read (write value) = some value
  present : ∀ value, write value ≠ .null

theorem faithful_text : Faithful text? .text where
  reads _ := rfl
  present _ hnull := by cases hnull

theorem faithful_int64 : Faithful int64? ofInt64 where
  reads value := by
    have hlow : Int64.minValue.toInt ≤ value.toInt := value.le_toInt
    have hhigh : value.toInt ≤ Int64.maxValue.toInt := value.toInt_le
    rw [int64?, ofInt64, integer?, Option.bind_eq_bind, Option.bind_some, if_pos ⟨hlow, hhigh⟩,
      Int64.ofInt_toInt]
  present _ hnull := by cases hnull

theorem faithful_uint16 : Faithful uint16? fun value : UInt16 => .integer value.toNat where
  reads value := by
    have hlow : (0 : Int) ≤ value.toNat := Int.natCast_nonneg _
    have hhigh : (value.toNat : Int) < UInt16.size := Int.ofNat_lt.mpr value.toNat_lt_size
    rw [uint16?, integer?, Option.bind_eq_bind, Option.bind_some, if_pos ⟨hlow, hhigh⟩,
      Int.toNat_natCast, UInt16.ofNat_toNat]
  present _ hnull := by cases hnull

theorem faithful_octets (length : Nat) : Faithful (octets? length) ofOctets where
  reads octets := by
    rw [octets?, ofOctets, text?]
    simp [Hex.decode_hex, Except.toOption]
  present _ hnull := by cases hnull

section

variable {read : Json → Option α} {write : α → Json} {json : Json} {name : String}

theorem Faithful.required? (hfaithful : Faithful read write) {value : α}
    (hfield : json.field? name = some (write value)) : json.required? name read = some value := by
  rw [Json.required?, hfield, Option.bind_some, hfaithful.reads]

theorem Faithful.optionalField? (hfaithful : Faithful read write) {value : Option α}
    (hfield : json.field? name = some (ofOption write value)) :
    json.optionalField? name read = some value := by
  rw [Json.optionalField?, hfield]
  cases value with
  | none => rfl
  | some value =>
      rw [ofOption, optional?]
      · rw [hfaithful.reads, Option.map_some]
      · exact hfaithful.present value

theorem named_of_field? {value : Json} (hfield : json.field? name = some value)
    (names : List String) : json.named names = json := by
  cases json with
  | array items => cases hfield
  | _ => rfl

end

theorem write_inj {read : Json → Option α} {write : α → Json}
    (hreads : ∀ value, read (write value) = some value) {left right : α}
    (hsame : write left = write right) : left = right := by
  have hread := hreads left
  rw [hsame, hreads] at hread
  exact (Option.some.inj hread).symm

theorem field?_of_mem {fields : List (String × Json)} (hdistinct : (fields.map Prod.fst).Nodup)
    {field : String × Json} (hmem : field ∈ fields) :
    (object fields).field? field.1 = some field.2 := by
  rw [Json.field?]
  induction fields with
  | nil => cases hmem
  | cons first rest ih =>
      rw [List.map_cons, List.nodup_cons] at hdistinct
      rcases List.mem_cons.mp hmem with rfl | hrest
      · exact List.lookup_cons_self
      · have hother : field.1 ≠ first.1 := fun hsame =>
          hdistinct.1 (hsame ▸ List.mem_map_of_mem hrest)
        rw [List.lookup_cons, beq_false_of_ne hother]
        exact ih hdistinct.2 hrest

end Json

namespace User

structure ShownIn (user : User) (json : Json) : Prop where
  subject : json.field? "sub" = some (.text user.subject)
  email : json.field? "email" = some (.text user.email)
  name : json.field? "name" = some (.text user.name)

theorem shownIn_toJson (user : User) : user.ShownIn user.toJson :=
  ⟨rfl, rfl, rfl⟩

theorem ofJson?_of_shownIn {user : User} {json : Json} (hshown : user.ShownIn json) :
    ofJson? json = some user := by
  rw [ofJson?, Json.named_of_field? hshown.subject, Json.faithful_text.required? hshown.subject,
    Json.faithful_text.required? hshown.email, Json.faithful_text.required? hshown.name]
  rfl

end User

namespace Draft

structure ShownIn (draft : Draft) (json : Json) : Prop where
  user : ∃ shown, json.field? "user" = some shown ∧ draft.user.ShownIn shown
  others : ∀ field ∈ draft.fields, field.1 ≠ "user" → json.field? field.1 = some field.2

theorem ofJson?_of_shownIn {draft : Draft} {json : Json} (hshown : draft.ShownIn json) :
    ofJson? json = some draft := by
  obtain ⟨⟨shown, hshownAt, huserShown⟩, hothers⟩ := hshown
  have huser : json.required? "user" User.ofJson? = some draft.user := by
    rw [Json.required?, hshownAt, Option.bind_some, User.ofJson?_of_shownIn huserShown]
  simp only [fields, List.forall_mem_cons, ne_eq, String.reduceEq, not_false_eq_true,
    not_true_eq_false, forall_const, false_implies, true_and] at hothers
  obtain ⟨hdocId, hsignedAt, hchecksum, hpayload, hsignature, hnonce, hreferer, hprevious,
    hversion, _⟩ := hothers
  -- Under each name the reader of its kind finds what the writer of that kind has put there.
  rw [ofJson?, Json.named_of_field? hshownAt, huser, Json.faithful_text.required? hdocId,
    Json.faithful_int64.required? hsignedAt, Json.faithful_text.optionalField? hchecksum,
    (Json.faithful_octets 32).required? hpayload, (Json.faithful_octets 64).required? hsignature,
    (Json.faithful_octets 32).required? hnonce, Json.faithful_text.optionalField? hreferer,
    (Json.faithful_octets 32).optionalField? hprevious, Json.faithful_uint16.required? hversion]
  rfl

theorem shownIn_object {draft : Draft} {fields : List (String × Json)}
    (hdistinct : (fields.map Prod.fst).Nodup) (hsubset : draft.fields ⊆ fields) :
    draft.ShownIn (.object fields) where
  user := by
    have huser : ("user", draft.user.toJson) ∈ draft.fields := by simp [Draft.fields]
    exact ⟨_, Json.field?_of_mem hdistinct (hsubset huser), draft.user.shownIn_toJson⟩
  others _ hmem _ := Json.field?_of_mem hdistinct (hsubset hmem)

theorem names_distinct (draft : Draft) : (draft.fields.map Prod.fst).Nodup := by
  have hnames : draft.fields.map Prod.fst = fieldNames := rfl
  rw [hnames]
  decide

theorem shownIn_toJson (draft : Draft) : draft.ShownIn draft.toJson :=
  shownIn_object draft.names_distinct (List.Subset.refl _)

theorem ofJson?_toJson (draft : Draft) : ofJson? draft.toJson = some draft :=
  ofJson?_of_shownIn draft.shownIn_toJson

end Draft

namespace Record

structure ShownIn (record : Record) (json : Json) : Prop where
  draft : record.toDraft.ShownIn json
  id : json.field? "id" = some (.ofInt64 record.id)
  createdAt : json.field? "created_at" = some (.ofInt64 record.createdAt)

theorem ofJson?_of_shownIn {record : Record} {json : Json} (hshown : record.ShownIn json) :
    ofJson? json = some record := by
  rw [ofJson?, Json.named_of_field? hshown.id, Draft.ofJson?_of_shownIn hshown.draft,
    Json.faithful_int64.required? hshown.id, Json.faithful_int64.required? hshown.createdAt]
  rfl

def entries (record : Record) : List (String × Json) :=
  record.fields ++ [("id", .ofInt64 record.id), ("created_at", .ofInt64 record.createdAt)]

theorem shownIn_object {record : Record} {fields : List (String × Json)}
    (hdistinct : (fields.map Prod.fst).Nodup) (hsubset : record.entries ⊆ fields) :
    record.ShownIn (.object fields) where
  draft := Draft.shownIn_object hdistinct fun _ hmem => hsubset (List.mem_append_left _ hmem)
  id := by
    have hid : ("id", Json.ofInt64 record.id) ∈ record.entries := by simp [entries]
    exact Json.field?_of_mem hdistinct (hsubset hid)
  createdAt := by
    have hcreatedAt : ("created_at", Json.ofInt64 record.createdAt) ∈ record.entries := by
      simp [entries]
    exact Json.field?_of_mem hdistinct (hsubset hcreatedAt)

theorem shownIn_toJson (record : Record) : record.ShownIn record.toJson := by
  have hnames : record.entries.map Prod.fst = Draft.fieldNames ++ ["id", "created_at"] := rfl
  have hdistinct : (record.entries.map Prod.fst).Nodup := by
    rw [hnames]
    decide
  exact shownIn_object hdistinct (List.Subset.refl _)

theorem ofJson?_toJson (record : Record) : ofJson? record.toJson = some record :=
  ofJson?_of_shownIn record.shownIn_toJson

/-- What is written tells which record it is of, an absent text and an empty one kept apart, and
so do the hexadecimal texts of octets, which are read in either case and written in lower case. -/
theorem serialization_faithful :
    (∀ draft json, Draft.ShownIn draft json → Draft.ofJson? json = some draft) ∧
    (∀ record json, ShownIn record json → ofJson? json = some record) ∧
    (∀ draft : Draft, draft.ShownIn draft.toJson ∧ Draft.ofJson? draft.toJson = some draft) ∧
    (∀ record : Record, record.ShownIn record.toJson ∧ ofJson? record.toJson = some record) ∧
    (∀ left right : Draft, left.toJson = right.toJson → left = right) ∧
    (∀ left right : Record, left.toJson = right.toJson → left = right) ∧
    (∀ length text, (∃ octets, Hex.decode length text = .ok octets) ↔
      text.toList.length = 2 * length ∧ ∀ char ∈ text.toList, char ∈ Checksum.hexDigits) ∧
    (∀ length (octets : Octets length), Hex.decode length octets.hex = .ok octets ∧
      Json.octets? length (.ofOctets octets) = some octets) ∧
    (∀ length text octets, Hex.decode length text = .ok octets →
      octets.hex = Text.asciiLowercase text) := by
  refine ⟨fun _ _ => Draft.ofJson?_of_shownIn, fun _ _ => ofJson?_of_shownIn,
    fun draft => ⟨draft.shownIn_toJson, draft.ofJson?_toJson⟩,
    fun record => ⟨record.shownIn_toJson, record.ofJson?_toJson⟩,
    fun _ _ => Json.write_inj Draft.ofJson?_toJson, fun _ _ => Json.write_inj ofJson?_toJson,
    fun _ _ => Hex.decode_accepts_iff,
    fun length octets => ⟨Hex.decode_hex octets, (Json.faithful_octets length).reads octets⟩,
    fun _ _ _ => Hex.hex_of_decode⟩

end Record

end Signoff
