namespace Signoff

variable {ε ε' α β : Type}

theorem bind_eq_ok_iff {result : Except ε α} {next : α → Except ε β} {value : β} :
    (result >>= next) = .ok value ↔ ∃ found, result = .ok found ∧ next found = .ok value := by
  cases result with
  | error cause => simp [bind, Except.bind]
  | ok found => simp [bind, Except.bind]

theorem bind_eq_error_iff {result : Except ε α} {next : α → Except ε β} {cause : ε} :
    (result >>= next) = .error cause ↔
      result = .error cause ∨ ∃ found, result = .ok found ∧ next found = .error cause := by
  cases result with
  | error cause => simp [bind, Except.bind]
  | ok found => simp [bind, Except.bind]

@[simp] theorem mapError_ok (describe : ε → ε') (value : α) :
    (Except.ok value).mapError describe = .ok value := rfl

@[simp] theorem mapError_error (describe : ε → ε') (cause : ε) :
    (Except.error cause : Except ε α).mapError describe = .error (describe cause) := rfl

theorem mapError_eq_ok_iff {describe : ε → ε'} {result : Except ε α} {value : α} :
    result.mapError describe = .ok value ↔ result = .ok value := by
  cases result <;> simp

theorem mapError_eq_error_iff {describe : ε → ε'} {result : Except ε α} {cause : ε'} :
    result.mapError describe = .error cause ↔
      ∃ inner, result = .error inner ∧ describe inner = cause := by
  cases result <;> simp

theorem map_eq_ok_iff {change : α → β} {result : Except ε α} {value : β} :
    result.map change = .ok value ↔ ∃ found, result = .ok found ∧ change found = value := by
  cases result <;> simp [Except.map]

theorem map_eq_error_iff {change : α → β} {result : Except ε α} {cause : ε} :
    result.map change = .error cause ↔ result = .error cause := by
  cases result <;> simp [Except.map]

theorem mapM_eq_ok_iff {read : α → Except ε β} {items : List α} {values : List β} :
    items.mapM read = .ok values ↔ items.map read = values.map Except.ok := by
  induction items generalizing values with
  | nil =>
      cases values <;> simp [pure, Except.pure]
  | cons item rest ih =>
      simp only [List.mapM_cons, bind_eq_ok_iff, ih]
      cases values with
      | nil => simp [pure, Except.pure]
      | cons value values =>
          constructor
          · rintro ⟨found, hfound, others, hothers, hvalues⟩
            cases hvalues
            simp [hfound, hothers]
          · intro hmap
            simp only [List.map_cons, List.cons.injEq] at hmap
            exact ⟨value, hmap.1, values, hmap.2, rfl⟩

/-- The first item that cannot be read gives the cause, whatever comes behind it. -/
theorem mapM_eq_error_iff {read : α → Except ε β} {items : List α} {cause : ε} :
    items.mapM read = .error cause ↔ ∃ front item back, items = front ++ item :: back ∧
      (∀ other ∈ front, ∃ value, read other = .ok value) ∧ read item = .error cause := by
  induction items with
  | nil => simp [pure, Except.pure]
  | cons first rest ih =>
      simp only [List.mapM_cons, bind_eq_error_iff, ih]
      constructor
      · rintro (hfirst | ⟨value, hfirst, ⟨front, item, back, rfl, hfront, hitem⟩ | ⟨_, _, hnever⟩⟩)
        · exact ⟨[], first, rest, rfl, by simp, hfirst⟩
        · refine ⟨first :: front, item, back, rfl, ?_, hitem⟩
          simpa using ⟨⟨value, hfirst⟩, hfront⟩
        · cases hnever
      · rintro ⟨front, item, back, hitems, hfront, hitem⟩
        cases front with
        | nil =>
            cases hitems
            exact .inl hitem
        | cons other front =>
            cases hitems
            obtain ⟨value, hvalue⟩ := hfront first (by simp)
            exact .inr ⟨value, hvalue, .inl ⟨front, item, back, rfl,
              fun other hother => hfront other (by simp [hother]), hitem⟩⟩

end Signoff
