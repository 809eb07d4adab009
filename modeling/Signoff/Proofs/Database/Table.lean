import Signoff.Proofs.Database.Statements

namespace Signoff.Database

namespace Table

variable {layout : Layout} {allows : Row → Row → Except DatabaseError Unit}
  {selects : Row → Bool} {assign : Row → Except DatabaseError Row}

theorem updateFrom_none (before : List Row) {after : List Row}
    (hnone : ∀ row ∈ after, selects row = false) :
    updateFrom layout allows selects assign before after = .ok (0, before ++ after) := by
  rw [← editFrom_updating, editFrom_none _ _ hnone]

theorem updateFrom_one (before : List Row) {front back : List Row} {row next : Row}
    (hfront : ∀ other ∈ front, selects other = false) (hrow : selects row = true)
    (hback : ∀ other ∈ back, selects other = false) (hassign : assign row = .ok next)
    (hallows : allows row next = .ok ())
    (hcheck : layout.check (before ++ front ++ back) next = .ok ()) :
    updateFrom layout allows selects assign before (front ++ row :: back) =
      .ok (1, before ++ front ++ next :: back) := by
  induction front generalizing before with
  | nil =>
      have hcheck : layout.check (before ++ back) next = .ok () := by simpa using hcheck
      have hrest : updateFrom layout allows selects assign (before ++ [next]) back =
          .ok (0, before ++ [next] ++ back) := updateFrom_none _ hback
      simp [updateFrom, hrow, hassign, hallows, hcheck, hrest, bind, Except.bind, pure, Except.pure]
  | cons first front ih =>
      have hfirst := hfront first (by simp)
      have hrest := ih (before ++ [first])
        (fun other hother => hfront other (by simp [hother])) (by simpa using hcheck)
      simpa [updateFrom, hfirst] using hrest

theorem mergeSort_sorted {rows : List Row} (hsorted : rows.Pairwise fun left right =>
    left.id < right.id) : rows.mergeSort (fun left right => left.id ≤ right.id) = rows := by
  apply List.mergeSort_of_pairwise
  apply hsorted.imp
  intro left right hlt
  exact decide_eq_true (Int64.le_of_lt hlt)

theorem foldl_highest (numbers : List Int64) (start : Int64) :
    let highest :=
      numbers.foldl (fun highest number => if highest < number then number else highest) start
    start ≤ highest ∧ ∀ number ∈ numbers, number ≤ highest := by
  induction numbers generalizing start with
  | nil => exact ⟨Int64.le_refl start, by simp⟩
  | cons first rest ih =>
      obtain ⟨hstart, hrest⟩ := ih (if start < first then first else start)
      simp only [List.foldl_cons, List.mem_cons, forall_eq_or_imp]
      by_cases hlt : start < first
      · rw [if_pos hlt] at hstart hrest ⊢
        exact ⟨Int64.le_trans (Int64.le_of_lt hlt) hstart, hstart, hrest⟩
      · rw [if_neg hlt] at hstart hrest ⊢
        exact ⟨hstart, Int64.le_trans (Int64.not_lt.mp hlt) hstart, hrest⟩

theorem foldl_highest_eq {numbers : List Int64} {start : Int64}
    (hnumbers : ∀ number ∈ numbers, number ≤ start) :
    numbers.foldl (fun highest number => if highest < number then number else highest) start =
      start := by
  induction numbers with
  | nil => rfl
  | cons first rest ih =>
      have hfirst : ¬ start < first := Int64.not_lt.mpr (hnumbers first (by simp))
      rw [List.foldl_cons, if_neg hfirst]
      exact ih fun number hnumber => hnumbers number (by simp [hnumber])

theorem highest_eq (table : Table) : table.highest = (table.rows.map (·.id)).foldl
    (fun highest number => if highest < number then number else highest) table.lastId := by
  rw [List.foldl_map, highest]

theorem le_highest {table : Table} {row : Row} (hrow : row ∈ table.rows) :
    row.id ≤ table.highest := by
  rw [highest_eq]
  exact (foldl_highest _ table.lastId).2 row.id (List.mem_map.mpr ⟨row, hrow, rfl⟩)

theorem highest_congr {left right : Table} (hids : left.rows.map (·.id) = right.rows.map (·.id))
    (hlast : left.lastId = right.lastId) : left.highest = right.highest := by
  rw [highest_eq, highest_eq, hids, hlast]

theorem lt_add_one {id : Int64} (hroom : id ≠ Int64.maxValue) : id < id + 1 := by
  have hne : id.toInt ≠ 2 ^ 63 - 1 := fun heq => hroom (Int64.toInt.inj heq)
  have hlow := Int64.le_toInt id
  have hhigh := Int64.toInt_lt id
  rw [Int64.lt_iff_toInt_lt, Int64.toInt_add]
  have hone : (1 : Int64).toInt = 1 := rfl
  rw [hone, Int.bmod_eq_of_le (by omega) (by omega)]
  omega

theorem id_fresh {table : Table} (hroom : table.highest ≠ Int64.maxValue) :
    ∀ other ∈ table.rows, other.id ≠ table.highest + 1 :=
  fun _ hother => Int64.ne_of_lt (Int64.lt_of_le_of_lt (le_highest hother) (lt_add_one hroom))

/-- As long as numbers are left, an insertion fails only if the row does not pass its checks. -/
theorem insert_eq {table : Table} (cells : List Value)
    (hroom : table.highest ≠ Int64.maxValue) :
    Table.insert layout cells table =
      (layout.check table.rows ⟨table.highest + 1, cells⟩).map fun _ =>
        (⟨table.highest + 1, cells⟩,
          ⟨table.rows ++ [⟨table.highest + 1, cells⟩], table.highest + 1⟩) := by
  simp only [Table.insert, if_neg hroom]
  cases layout.check table.rows ⟨table.highest + 1, cells⟩ <;> rfl

theorem insert_ok {table next : Table} {cells : List Value} {row : Row}
    (hinsert : Table.insert layout cells table = .ok (row, next)) :
    table.highest ≠ Int64.maxValue ∧ row = ⟨table.highest + 1, cells⟩ ∧
      layout.check table.rows row = .ok () ∧
      next = ⟨table.rows ++ [row], table.highest + 1⟩ := by
  simp only [Table.insert] at hinsert
  split at hinsert
  · cases hinsert
  · next hroom =>
      obtain ⟨_, hcheck, hresult⟩ := bind_eq_ok_iff.mp hinsert
      cases hresult
      exact ⟨hroom, rfl, hcheck, rfl⟩

theorem highest_insert {table : Table} {cells : List Value}
    (hroom : table.highest ≠ Int64.maxValue) :
    Table.highest ⟨table.rows ++ [⟨table.highest + 1, cells⟩], table.highest + 1⟩ =
      table.highest + 1 := by
  rw [highest_eq]
  apply foldl_highest_eq
  intro number hnumber
  obtain ⟨row, hrow, rfl⟩ := List.mem_map.mp hnumber
  rcases List.mem_append.mp hrow with hold | hnew
  · exact Int64.le_trans (le_highest hold) (Int64.le_of_lt (lt_add_one hroom))
  · rw [List.mem_singleton.mp hnew]
    exact Int64.le_refl _

end Table

end Signoff.Database
