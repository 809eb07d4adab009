import Signoff.Proofs.Database.Laws

namespace Signoff.Database

/-! What the constraints of its schema make of a table of signatures. They hold whoever writes to
it, and whatever else its rows have come to hold. -/

structure Apart (left right : Row) : Prop where
  ids : left.id ≠ right.id
  keys : Schema.signatures.keyOf left ≠ Schema.signatures.keyOf right

theorem Apart.symm {left right : Row} (hapart : Apart left right) : Apart right left :=
  ⟨hapart.ids.symm, hapart.keys.symm⟩

theorem apart_of_check {others : List Row} {row : Row}
    (hcheck : Schema.signatures.check others row = .ok ()) : ∀ other ∈ others, Apart other row := by
  simp only [Layout.check] at hcheck
  split at hcheck
  · cases hcheck
  · by_cases hid : others.any (·.id = row.id) = true
    · simp [hid] at hcheck
    · have hkey : ¬ others.any
          (fun other => Schema.signatures.keyOf other = Schema.signatures.keyOf row) = true := by
        intro hkey
        have hsome : (!Schema.signatures.key.isEmpty) = true := rfl
        simp [hid, hkey, hsome] at hcheck
      intro other hother
      constructor
      · exact fun hsame => hid (List.any_eq_true.mpr ⟨other, hother, decide_eq_true hsame⟩)
      · exact fun hsame => hkey (List.any_eq_true.mpr ⟨other, hother, decide_eq_true hsame⟩)

/-- Rows stand in the order of their numbers, and no user stands twice on a document. -/
structure Constrained (database : Database) : Prop where
  sorted : database.signatures.rows.Pairwise fun left right => left.id < right.id
  keyed : database.signatures.rows.Pairwise fun left right =>
    Schema.signatures.keyOf left ≠ Schema.signatures.keyOf right

namespace Constrained

variable {database next : Database}

theorem apart (hconstrained : Constrained database) :
    database.signatures.rows.Pairwise Apart := by
  refine (hconstrained.sorted.and hconstrained.keyed).imp ?_
  rintro left right ⟨hlt, hkeys⟩
  exact ⟨Int64.ne_of_lt hlt, hkeys⟩

theorem sublist (hconstrained : Constrained database)
    (hfewer : next.signatures.rows.Sublist database.signatures.rows) : Constrained next :=
  ⟨hconstrained.sorted.sublist hfewer, hconstrained.keyed.sublist hfewer⟩

theorem of_apart {rows : List Row} (hapart : rows.Pairwise Apart)
    (hrows : next.signatures.rows = rows.mergeSort fun left right => left.id ≤ right.id) :
    Constrained next := by
  have hperm : (next.signatures.rows).Perm rows := hrows ▸ List.mergeSort_perm rows _
  have hstill : next.signatures.rows.Pairwise Apart :=
    (hperm.pairwise_iff Apart.symm).mpr hapart
  have hordered : next.signatures.rows.Pairwise fun left right => left.id ≤ right.id := by
    rw [hrows]
    refine (List.pairwise_mergeSort ?_ ?_ rows).imp of_decide_eq_true
    · intro first second third hfirst hsecond
      exact decide_eq_true (Int64.le_trans (of_decide_eq_true hfirst) (of_decide_eq_true hsecond))
    · intro left right
      simpa using Int64.le_total left.id right.id
  constructor
  · exact (hordered.and hstill).imp fun ⟨hle, hapart⟩ => Int64.lt_of_le_of_ne hle hapart.ids
  · exact hstill.imp Apart.keys

end Constrained

/-- A row that has been checked against all others may take the place of one. -/
theorem updateFrom_apart {allows : Row → Row → Except DatabaseError Unit} {selects : Row → Bool}
    {assign : Row → Except DatabaseError Row} {before after rows : List Row} {changed : Nat}
    (hapart : (before ++ after).Pairwise Apart)
    (hupdate : Table.updateFrom Schema.signatures allows selects assign before after =
      .ok (changed, rows)) : rows.Pairwise Apart := by
  induction after generalizing before rows changed with
  | nil =>
      cases hupdate
      simpa using hapart
  | cons row after ih =>
      unfold Table.updateFrom at hupdate
      split at hupdate
      · obtain ⟨next, _, hupdate⟩ := bind_eq_ok_iff.mp hupdate
        obtain ⟨_, _, hupdate⟩ := bind_eq_ok_iff.mp hupdate
        obtain ⟨_, hcheck, hupdate⟩ := bind_eq_ok_iff.mp hupdate
        obtain ⟨_, hrest, hresult⟩ := bind_eq_ok_iff.mp hupdate
        cases hresult
        have hothers : (before ++ after).Pairwise Apart :=
          hapart.sublist ((List.sublist_cons_self row after).append_left before)
        refine ih ?_ hrest
        rw [List.append_assoc, List.singleton_append,
          List.perm_middle.pairwise_iff Apart.symm, List.pairwise_cons]
        exact ⟨fun other hother => (apart_of_check hcheck other hother).symm, hothers⟩
      · exact ih (by simpa using hapart) hupdate

theorem Constrained.run {database next : Database} {statement : Statement} {changed : Nat}
    (hconstrained : Constrained database)
    (hrun : statement.run database = .ok (changed, next)) : Constrained next := by
  obtain ⟨target, selects, change⟩ := statement
  rw [Statement.run_eq] at hrun
  cases target with
  | verifications =>
      obtain ⟨_, _, hnext⟩ := map_eq_ok_iff.mp hrun
      cases hnext
      exact hconstrained.sublist (.refl _)
  | signatures =>
      cases change with
      | update assign =>
          simp only [Statement.edit, Table.editFrom_updating] at hrun
          obtain ⟨⟨count, rows⟩, hupdate, hnext⟩ := map_eq_ok_iff.mp hrun
          cases hnext
          have hapart : ([] ++ database.signatures.rows).Pairwise Apart := hconstrained.apart
          exact .of_apart (updateFrom_apart hapart hupdate) rfl
      | delete =>
          simp only [Statement.edit, Table.editFrom_deleting] at hrun
          obtain ⟨⟨count, rows⟩, hdelete, hnext⟩ := map_eq_ok_iff.mp hrun
          obtain ⟨_, _, hrows⟩ := map_eq_ok_iff.mp hdelete
          cases hrows
          cases hnext
          exact hconstrained.sublist List.filter_sublist

theorem Constrained.insert {database : Database} {cells : List Value} {row : Row}
    {signatures : Table} (hconstrained : Constrained database)
    (hinsert : Table.insert Schema.signatures cells database.signatures = .ok (row, signatures)) :
    Constrained { database with signatures } := by
  obtain ⟨hroom, rfl, hcheck, rfl⟩ := Table.insert_ok hinsert
  constructor
  · refine List.pairwise_append.mpr ⟨hconstrained.sorted, List.pairwise_singleton _ _, ?_⟩
    intro other hother last hlast
    rw [List.mem_singleton.mp hlast]
    exact Int64.lt_of_le_of_lt (Table.le_highest hother) (Table.lt_add_one hroom)
  · refine List.pairwise_append.mpr ⟨hconstrained.keyed, List.pairwise_singleton _ _, ?_⟩
    intro other hother last hlast
    rw [List.mem_singleton.mp hlast]
    exact (apart_of_check hcheck other hother).keys

/-- A new database after writes of any kind and by anybody. -/
inductive Reached : Database → Prop
  | fresh (clock : Clock) : Reached (fresh clock)
  | statement {database next : Database} {statement : Statement} {changed : Nat}
      (reached : Reached database) (run : statement.run database = .ok (changed, next)) :
      Reached next
  | insertion {database : Database} {cells : List Value} {row : Row} {signatures : Table}
      (reached : Reached database)
      (inserted : Table.insert Schema.signatures cells database.signatures =
        .ok (row, signatures)) : Reached { database with signatures }
  /-- Whatever happens to the rest of the database. -/
  | elsewhere {database next : Database} (reached : Reached database)
      (same : next.signatures = database.signatures) : Reached next

namespace Reached

variable {database : Database}

theorem append (hreached : Reached database) (draft : Draft) (clock : Clock) :
    Reached (database.append draft clock).2 := by
  simp only [Database.append]
  split
  · next hinsert => exact hreached.insertion hinsert
  · exact hreached
  · exact hreached

end Reached

theorem constrained_of_reached {database : Database} (hreached : Reached database) :
    Constrained database := by
  induction hreached with
  | fresh clock =>
      constructor
      · rw [signatures_fresh]
        exact List.Pairwise.nil
      · rw [signatures_fresh]
        exact List.Pairwise.nil
  | statement _ run ih => exact ih.run run
  | insertion _ inserted ih => exact ih.insert inserted
  | elsewhere _ same ih => exact ih.sublist (same ▸ .refl _)

end Signoff.Database
