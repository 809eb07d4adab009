import Signoff.Database
import Signoff.Proofs.Except

namespace Signoff.Database

/-! A statement goes from row to row and changes a table on its way. What it has changed is put back
if it is stopped, so that in the end all of it has happened or nothing. -/

/-- What becomes of a row among the others that there are, if it stays at all. -/
abbrev Edit := List Row → Row → Except DatabaseError (Option Row)

structure Passed where
  now : Option Row
  before : Row

def rowsNow (passed : List Passed) : List Row := passed.filterMap (·.now)

def rowsBefore (passed : List Passed) : List Row := passed.map (·.before)

@[simp] theorem rowsNow_concat (passed : List Passed) (now : Option Row) (before : Row) :
    rowsNow (passed ++ [⟨now, before⟩]) = rowsNow passed ++ now.toList := by
  cases now <;> simp [rowsNow]

@[simp] theorem rowsBefore_concat (passed : List Passed) (now : Option Row) (before : Row) :
    rowsBefore (passed ++ [⟨now, before⟩]) = rowsBefore passed ++ [before] := by
  simp [rowsBefore]

/-- Returns how many rows were edited, and the rows that there are in the end. -/
def sweep (selects : Row → Bool) (edit : Edit) (passed : List Passed) :
    List Row → Except DatabaseError Nat × List Row
  | [] => (.ok 0, rowsNow passed)
  | row :: pending =>
    if selects row then
      match edit (rowsNow passed ++ pending) row with
      | .ok now =>
        let (result, rows) := sweep selects edit (passed ++ [⟨now, row⟩]) pending
        (result.map (· + 1), rows)
      | .error cause => (.error cause, rowsBefore passed ++ row :: pending)
    else sweep selects edit (passed ++ [⟨some row, row⟩]) pending

def editFrom (selects : Row → Bool) (edit : Edit) (before : List Row) :
    List Row → Except DatabaseError (Nat × List Row)
  | [] => .ok (0, before)
  | row :: after =>
    if selects row then do
      let now ← edit (before ++ after) row
      let (changed, rows) ← editFrom selects edit (before ++ now.toList) after
      return (changed + 1, rows)
    else editFrom selects edit (before ++ [row]) after

def outcome {α : Type} (before : α) :
    Except DatabaseError (Nat × α) → Except DatabaseError Nat × α
  | .ok (changed, after) => (.ok changed, after)
  | .error cause => (.error cause, before)

theorem outcome_ok {α : Type} {before after : α} {result : Except DatabaseError (Nat × α)}
    {changed : Nat} (houtcome : outcome before result = (.ok changed, after)) :
    result = .ok (changed, after) := by
  unfold outcome at houtcome
  split at houtcome
  · cases houtcome
    rfl
  · cases houtcome

theorem outcome_error {α : Type} {before after : α} {result : Except DatabaseError (Nat × α)}
    {cause : DatabaseError} (houtcome : outcome before result = (.error cause, after)) :
    after = before := by
  unfold outcome at houtcome
  split at houtcome
  · cases houtcome
  · cases houtcome
    rfl

/-- At whichever row a statement is stopped, the rows are then what they were. -/
theorem sweep_eq (selects : Row → Bool) (edit : Edit) (passed : List Passed)
    (pending : List Row) :
    sweep selects edit passed pending =
      outcome (rowsBefore passed ++ pending)
        (editFrom selects edit (rowsNow passed) pending) := by
  -- At every row the table was made up of the rows passed, as they were, and those to come.
  induction pending generalizing passed with
  | nil => simp [sweep, editFrom, outcome]
  | cons row pending ih =>
      unfold sweep editFrom
      split
      · cases edit (rowsNow passed ++ pending) row with
        | error cause => rfl
        | ok now =>
            simp only [ih, rowsNow_concat, rowsBefore_concat, bind, Except.bind]
            cases editFrom selects edit (rowsNow passed ++ now.toList) pending with
            | error cause => simp [outcome, Except.map]
            | ok result => rfl
      · simp [ih]

theorem exists_edit_of_editFrom_ok {selects : Row → Bool} {edit : Edit}
    {before after : List Row} {result : Nat × List Row}
    (hedit : editFrom selects edit before after = .ok result) {row : Row}
    (hrow : row ∈ after) (hselects : selects row = true) :
    ∃ others now, edit others row = .ok now := by
  induction after generalizing before result with
  | nil => cases hrow
  | cons first after ih =>
      unfold editFrom at hedit
      split at hedit
      · obtain ⟨now, hnow, hedit⟩ := bind_eq_ok_iff.mp hedit
        obtain ⟨_, hrest, _⟩ := bind_eq_ok_iff.mp hedit
        rcases List.mem_cons.mp hrow with rfl | hlater
        · exact ⟨_, now, hnow⟩
        · exact ih hrest hlater
      · next hskips =>
          rcases List.mem_cons.mp hrow with rfl | hlater
          · exact absurd hselects hskips
          · exact ih hedit hlater

theorem editFrom_none {selects : Row → Bool} (edit : Edit) (before : List Row) {after : List Row}
    (hnone : ∀ row ∈ after, selects row = false) :
    editFrom selects edit before after = .ok (0, before ++ after) := by
  induction after generalizing before with
  | nil => simp [editFrom]
  | cons row after ih =>
      have hrow := hnone row (by simp)
      have hafter := ih (before ++ [row]) fun other hother => hnone other (by simp [hother])
      simpa [editFrom, hrow] using hafter

theorem editFrom_refused {selects : Row → Bool} {edit : Edit} {before after : List Row}
    {cause : DatabaseError} (hrefuses : ∀ others row, edit others row = .error cause)
    (hselected : ∃ row ∈ after, selects row = true) :
    editFrom selects edit before after = .error cause := by
  induction after generalizing before with
  | nil =>
      obtain ⟨row, hrow, _⟩ := hselected
      cases hrow
  | cons first after ih =>
      unfold editFrom
      split
      · rw [hrefuses]
        rfl
      · next hskips =>
          obtain ⟨row, hrow, hselects⟩ := hselected
          rcases List.mem_cons.mp hrow with rfl | hlater
          · exact absurd hselects hskips
          · exact ih ⟨row, hlater, hselects⟩

namespace Table

variable {layout : Layout} {allows : Row → Row → Except DatabaseError Unit}
  {selects : Row → Bool} {assign : Row → Except DatabaseError Row}

def updating (layout : Layout) (allows : Row → Row → Except DatabaseError Unit)
    (assign : Row → Except DatabaseError Row) : Edit :=
  fun others row => do
    let next ← assign row
    allows row next
    layout.check others next
    return some next

theorem updating_ok {others : List Row} {row : Row} {now : Option Row}
    (hupdating : updating layout allows assign others row = .ok now) :
    ∃ next, assign row = .ok next ∧ allows row next = .ok () := by
  obtain ⟨next, hassign, hrest⟩ := bind_eq_ok_iff.mp hupdating
  obtain ⟨_, hallows, _⟩ := bind_eq_ok_iff.mp hrest
  exact ⟨next, hassign, hallows⟩

def deleting (allows : Row → Except DatabaseError Unit) : Edit :=
  fun _ row => do
    allows row
    return none

theorem editFrom_updating (before after : List Row) :
    editFrom selects (updating layout allows assign) before after =
      updateFrom layout allows selects assign before after := by
  induction after generalizing before with
  | nil => rfl
  | cons row after ih =>
      unfold editFrom updateFrom
      simp only [ih, updating, bind_assoc, pure_bind, Option.toList]

theorem editFrom_deleting {allows : Row → Except DatabaseError Unit} (before after : List Row) :
    editFrom selects (deleting allows) before after =
      ((after.filter selects).forM allows).map fun _ =>
        ((after.filter selects).length, before ++ after.filter fun row => !selects row) := by
  rw [List.forM_eq_forM]
  induction after generalizing before with
  | nil => simp [editFrom, Except.map, pure, Except.pure]
  | cons row after ih =>
      unfold editFrom
      by_cases hselects : selects row = true
      · rw [if_pos hselects, List.filter_cons_of_pos hselects, List.forM_cons]
        cases hallows : allows row with
        | error cause => simp [hallows, deleting, bind, Except.bind, Except.map]
        | ok _ =>
            simp only [hallows, deleting, bind, Except.bind, pure, Except.pure, ih]
            cases forM (after.filter selects) allows with
            | error cause => rfl
            | ok _ => simp [Except.map, hselects]
      · simp [hselects, ih]

def edited (selects : Row → Bool) (assign : Row → Except DatabaseError Row) (row : Row) : Row :=
  if selects row then (assign row).toOption.getD row else row

theorem updateFrom_ok {before after rows : List Row} {changed : Nat}
    (hupdate : updateFrom layout allows selects assign before after = .ok (changed, rows)) :
    rows = before ++ after.map (edited selects assign) ∧
      ∀ row ∈ after, selects row = true →
        assign row = .ok (edited selects assign row) ∧
          allows row (edited selects assign row) = .ok () := by
  induction after generalizing before rows changed with
  | nil =>
      cases hupdate
      simp
  | cons row after ih =>
      unfold updateFrom at hupdate
      split at hupdate
      · next hselects =>
          obtain ⟨next, hassign, hupdate⟩ := bind_eq_ok_iff.mp hupdate
          obtain ⟨_, hallows, hupdate⟩ := bind_eq_ok_iff.mp hupdate
          obtain ⟨_, _, hupdate⟩ := bind_eq_ok_iff.mp hupdate
          obtain ⟨_, hrest, hresult⟩ := bind_eq_ok_iff.mp hupdate
          cases hresult
          obtain ⟨hrows, hall⟩ := ih hrest
          have hnext : edited selects assign row = next := by
            simp [edited, hselects, hassign, Except.toOption]
          refine ⟨by simp [hrows, hnext], ?_⟩
          intro other hother hchosen
          rcases List.mem_cons.mp hother with rfl | hlater
          · rw [hnext]
            exact ⟨hassign, hallows⟩
          · exact hall other hlater hchosen
      · next hskips =>
          obtain ⟨hrows, hall⟩ := ih hupdate
          refine ⟨by simp [hrows, edited, hskips], ?_⟩
          intro other hother hchosen
          rcases List.mem_cons.mp hother with rfl | hlater
          · exact absurd hchosen hskips
          · exact hall other hlater hchosen

end Table

inductive Target where
  | signatures
  | verifications

namespace Target

def table (database : Database) : Target → Table
  | signatures => database.signatures
  | verifications => database.verifications

def withTable (database : Database) (table : Table) : Target → Database
  | signatures => { database with signatures := table }
  | verifications => { database with verifications := table }

def layout : Target → Layout
  | signatures => Schema.signatures
  | verifications => Schema.verifications

def reason : Target → String
  | signatures => Schema.signatureReason
  | verifications => Schema.verificationReason

def allowsUpdate (database : Database) : Target → Row → Row → Except DatabaseError Unit
  | signatures => fun before after =>
    database.triggerAborts Schema.signatureLinkOnly Schema.linkReason
      (!Schema.agreeButLink before after)
  | verifications => fun _ _ =>
    database.triggerAborts Schema.verificationNoUpdate Schema.verificationReason true

def allowsDelete (database : Database) : Target → Row → Except DatabaseError Unit
  | signatures => fun _ =>
    database.triggerAborts Schema.signatureNoDelete Schema.signatureReason true
  | verifications => fun _ =>
    database.triggerAborts Schema.verificationNoDelete Schema.verificationReason true

end Target

inductive Change where
  | update (assign : Row → Except DatabaseError Row)
  | delete

def Change.settle : Change → List Row → List Row
  | update _, rows => rows.mergeSort fun left right => left.id ≤ right.id
  | delete, rows => rows

/-- A statement by its effect: the rows that it selects and what it makes of each of them. -/
structure Statement where
  target : Target
  selects : Row → Bool
  change : Change

namespace Statement

def run : Statement → Database → Except DatabaseError (Nat × Database)
  | ⟨.signatures, selects, .update assign⟩ => updateSignatures selects assign
  | ⟨.signatures, selects, .delete⟩ => deleteSignatures selects
  | ⟨.verifications, selects, .update assign⟩ => updateVerifications selects assign
  | ⟨.verifications, selects, .delete⟩ => deleteVerifications selects

def edit (statement : Statement) (database : Database) : Edit :=
  match statement.change with
  | .update assign =>
    Table.updating statement.target.layout (statement.target.allowsUpdate database) assign
  | .delete => Table.deleting (statement.target.allowsDelete database)

/-- Runs a statement in place, row after row. -/
def execute (statement : Statement) (database : Database) : Except DatabaseError Nat × Database :=
  let table := statement.target.table database
  match sweep statement.selects (statement.edit database) [] table.rows with
  | (.ok changed, rows) =>
    (.ok changed, statement.target.withTable database
      { table with rows := statement.change.settle rows })
  | (.error cause, rows) =>
    (.error cause, statement.target.withTable database { table with rows })

theorem run_eq (statement : Statement) (database : Database) :
    statement.run database =
      (editFrom statement.selects (statement.edit database) []
        (statement.target.table database).rows).map fun (changed, rows) =>
          (changed, statement.target.withTable database
            { statement.target.table database with rows := statement.change.settle rows }) := by
  obtain ⟨target, selects, change⟩ := statement
  unfold edit
  cases change with
  | update assign =>
      simp only [Table.editFrom_updating]
      cases target with
      | signatures =>
          simp only [run, updateSignatures, Table.update, Target.layout, Target.allowsUpdate,
            Target.table]
          cases Table.updateFrom Schema.signatures _ selects assign [] _ <;> rfl
      | verifications =>
          simp only [run, updateVerifications, Table.update, Target.layout, Target.allowsUpdate,
            Target.table]
          cases Table.updateFrom Schema.verifications _ selects assign [] _ <;> rfl
  | delete =>
      simp only [Table.editFrom_deleting, List.nil_append]
      cases target with
      | signatures =>
          simp only [run, deleteSignatures, Table.delete, Target.allowsDelete, Target.table]
          cases (database.signatures.rows.filter selects).forM fun _ =>
            database.triggerAborts Schema.signatureNoDelete Schema.signatureReason true <;> rfl
      | verifications =>
          simp only [run, deleteVerifications, Table.delete, Target.allowsDelete, Target.table]
          cases (database.verifications.rows.filter selects).forM fun _ =>
            database.triggerAborts Schema.verificationNoDelete Schema.verificationReason true <;> rfl

/-- What a statement has done in place is all that it does, or nothing. -/
theorem execute_eq (statement : Statement) (database : Database) :
    statement.execute database = outcome database (statement.run database) := by
  have hsame : statement.target.withTable database (statement.target.table database) = database := by
    cases statement.target <;> rfl
  have hsweep : sweep statement.selects (statement.edit database) []
      (statement.target.table database).rows = outcome (statement.target.table database).rows
        (editFrom statement.selects (statement.edit database) []
          (statement.target.table database).rows) := sweep_eq ..
  simp only [execute, hsweep, run_eq]
  cases editFrom statement.selects (statement.edit database) []
    (statement.target.table database).rows with
  | error cause => exact congrArg (Prod.mk _) hsame
  | ok result => rfl

end Statement

end Signoff.Database
