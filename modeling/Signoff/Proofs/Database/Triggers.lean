import Signoff.Proofs.Database.Migration

namespace Signoff.Database

/-! What triggers keep. Nothing is taken from the tables that they guard, and nothing is changed
there but links. -/

structure Guarded (database : Database) : Prop where
  signatureNoDelete : Schema.signatureNoDelete ∈ database.objects
  signatureLinkOnly : Schema.signatureLinkOnly ∈ database.objects
  verificationNoUpdate : Schema.verificationNoUpdate ∈ database.objects
  verificationNoDelete : Schema.verificationNoDelete ∈ database.objects

theorem guarded_migrate {clock : Clock} {database next : Database}
    (hversion : database.appliedVersion = 0)
    (hmigrate : database.migrate clock = (.ok (), next)) : Guarded next := by
  have hmigratable := (migrate_eq_ok_iff clock).mp (congrArg Prod.fst hmigrate)
  have hobjects := (hmigratable.migrated clock).objects
  rw [hmigrate, pending, reached, hversion] at hobjects
  have hall (object : SchemaObject) (hobject : object ∈ Schema.initial) :
      object ∈ next.objects := by
    rw [hobjects]
    exact List.mem_append_right _ (List.mem_append_left _ hobject)
  constructor
  · exact hall _ (by decide)
  · exact hall _ (by decide)
  · exact hall _ (by decide)
  · exact hall _ (by decide)

theorem guarded_fresh (clock : Clock) : Guarded (fresh clock) :=
  guarded_migrate rfl (by rw [fresh, migratable_empty.migrate_eq])

theorem Guarded.append {database : Database} (hguarded : Guarded database) (draft : Draft)
    (clock : Clock) : Guarded (database.append draft clock).2 := by
  have hobjects : (database.append draft clock).2.objects = database.objects := by
    rw [Database.append]
    split <;> rfl
  obtain ⟨hnoDelete, hlinkOnly, hnoUpdate, hnoVerificationDelete⟩ := hguarded
  constructor
  · rwa [hobjects]
  · rwa [hobjects]
  · rwa [hobjects]
  · rwa [hobjects]

/-- One value in the place of another, as far as a comparison can tell. -/
def Stays (before after : Value) : Prop := before = after ∨ before.SameWorth after

def Schema.columnNames : List String := "id" :: Schema.signatures.columns.map (·.name)

/-- Every column but that of the link holds what it held. -/
def KeepsAllButLink (before after : Row) : Prop :=
  ∀ name ∈ Schema.columnNames, name ≠ "prev_hash" →
    Stays (Schema.signatures.value before name) (Schema.signatures.value after name)

theorem Schema.mem_fixed_iff {name : String} :
    name ∈ fixed ↔ name ∈ columnNames ∧ name ≠ "prev_hash" := by
  constructor
  · have hall : ∀ name ∈ fixed, name ∈ columnNames ∧ name ≠ "prev_hash" := by decide
    exact hall name
  · have hall : ∀ name ∈ columnNames, name ≠ "prev_hash" → name ∈ fixed := by decide
    exact fun hname => hall name hname.1 hname.2

theorem agreeButLink_iff {before after : Row} :
    Schema.agreeButLink before after = true ↔ KeepsAllButLink before after := by
  rw [Schema.agreeButLink, List.all_eq_true]
  constructor
  · intro hall name hname hlink
    exact Value.same_iff.mp (hall name (Schema.mem_fixed_iff.mpr ⟨hname, hlink⟩))
  · intro hkeeps name hfixed
    obtain ⟨hname, hlink⟩ := Schema.mem_fixed_iff.mp hfixed
    exact Value.same_iff.mpr (hkeeps name hname hlink)

theorem KeepsAllButLink.refl (row : Row) : KeepsAllButLink row row :=
  fun _ _ _ => .inl rfl

/-- What a guarded database does not let happen. -/
inductive Forbidden (database : Database) : Statement → Prop
  | delete {target : Target} {selects : Row → Bool} {row : Row}
      (stands : row ∈ (target.table database).rows) (selected : selects row = true) :
      Forbidden database ⟨target, selects, .delete⟩
  | verification {selects : Row → Bool} {assign : Row → Except DatabaseError Row} {row : Row}
      (stands : row ∈ database.verifications.rows) (selected : selects row = true) :
      Forbidden database ⟨.verifications, selects, .update assign⟩
  | signature {selects : Row → Bool} {assign : Row → Except DatabaseError Row} {row next : Row}
      (stands : row ∈ database.signatures.rows) (selected : selects row = true)
      (assigned : assign row = .ok next) (changes : ¬ KeepsAllButLink row next) :
      Forbidden database ⟨.signatures, selects, .update assign⟩

section

variable {database : Database} (hguarded : Guarded database)

include hguarded

theorem Guarded.allowsDelete_eq (target : Target) (row : Row) :
    target.allowsDelete database row = .error (.aborted target.reason) := by
  cases target with
  | signatures => simp [Target.allowsDelete, triggerAborts, hguarded.signatureNoDelete, Target.reason]
  | verifications =>
      simp [Target.allowsDelete, triggerAborts, hguarded.verificationNoDelete, Target.reason]

theorem Guarded.allowsUpdate_verifications (before after : Row) :
    Target.verifications.allowsUpdate database before after =
      .error (.aborted Schema.verificationReason) := by
  simp [Target.allowsUpdate, triggerAborts, hguarded.verificationNoUpdate]

theorem Guarded.allowsUpdate_signatures {before after : Row}
    (hallows : Target.signatures.allowsUpdate database before after = .ok ()) :
    KeepsAllButLink before after := by
  rw [← agreeButLink_iff]
  cases hagree : Schema.agreeButLink before after with
  | true => rfl
  | false =>
      simp [Target.allowsUpdate, triggerAborts, hguarded.signatureLinkOnly, hagree] at hallows

theorem Guarded.delete_refused {target : Target} {selects : Row → Bool}
    (hselected : ∃ row ∈ (target.table database).rows, selects row = true) :
    Statement.run ⟨target, selects, .delete⟩ database = .error (.aborted target.reason) := by
  have hrefuses (others : List Row) (row : Row) :
      Table.deleting (target.allowsDelete database) others row =
        .error (.aborted target.reason) := by
    rw [Table.deleting, hguarded.allowsDelete_eq]
    rfl
  rw [Statement.run_eq]
  simp only [Statement.edit, editFrom_refused hrefuses hselected]
  rfl

theorem Guarded.not_forbidden {statement : Statement} {result : Nat × Database}
    (hrun : statement.run database = .ok result) : ¬ Forbidden database statement := by
  rw [Statement.run_eq, map_eq_ok_iff] at hrun
  obtain ⟨rows, hedit, _⟩ := hrun
  intro hforbidden
  cases hforbidden with
  | @delete target selects row hstands hselects =>
      obtain ⟨others, now, hnow⟩ := exists_edit_of_editFrom_ok hedit hstands hselects
      simp only [Statement.edit, Table.deleting, hguarded.allowsDelete_eq] at hnow
      cases hnow
  | @verification selects assign row hstands hselects =>
      obtain ⟨others, now, hnow⟩ := exists_edit_of_editFrom_ok hedit hstands hselects
      obtain ⟨next, _, hallows⟩ := Table.updating_ok hnow
      rw [hguarded.allowsUpdate_verifications] at hallows
      cases hallows
  | @signature selects assign row next hstands hselects hassign hchanges =>
      obtain ⟨others, now, hnow⟩ := exists_edit_of_editFrom_ok hedit hstands hselects
      obtain ⟨other, hother, hallows⟩ := Table.updating_ok hnow
      rw [hassign, Except.ok.injEq] at hother
      exact hchanges (hguarded.allowsUpdate_signatures (hother ▸ hallows))

theorem Guarded.refused {statement : Statement} (hforbidden : Forbidden database statement) :
    ∃ cause, statement.run database = .error cause := by
  cases hrun : statement.run database with
  | error cause => exact ⟨cause, rfl⟩
  | ok result => exact absurd hforbidden (hguarded.not_forbidden hrun)

end

/-- The rows of both tables are those from before, in all but their links. -/
structure DiffersInLinks (before after : Database) : Prop where
  rest : ∃ signatures verifications, after = { before with
    signatures := { before.signatures with rows := signatures },
    verifications := { before.verifications with rows := verifications } }
  signatures : ∃ edit : Row → Row,
    after.signatures.rows.Perm (before.signatures.rows.map edit) ∧
      ∀ row ∈ before.signatures.rows, KeepsAllButLink row (edit row)
  verifications : after.verifications.rows.Perm before.verifications.rows

theorem Change.settle_perm (change : Change) (rows : List Row) : (change.settle rows).Perm rows := by
  cases change with
  | update assign => exact List.mergeSort_perm rows _
  | delete => exact .rfl

theorem DiffersInLinks.of_perm (target : Target) (database : Database) {rows : List Row}
    (hrows : rows.Perm (target.table database).rows) :
    DiffersInLinks database
      (target.withTable database { target.table database with rows := rows }) := by
  have hsame : ∀ row ∈ database.signatures.rows, KeepsAllButLink row row :=
    fun row _ => .refl row
  cases target with
  | signatures =>
      refine ⟨⟨rows, _, rfl⟩, ⟨id, ?_, hsame⟩, .rfl⟩
      rw [List.map_id]
      exact hrows
  | verifications =>
      refine ⟨⟨_, rows, rfl⟩, ⟨id, ?_, hsame⟩, hrows⟩
      rw [List.map_id]
      exact .rfl

section

variable {database : Database} (hguarded : Guarded database)

include hguarded

theorem Guarded.differsInLinks_of_forbidden {statement : Statement} {changed : Nat}
    {next : Database} (hrun : statement.run database = .ok (changed, next))
    (hforbidden : ∀ row ∈ (statement.target.table database).rows,
      statement.selects row = true → Forbidden database statement) :
    DiffersInLinks database next := by
  have hnone : ∀ row ∈ (statement.target.table database).rows, statement.selects row = false := by
    intro row hrow
    rw [← Bool.not_eq_true]
    exact fun hselects => hguarded.not_forbidden hrun (hforbidden row hrow hselects)
  rw [Statement.run_eq, editFrom_none _ _ hnone] at hrun
  cases hrun
  exact .of_perm _ database (statement.change.settle_perm _)

theorem Guarded.differsInLinks {statement : Statement} {changed : Nat} {next : Database}
    (hrun : statement.run database = .ok (changed, next)) : DiffersInLinks database next := by
  obtain ⟨target, selects, change⟩ := statement
  cases change with
  | delete =>
      exact hguarded.differsInLinks_of_forbidden hrun fun row hrow hselects => .delete hrow hselects
  | update assign =>
      cases target with
      | verifications =>
          exact hguarded.differsInLinks_of_forbidden hrun
            fun row hrow hselects => .verification hrow hselects
      | signatures =>
          rw [Statement.run_eq] at hrun
          simp only [Statement.edit, Table.editFrom_updating] at hrun
          obtain ⟨⟨count, rows⟩, hupdate, hnext⟩ := map_eq_ok_iff.mp hrun
          obtain ⟨rfl, hedited⟩ := Table.updateFrom_ok hupdate
          cases hnext
          -- The trigger has seen every row that gave way to another.
          refine ⟨⟨_, _, rfl⟩, ⟨Table.edited selects assign, ?_, ?_⟩, .rfl⟩
          · exact Change.settle_perm (.update assign) _
          · intro row hrow
            by_cases hselects : selects row = true
            · exact hguarded.allowsUpdate_signatures (hedited row hrow hselects).2
            · rw [Table.edited, if_neg hselects]
              exact .refl row

end

theorem exists_statement_of_runText {database : Database} {text : String}
    {parameters : Sql.Parameters} {result : Nat × Database}
    (htext : database.runText text parameters = .ok result) :
    ∃ statement : Statement, statement.run database = .ok result := by
  have hread (layout : Layout) (target : Target) (update : Sql.Update)
      (hrun : database.runUpdate layout
        (fun selects assign => Statement.run ⟨target, selects, .update assign⟩) update parameters =
          .ok result) : ∃ statement : Statement, statement.run database = .ok result := by
    simp only [runUpdate, bind_eq_ok_iff] at hrun
    obtain ⟨_, _, hrun⟩ := hrun
    split at hrun
    · cases hrun
    · obtain ⟨_, _, hresult⟩ := bind_eq_ok_iff.mp hrun
      exact ⟨_, mapError_eq_ok_iff.mp hresult⟩
  simp only [runText, bind_eq_ok_iff] at htext
  obtain ⟨update, _, hrun⟩ := htext
  split at hrun
  · exact hread _ .signatures update hrun
  · split at hrun
    · exact hread _ .verifications update hrun
    · cases hrun

/-- What a database does with statements that other connections run. -/
structure Enforced (database : Database) : Prop where
  atomic : ∀ statement : Statement,
    statement.execute database = outcome database (statement.run database)
  refused : ∀ statement : Statement, Forbidden database statement →
    ∃ cause, statement.execute database = (.error cause, database)
  deletions : ∀ (target : Target) (selects : Row → Bool),
    (∃ row ∈ (target.table database).rows, selects row = true) →
      Statement.execute ⟨target, selects, .delete⟩ database =
        (.error (.aborted target.reason), database)
  failed : ∀ (statement : Statement) (cause : DatabaseError) (next : Database),
    statement.execute database = (.error cause, next) → next = database
  succeeded : ∀ (statement : Statement) (changed : Nat) (next : Database),
    statement.execute database = (.ok changed, next) → DiffersInLinks database next
  texts : ∀ (text : String) (parameters : Sql.Parameters) (changed : Nat) (next : Database),
    database.runText text parameters = .ok (changed, next) → DiffersInLinks database next

/-- A migrated database has triggers, and as long as it has them nothing is taken from its records
and verifications, and nothing is changed there but links. A number may take the place of one of the
same worth, which is all that the triggers overlook. -/
theorem guarded_enforced (database : Database) (hguarded : Guarded database) :
    (∀ (clock : Clock) (earlier migrated : Database), earlier.appliedVersion = 0 →
      earlier.migrate clock = (.ok (), migrated) → Guarded migrated) ∧ Enforced database := by
  refine ⟨fun clock earlier migrated => guarded_migrate, ?_⟩
  constructor
  · exact fun statement => statement.execute_eq database
  · intro statement hforbidden
    obtain ⟨cause, hrun⟩ := hguarded.refused hforbidden
    exact ⟨cause, by rw [statement.execute_eq, hrun, outcome]⟩
  · intro target selects hselected
    rw [Statement.execute_eq, hguarded.delete_refused hselected, outcome]
  · intro statement cause next hexecute
    rw [Statement.execute_eq] at hexecute
    exact outcome_error hexecute
  · intro statement changed next hexecute
    rw [Statement.execute_eq] at hexecute
    exact hguarded.differsInLinks (outcome_ok hexecute)
  · intro text parameters changed next htext
    obtain ⟨statement, hrun⟩ := exists_statement_of_runText htext
    exact hguarded.differsInLinks hrun

def earliestDraft : Draft where
  docId := "handbook"
  user := ⟨"alice", "alice@example.com", "Alice"⟩
  signedAt := Int64.minValue
  checksum := none
  payloadHash := .replicate 32 1
  signature := .replicate 64 2
  nonce := .replicate 32 3
  referer := none
  previous := none
  version := Draft.currentVersion

def earliestRow : Row := ⟨1, signatureCells earliestDraft 1736870400000⟩

def earliest : Database := ((fresh ⟨1736870400000⟩).append earliestDraft ⟨1736870400000⟩).2

theorem guarded_earliest : Guarded earliest :=
  (guarded_fresh _).append earliestDraft _

theorem rows_earliest : earliest.signatures.rows = [earliestRow] := by
  decide +kernel

theorem guarded_enforced_earliest :
    Guarded earliest ∧
      Statement.execute ⟨.signatures, fun _ => true, .delete⟩ earliest =
        (.error (.aborted "signatures are append-only"), earliest) := by
  obtain ⟨_, henforced⟩ := guarded_enforced earliest guarded_earliest
  refine ⟨guarded_earliest, henforced.deletions .signatures _ ⟨earliestRow, ?_, rfl⟩⟩
  rw [Target.table, rows_earliest]
  exact List.mem_singleton.mpr rfl

theorem exists_of_rows {result : Except SqlError (Nat × Database)} {changed : Nat}
    {rows : List Row} (hrows : (result.toOption.map fun result =>
      (result.1, result.2.signatures.rows)) = some (changed, rows)) :
    ∃ next, result = .ok (changed, next) ∧ next.signatures.rows = rows := by
  cases result with
  | error cause => cases hrows
  | ok result =>
      obtain ⟨count, next⟩ := result
      simp only [Except.toOption, Option.map_some, Option.some.injEq, Prod.mk.injEq] at hrows
      exact ⟨next, by rw [hrows.1], hrows.2⟩

def restate : Except SqlError (Nat × Database) :=
  earliest.runText "UPDATE signatures SET signed_at = ?1 WHERE id = ?2"
    [.text "-9223372036854775808.0", .integer 1]

/-- No trigger stops this update, after which the record cannot be read. -/
theorem restate_unreadable :
    Guarded earliest ∧ Store.records earliest = .ok [earliestDraft.stored 1 1736870400000] ∧
      ∃ next, restate = .ok (1, next) ∧ earliestRow.cell 4 = .integer Int64.minValue ∧
        next.signatures.rows = [earliestRow.setCell 4 (.real (.finite (-1) 63))] ∧
        Store.records next = .error (.database (.wrongClass .real 5 "signed_at")) := by
  have hrestate : (restate.toOption.map fun result => (result.1, result.2.signatures.rows)) =
      some (1, [earliestRow.setCell 4 (.real (.finite (-1) 63))]) := by decide +kernel
  refine ⟨guarded_earliest, ?_, ?_⟩
  · change readAll readRecord earliest.signatures.rows = _
    rw [rows_earliest]
    exact readAll_eq (congrArg ([·]) (read_signatureCells earliestDraft 1 1736870400000))
  · obtain ⟨next, hnext, hrows⟩ := exists_of_rows hrestate
    refine ⟨next, hnext, rfl, hrows, ?_⟩
    change readAll readRecord next.signatures.rows = _
    rw [hrows]
    rfl

end Signoff.Database
