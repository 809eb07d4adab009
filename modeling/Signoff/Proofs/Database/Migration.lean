import Signoff.Proofs.Database.Steps

namespace Signoff.Database

/-! A migration runs one command after another, and each changes the database at once. If one of
them fails, what those before it have done is put back: all pending steps are taken or none. -/

inductive Command where
  | create (object : SchemaObject)
  | record (version : Nat)

def Command.run (clock : Clock) (database : Database) : Command → Except DatabaseError Database
  | create object => (object.create database.objects).map fun objects => { database with objects }
  | record version =>
    if database.versions.any (·.version = Int64.ofNat version) then
      .error (.notUnique Schema.versionTable.name ["version"])
    else .ok { database with
      versions := database.versions ++ [⟨Int64.ofNat version, clock.now⟩] }

def runAll (clock : Clock) : List Command → Database → Except DatabaseError Unit × Database
  | [], database => (.ok (), database)
  | command :: rest, database =>
    match command.run clock database with
    | .ok database => runAll clock rest database
    | .error cause => (.error cause, database)

def committed : Except DatabaseError Unit × Database → Except DatabaseError Database
  | (.ok (), database) => .ok database
  | (.error cause, _) => .error cause

def transact (clock : Clock) (commands : List Command) (database : Database) :
    Except DatabaseError Unit × Database :=
  match committed (runAll clock commands database) with
  | .ok after => (.ok (), after)
  | .error cause => (.error cause, database)

def commandsFrom (version : Nat) : List (List SchemaObject) → List Command
  | [] => []
  | step :: rest =>
    step.map .create ++ .record (version + 1) :: commandsFrom (version + 1) rest

theorem committed_runAll_create (clock : Clock) (step : List SchemaObject)
    (rest : List Command) (database : Database) :
    committed (runAll clock (step.map .create ++ rest) database) =
      (step.foldlM (fun objects object => object.create objects) database.objects) >>=
        fun objects => committed (runAll clock rest { database with objects }) := by
  induction step generalizing database with
  | nil => rfl
  | cons object step ih =>
      rw [List.map_cons, List.cons_append, runAll, Command.run, List.foldlM_cons]
      cases object.create database.objects with
      | error cause => rfl
      | ok objects => exact ih { database with objects }

theorem run_record {clock : Clock} {version : Nat} {database : Database}
    (hlarger : database.appliedVersion < Int64.ofNat version) :
    (Command.record version).run clock database = .ok { database with
      versions := database.versions ++ [⟨Int64.ofNat version, clock.now⟩] } := by
  have hnew : ¬ database.versions.any (·.version = Int64.ofNat version) = true := by
    rw [List.any_eq_true]
    rintro ⟨applied, hmem, hsame⟩
    have hle := le_appliedVersion hmem
    rw [of_decide_eq_true hsame] at hle
    exact Int64.not_lt.mpr hle hlarger
  rw [Command.run, if_neg hnew]

theorem committed_runAll (clock : Clock) {version : Nat} {steps : List (List SchemaObject)}
    {database : Database} (hversion : database.appliedVersion = Int64.ofNat version)
    (hroom : version + steps.length < 0x8000000000000000) :
    committed (runAll clock (commandsFrom version steps) database) =
      applySteps clock version steps database := by
  induction steps generalizing version database with
  | nil => rfl
  | cons step rest ih =>
      rw [List.length_cons] at hroom
      have hlarger : database.appliedVersion < Int64.ofNat (version + 1) :=
        hversion ▸ ofNat_lt (by omega) (Nat.lt_succ_self version)
      rw [commandsFrom, committed_runAll_create, applySteps, applyStep]
      cases step.foldlM (fun objects object => object.create objects) database.objects with
      | error cause => rfl
      | ok objects =>
          -- All versions still to be recorded are new.
          have hrecord := @run_record clock _ { database with objects } hlarger
          change committed (runAll clock (.record (version + 1) :: commandsFrom (version + 1) rest)
            { database with objects }) = applySteps clock (version + 1) rest _
          rw [runAll, hrecord]
          exact ih (appliedVersion_concat hlarger) (by omega)

/-- Versions stand in a table of their own. -/
def Formed (database : Database) : Prop :=
  database.hasVersionTable = false → database.versions = []

/-- The database with a table of versions, which is empty if it is new. -/
def tabled (database : Database) : Database :=
  if database.hasVersionTable then database
  else { database with objects := database.objects ++ [Schema.versionTable] }

def reached (database : Database) : Nat := database.appliedVersion.toNatClampNeg

def pending (database : Database) : List (List SchemaObject) :=
  Schema.steps.drop database.reached

def takePending (clock : Clock) (database : Database) : Except DatabaseError Unit × Database :=
  transact clock (commandsFrom database.reached database.pending) database.tabled

def Opens (database : Database) : Prop :=
  database.hasVersionTable = true ∨ Addable database.objects [Schema.versionTable]

def Known (database : Database) : Prop :=
  0 ≤ database.appliedVersion ∧ database.appliedVersion ≤ Int64.ofNat Schema.currentVersion

variable {database : Database}

theorem withVersionTable_eq_ok_iff {next : Database} :
    database.withVersionTable = .ok next ↔ database.Opens ∧ next = database.tabled := by
  unfold withVersionTable Opens tabled
  by_cases htable : database.hasVersionTable = true
  · simp [htable, eq_comm]
  · simp only [htable, Bool.false_eq_true, if_false, false_or, map_eq_ok_iff,
      SchemaObject.create_eq_ok_iff]
    constructor
    · rintro ⟨_, ⟨hadd, rfl⟩, rfl⟩
      exact ⟨hadd, rfl⟩
    · rintro ⟨hadd, rfl⟩
      exact ⟨_, ⟨hadd, rfl⟩, rfl⟩

@[simp] theorem versions_tabled : database.tabled.versions = database.versions := by
  unfold tabled
  split <;> rfl

@[simp] theorem appliedVersion_tabled :
    database.tabled.appliedVersion = database.appliedVersion := by
  rw [appliedVersion, appliedVersion, versions_tabled]

theorem sameTables_tabled : SameTables database database.tabled := by
  unfold tabled
  split
  · exact ⟨_, _, rfl⟩
  · exact ⟨_, _, rfl⟩

theorem hasVersionTable_tabled : database.tabled.hasVersionTable = true := by
  unfold tabled
  split
  · assumption
  · simp [hasVersionTable, SchemaObject.sameName, Schema.versionTable, SchemaObject.table]

theorem Known.reached_le (hknown : database.Known) : database.reached ≤ Schema.currentVersion := by
  have hle := Int64.le_iff_toInt_le.mp hknown.2
  rw [Int64.toInt_ofNat_of_lt (by decide)] at hle
  rw [reached, ← Int64.toNat_toInt]
  omega

theorem Known.appliedVersion_eq (hknown : database.Known) :
    database.appliedVersion = Int64.ofNat database.reached := by
  have hle := Int64.le_iff_toInt_le.mp hknown.1
  have hreached := hknown.reached_le
  have hcurrent : Schema.currentVersion < 0x8000000000000000 := by decide
  apply Int64.toInt_inj.mp
  rw [Int64.toInt_ofNat_of_lt (by omega), reached, ← Int64.toNat_toInt]
  change 0 ≤ _ at hle
  omega

theorem Known.reached_add (hknown : database.Known) :
    database.reached + database.pending.length = Schema.currentVersion := by
  have hreached := hknown.reached_le
  rw [pending, List.length_drop]
  exact Nat.add_sub_cancel' hreached

theorem Known.room (hknown : database.Known) :
    database.reached + database.pending.length < 0x8000000000000000 := by
  rw [hknown.reached_add]
  decide

def newerReason (version : Nat) : String :=
  "schema version " ++ toString version ++ " is newer than this build supports (" ++
    toString Schema.currentVersion ++ ")"

inductive Outcome (clock : Clock) (database : Database) : Except StoreError Unit × Database → Prop
  | unopened {cause : DatabaseError} (unopened : ¬ database.Opens) :
      Outcome clock database (.error (.database cause), database)
  | outOfRange (opens : database.Opens)
      (outside : database.appliedVersion < 0 ∨ 0x100000000 ≤ database.appliedVersion) :
      Outcome clock database
        (.error (.database (.outOfRange database.appliedVersion 0)), database.tabled)
  | newer (opens : database.Opens)
      (inside : 0 ≤ database.appliedVersion ∧ database.appliedVersion < 0x100000000)
      (newer : Int64.ofNat Schema.currentVersion < database.appliedVersion) :
      Outcome clock database
        (.error (.migration (newerReason database.reached)), database.tabled)
  | stopped {cause : DatabaseError} (opens : database.Opens) (known : database.Known)
      (stopped : applySteps clock database.reached database.pending database.tabled =
        .error cause) :
      Outcome clock database (.error (.database cause), database.tabled)
  | done {after : Database} (opens : database.Opens) (known : database.Known)
      (done : applySteps clock database.reached database.pending database.tabled = .ok after) :
      Outcome clock database (.ok (), after)

theorem migrate_outcome (clock : Clock) (database : Database) :
    Outcome clock database (database.migrate clock) := by
  unfold migrate
  cases hopened : database.withVersionTable with
  | error cause =>
      refine .unopened fun hopens => ?_
      rw [withVersionTable_eq_ok_iff.mpr ⟨hopens, rfl⟩] at hopened
      cases hopened
  | ok prepared =>
      obtain ⟨hopens, rfl⟩ := withVersionTable_eq_ok_iff.mp hopened
      simp only [appliedVersion_tabled]
      split
      · next houtside => exact .outOfRange hopens houtside
      · next hinside =>
          obtain ⟨hlow, hhigh⟩ := not_or.mp hinside
          have hlow := Int64.not_lt.mp hlow
          have hhigh := Int64.not_le.mp hhigh
          split
          · next hnewer =>
              refine .newer hopens ⟨hlow, hhigh⟩ ?_
              rw [Int64.lt_iff_toInt_lt, Int64.toInt_ofNat_of_lt (by decide)]
              rw [← Int64.toNat_toInt] at hnewer
              omega
          · next hnewer =>
              have hknown : database.Known := by
                refine ⟨hlow, ?_⟩
                rw [Int64.le_iff_toInt_le, Int64.toInt_ofNat_of_lt (by decide)]
                rw [← Int64.toNat_toInt] at hnewer
                omega
              split
              · next hsteps => exact .stopped hopens hknown hsteps
              · next hsteps => exact .done hopens hknown hsteps

theorem steps_apart :
    Schema.steps.flatten.Pairwise fun earlier later => later.clashesWith earlier = false := by
  decide +kernel

theorem steps_keep_versionTable :
    (Schema.steps.flatten.all fun object => !object.clashesWith Schema.versionTable) = true := by
  decide +kernel

theorem pending_sublist : database.pending.flatten.Sublist Schema.steps.flatten := by
  rw [← List.take_append_drop database.reached Schema.steps, List.flatten_append]
  exact List.sublist_append_right _ _

theorem addable_pending_iff :
    Addable database.tabled.objects database.pending.flatten ↔
      ∀ object ∈ database.pending.flatten, ∀ existing ∈ database.objects,
        object.clashesWith existing = false := by
  have hsub : database.objects ⊆ database.tabled.objects := by
    unfold tabled
    split
    · exact List.Subset.refl _
    · exact List.subset_append_left _ _
  constructor
  · intro haddable object hobject existing hexisting
    exact haddable.free object hobject existing (hsub hexisting)
  · intro hfree
    refine ⟨steps_apart.sublist pending_sublist, fun object hobject existing hexisting => ?_⟩
    unfold tabled at hexisting
    split at hexisting
    · exact hfree object hobject existing hexisting
    · rcases List.mem_append.mp hexisting with hold | hnew
      · exact hfree object hobject existing hold
      · -- The table of versions that was just created is in no step's way.
        rw [List.mem_singleton.mp hnew]
        have hkeep := List.all_eq_true.mp steps_keep_versionTable object
          (pending_sublist.subset hobject)
        simpa using hkeep

/-- No object is in the way, and no version is unknown. -/
structure Migratable (database : Database) : Prop where
  opens : database.Opens
  known : database.Known
  free : ∀ object ∈ database.pending.flatten, ∀ existing ∈ database.objects,
    object.clashesWith existing = false

/-- Every pending step has been taken and recorded, and nothing else has happened. -/
structure Migrated (clock : Clock) (before after : Database) : Prop where
  current : after.appliedVersion = Int64.ofNat Schema.currentVersion
  objects : after.objects = before.tabled.objects ++ before.pending.flatten
  created : ∀ object ∈ before.pending.flatten,
    after.objects.filter object.clashesWith = [object]
  versions : after.versions =
    before.versions ++ recorded clock before.reached before.pending.length
  once : ∀ version, before.reached < version → version ≤ Schema.currentVersion →
    after.versions.filter (·.version = Int64.ofNat version) = [⟨Int64.ofNat version, clock.now⟩]
  rows : SameTables before after
  settled : ∀ later, after.migrate later = (.ok (), after)

/-- A database as it was, but for an empty table of versions. -/
inductive PutBack (before : Database) : Database → Prop
  | untouched : PutBack before before
  | tabled (lacks : before.hasVersionTable = false) (empty : before.versions = []) :
      PutBack before { before with objects := before.objects ++ [Schema.versionTable] }

theorem putBack_tabled (hformed : database.Formed) : PutBack database database.tabled := by
  unfold tabled
  split
  · exact .untouched
  · next hlacks =>
      have hlacks := Bool.eq_false_iff.mpr hlacks
      exact .tabled hlacks (hformed hlacks)

theorem migrate_of_known (clock : Clock) (hopens : database.Opens) (hknown : database.Known) :
    database.migrate clock =
      match applySteps clock database.reached database.pending database.tabled with
      | .error cause => (.error (.database cause), database.tabled)
      | .ok after => (.ok (), after) := by
  have houtcome := migrate_outcome clock database
  generalize database.migrate clock = result at houtcome ⊢
  cases houtcome with
  | unopened hunopened => exact absurd hopens hunopened
  | outOfRange _ houtside =>
      rcases houtside with hlow | hhigh
      · exact absurd hlow (Int64.not_lt.mpr hknown.1)
      · exact absurd (Int64.le_trans hhigh hknown.2) (by decide)
  | newer _ _ hnewer => exact absurd hnewer (Int64.not_lt.mpr hknown.2)
  | stopped _ _ hstopped => rw [hstopped]
  | done _ _ hdone => rw [hdone]

theorem migrate_settled (clock : Clock) (htable : database.hasVersionTable = true)
    (hcurrent : database.appliedVersion = Int64.ofNat Schema.currentVersion) :
    database.migrate clock = (.ok (), database) := by
  have hknown : database.Known := by
    rw [Known, hcurrent]
    decide
  have hpending : database.pending = [] := by
    have hlength := hknown.reached_add
    rw [reached, hcurrent] at hlength
    exact List.eq_nil_of_length_eq_zero (Nat.add_eq_left.mp hlength)
  rw [migrate_of_known clock (.inl htable) hknown, hpending, tabled, if_pos htable]
  rfl

theorem Migratable.migrate_eq (hmigratable : Migratable database) (clock : Clock) :
    database.migrate clock =
      (.ok (), withSteps clock database.reached database.pending database.tabled) := by
  rw [migrate_of_known clock hmigratable.opens hmigratable.known,
    applySteps_eq_ok_iff.mpr ⟨addable_pending_iff.mpr hmigratable.free, rfl⟩]

theorem Migratable.hasVersionTable (hmigratable : Migratable database) (clock : Clock) :
    (database.migrate clock).2.hasVersionTable = true := by
  have htable := @hasVersionTable_tabled database
  rw [hmigratable.migrate_eq]
  simp only [Database.hasVersionTable, withSteps, List.any_append, Bool.or_eq_true] at htable ⊢
  exact .inl htable

theorem migrate_eq_ok_iff (clock : Clock) :
    (database.migrate clock).1 = .ok () ↔ Migratable database := by
  constructor
  · intro hok
    have houtcome := migrate_outcome clock database
    generalize database.migrate clock = result at houtcome hok
    cases houtcome with
    | unopened => cases hok
    | outOfRange => cases hok
    | newer => cases hok
    | stopped => cases hok
    | done hopens hknown hdone =>
        exact ⟨hopens, hknown, addable_pending_iff.mp (applySteps_eq_ok_iff.mp hdone).1⟩
  · intro hmigratable
    rw [hmigratable.migrate_eq]

theorem Migratable.current (hmigratable : Migratable database) (clock : Clock) :
    (database.migrate clock).2.appliedVersion = Int64.ofNat Schema.currentVersion := by
  have hknown := hmigratable.known
  have hversion : database.tabled.appliedVersion = Int64.ofNat database.reached := by
    rw [appliedVersion_tabled, hknown.appliedVersion_eq]
  rw [hmigratable.migrate_eq, appliedVersion_withSteps clock hversion hknown.room,
    hknown.reached_add]

theorem Migratable.versions_eq (hmigratable : Migratable database) (clock : Clock) :
    (database.migrate clock).2.versions =
      database.versions ++ recorded clock database.reached database.pending.length := by
  rw [hmigratable.migrate_eq, withSteps, versions_tabled]

theorem Known.filter_versions (hknown : database.Known) {version : Nat}
    (hlow : database.reached < version) (hhigh : version ≤ Schema.currentVersion) :
    database.versions.filter (·.version = Int64.ofNat version) = [] := by
  rw [List.filter_eq_nil_iff]
  intro applied hmem hsame
  have hcurrent : Schema.currentVersion < 0x8000000000000000 := by decide
  have hle := le_appliedVersion hmem
  rw [of_decide_eq_true hsame, hknown.appliedVersion_eq] at hle
  exact Int64.not_lt.mpr hle (ofNat_lt (by omega) hlow)

theorem Migratable.migrated (hmigratable : Migratable database) (clock : Clock) :
    Migrated clock database (database.migrate clock).2 := by
  have hknown := hmigratable.known
  constructor
  · exact hmigratable.current clock
  · rw [hmigratable.migrate_eq]
    rfl
  · intro object hobject
    rw [hmigratable.migrate_eq]
    exact (addable_pending_iff.mpr hmigratable.free).filter_eq hobject
  · exact hmigratable.versions_eq clock
  · intro version hlow hhigh
    rw [hmigratable.versions_eq, List.filter_append, hknown.filter_versions hlow hhigh,
      List.nil_append]
    exact filter_recorded clock hlow (by rw [hknown.reached_add]; exact hhigh) hknown.room
  · obtain ⟨_, _, htabled⟩ := @sameTables_tabled database
    rw [hmigratable.migrate_eq, htabled]
    exact ⟨_, _, rfl⟩
  · intro later
    exact migrate_settled later (hmigratable.hasVersionTable clock) (hmigratable.current clock)

theorem putBack_of_error (hformed : database.Formed) {clock : Clock} {cause : StoreError}
    (herror : (database.migrate clock).1 = .error cause) :
    PutBack database (database.migrate clock).2 := by
  have houtcome := migrate_outcome clock database
  generalize database.migrate clock = result at houtcome herror ⊢
  cases houtcome with
  | unopened => exact .untouched
  | outOfRange => exact putBack_tabled hformed
  | newer => exact putBack_tabled hformed
  | stopped => exact putBack_tabled hformed
  | done => cases herror

/-- All that a migration does beyond the table of versions, it does in one transaction. -/
theorem migrate_eq_transact (clock : Clock) (hopens : database.Opens) (hknown : database.Known) :
    database.migrate clock =
      ((database.takePending clock).1.mapError .database, (database.takePending clock).2) := by
  have hversion : database.tabled.appliedVersion = Int64.ofNat database.reached := by
    rw [appliedVersion_tabled, hknown.appliedVersion_eq]
  rw [migrate_of_known clock hopens hknown, takePending, transact,
    committed_runAll clock hversion hknown.room]
  cases applySteps clock database.reached database.pending database.tabled with
  | error cause => rfl
  | ok after => rfl

theorem Formed.hasVersionTable (hformed : database.Formed)
    (hnewer : Int64.ofNat Schema.currentVersion < database.appliedVersion) :
    database.hasVersionTable = true := by
  apply Decidable.byContradiction
  intro hlacks
  rw [appliedVersion, hformed (Bool.eq_false_iff.mpr hlacks)] at hnewer
  exact absurd hnewer (by decide)

theorem migrate_newer (hformed : database.Formed) (clock : Clock)
    (hnewer : Int64.ofNat Schema.currentVersion < database.appliedVersion) :
    ∃ cause, database.migrate clock = (.error cause, database) ∧
      (database.appliedVersion < 0x100000000 →
        cause = .migration (newerReason database.reached)) := by
  have htable := hformed.hasVersionTable hnewer
  have htabled : database.tabled = database := if_pos htable
  have houtcome := migrate_outcome clock database
  generalize database.migrate clock = result at houtcome ⊢
  cases houtcome with
  | unopened hunopened => exact absurd (.inl htable) hunopened
  | outOfRange _ houtside =>
      refine ⟨_, by rw [htabled], fun hinside => ?_⟩
      rcases houtside with hlow | hhigh
      · exact absurd (Int64.lt_trans hnewer hlow) (by decide)
      · exact absurd hinside (Int64.not_lt.mpr hhigh)
  | newer => exact ⟨_, by rw [htabled], fun _ => rfl⟩
  | stopped _ hknown => exact absurd hnewer (Int64.not_lt.mpr hknown.2)
  | done _ hknown => exact absurd hnewer (Int64.not_lt.mpr hknown.2)

theorem formed_migrate (hformed : database.Formed) (clock : Clock) :
    (database.migrate clock).2.Formed := by
  cases hresult : (database.migrate clock).1 with
  | ok =>
      intro hlacks
      rw [((migrate_eq_ok_iff clock).mp hresult).hasVersionTable] at hlacks
      cases hlacks
  | error cause =>
      have hputBack := putBack_of_error hformed hresult
      generalize (database.migrate clock).2 = after at hputBack ⊢
      cases hputBack with
      | untouched => exact hformed
      | tabled _ hempty => exact fun _ => hempty

theorem migratable_empty : Migratable empty := by
  constructor
  · exact .inr (addable_singleton.mpr (by simp [empty]))
  · exact ⟨by decide, by decide⟩
  · simp [empty]

/-- A migration takes all pending steps, or it leaves nothing but an empty table of versions behind,
however far it had come. A database here may hold tables, indexes and triggers under any names, but
no views; what is in the way of a step is so by its name alone, and no trigger fires when a version
is recorded; and a table of versions that is found has the columns of the one that a migration
makes, with integers for versions. -/
theorem migrate_allOrNothing (clock : Clock) {database : Database} (hformed : database.Formed) :
    ((database.migrate clock).1 = .ok () ↔ Migratable database) ∧
    ((database.migrate clock).1 = .ok () →
      Migrated clock database (database.migrate clock).2) ∧
    (∀ cause, (database.migrate clock).1 = .error cause →
      PutBack database (database.migrate clock).2) ∧
    (database.Opens → database.Known → database.migrate clock =
      ((database.takePending clock).1.mapError .database, (database.takePending clock).2)) ∧
    (Int64.ofNat Schema.currentVersion < database.appliedVersion →
      ∃ cause, database.migrate clock = (.error cause, database) ∧
        (database.appliedVersion < 0x100000000 →
          cause = .migration (newerReason database.reached))) ∧
    (database.migrate clock).2.Formed := by
  refine ⟨migrate_eq_ok_iff clock, fun hok => ?_, fun cause => putBack_of_error hformed,
    migrate_eq_transact clock, migrate_newer hformed clock, formed_migrate hformed clock⟩
  exact ((migrate_eq_ok_iff clock).mp hok).migrated clock

def obstructed : Database := { empty with objects := [.trigger "Signatures_No_Delete"] }

theorem migrate_allOrNothing_obstructed :
    obstructed.Formed ∧
      (runAll ⟨0⟩ (commandsFrom 0 Schema.steps) obstructed.tabled).2.objects =
        obstructed.tabled.objects ++ Schema.initial.take 7 ∧
      PutBack obstructed (obstructed.migrate ⟨0⟩).2 := by
  have hformed : obstructed.Formed := fun _ => rfl
  have hobjects : (runAll ⟨0⟩ (commandsFrom 0 Schema.steps) obstructed.tabled).2.objects =
      obstructed.tabled.objects ++ Schema.initial.take 7 := by decide +kernel
  obtain ⟨hok, _, hputBack, _⟩ := migrate_allOrNothing ⟨0⟩ hformed
  refine ⟨hformed, hobjects, ?_⟩
  cases hresult : (obstructed.migrate ⟨0⟩).1 with
  | error cause => exact hputBack cause hresult
  | ok =>
      have hfree := (hok.mp hresult).free Schema.signatureNoDelete (by decide +kernel)
        (.trigger "Signatures_No_Delete") (by decide)
      exact absurd hfree (by decide +kernel)

end Signoff.Database
