import Evergreen.Migration.DryRun

set_option linter.dupNamespace false

namespace Evergreen.Migration

/-! # Schema, tracking table and memory

`apply_migration_db` makes two database calls and reports only the first.  A
statement that is answered with an error took no effect.
-/

/-- The statement ran and one row was added; the memory holds the record that
the row was made from. -/
structure World.Applied (before after : World) (migration : Migration) : Prop where
  executed : after.database.executed = before.database.executed ++ [migration.upSql]
  tracked : ∃ record : MigrationRecord, record.version = migration.version ∧
    after.shim.appliedRecords[migration.version]? = some record ∧
    after.database.tracking = before.database.tracking ++ [record.row]
  current : after.shim.currentVersion = migration.version
  counted : after.shim.migrationsApplied = before.shim.migrationsApplied + 1

/-- What the result promises about a shim that has a database. -/
def World.Agrees (before : World) (migration : Migration) :
    World × Except MigrationError Unit → Prop
  | (after, .ok ()) => before.shim.hasDb = true → before.Applied after migration
  | (after, .error _) => after.database = before.database ∧ after.shim = before.shim

/-- The second database call is made. -/
def World.Inserts (world : World) (migration : Migration) (execute : Reply) : Prop :=
  world.shim.hasDb = true ∧ world.shim.Due migration ∧ execute = .done

variable {world : World} {migration : Migration} {execute insert : Reply} {now : Int}

/-! ## The outcomes -/

theorem applyMigrationDb_refused (refused : ¬ world.shim.Due migration) :
    ∃ error, world.applyMigrationDb migration execute insert now = (world, .error error) := by
  cases checked : world.shim.checkOrder migration with
  | error error => exact ⟨error, by simp only [World.applyMigrationDb, checked]⟩
  | ok => exact absurd (checkOrder_eq_ok.mp checked) refused

theorem applyMigrationDb_failed (due : world.shim.Due migration) (connected : world.shim.hasDb = true)
    (failed : execute ≠ .done) :
    ∃ after, world.applyMigrationDb migration execute insert now =
        (after, .error (.versionConflict migration.version migration.version)) ∧
      after.database = world.database ∧ after.shim = world.shim := by
  have checked := checkOrder_eq_ok.mpr due
  refine ⟨{ world with events := world.events ++ execute.sent (.up migration.upSql) }, ?_, rfl, rfl⟩
  cases execute with
  | done => exact absurd rfl failed
  | unreachable error => simp [World.applyMigrationDb, checked, World.executeUp, connected, Reply.result]
  | failed error => simp [World.applyMigrationDb, checked, World.executeUp, connected, Reply.result]

theorem applyMigrationDb_done (inserts : world.Inserts migration execute) :
    ∃ after, world.applyMigrationDb migration execute insert now = (after, .ok ()) ∧
      after.shim = world.shim.record migration now ∧
      after.database.executed = world.database.executed ++ [migration.upSql] ∧
      after.database.tracking = world.database.tracking ++ if insert = .done then
        [MigrationRecord.row ⟨migration.version, migration.name, now, migration.checksum⟩] else [] := by
  obtain ⟨connected, due, rfl⟩ := inserts
  have checked := checkOrder_eq_ok.mpr due
  simp only [World.applyMigrationDb, checked, World.executeUp, connected, if_true, Reply.result,
    World.insertRecord]
  refine ⟨_, rfl, rfl, ?_, ?_⟩
  · split <;> rfl
  · split <;> simp

theorem agrees_without_db (disconnected : world.shim.hasDb ≠ true) :
    world.Agrees migration (world.applyMigrationDb migration execute insert now) := by
  by_cases due : world.shim.Due migration
  · simp [World.Agrees, World.applyMigrationDb, checkOrder_eq_ok.mpr due, World.executeUp,
      World.insertRecord, disconnected]
  · obtain ⟨error, refused⟩ := @applyMigrationDb_refused world migration execute insert now due
    rw [refused]
    exact ⟨rfl, rfl⟩

/-- The three views agree unless the row is refused after the statement ran:
that failure is logged and the migration counts as applied. -/
theorem applyMigrationDb_agrees_iff (world : World) (migration : Migration) (execute insert : Reply)
    (now : Int) :
    world.Agrees migration (world.applyMigrationDb migration execute insert now) ↔
      (world.Inserts migration execute → insert = .done) := by
  by_cases inserts : world.Inserts migration execute
  · obtain ⟨after, outcome, shim, executed, tracking⟩ :=
      @applyMigrationDb_done world migration execute insert now inserts
    rw [outcome]
    constructor
    · intro agrees _
      obtain ⟨record, _, _, tracked⟩ := (agrees inserts.1).tracked
      by_contra refused
      rw [if_neg refused, tracked] at tracking
      simp at tracking
    · intro done _
      rw [if_pos (done inserts)] at tracking
      exact ⟨executed, ⟨_, rfl, by simp [shim, MigrationShim.record], tracking⟩,
        by rw [shim]; rfl, by rw [shim]; rfl⟩
  · refine iff_of_true ?_ fun inserting => absurd inserting inserts
    by_cases connected : world.shim.hasDb = true
    · by_cases due : world.shim.Due migration
      · have failed : execute ≠ .done := fun done => inserts ⟨connected, due, done⟩
        obtain ⟨after, outcome, kept⟩ :=
          @applyMigrationDb_failed world migration execute insert now due connected failed
        rw [outcome]
        exact kept
      · obtain ⟨error, refused⟩ := @applyMigrationDb_refused world migration execute insert now due
        rw [refused]
        exact ⟨rfl, rfl⟩
    · exact agrees_without_db connected

/-- The statement runs, its row is refused, and the result is `Ok`. -/
theorem applyMigrationDb_untracked :
    ¬ (World.fresh "db" "app" true ⟨[], []⟩).Agrees (numbered 1)
      ((World.fresh "db" "app" true ⟨[], []⟩).applyMigrationDb (numbered 1) .done
        (.failed "permission denied") 0) := by
  intro agrees
  obtain ⟨record, _, _, tracked⟩ := (agrees rfl).tracked
  exact absurd tracked (List.cons_ne_nil _ _).symm

end Evergreen.Migration
