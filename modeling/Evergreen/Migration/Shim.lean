import Evergreen.Migration.Files
import Mathlib.Tactic.Linarith

set_option linter.dupNamespace false

namespace Evergreen.Migration

/-! # Applying migrations

`MigrationShim` with its in-memory record of what is applied, and the database
behind it.  A database call answers that the server cannot be reached, that the
statement failed, or that it is done.
-/

structure MigrationRecord where
  version : Nat
  name : String
  appliedAt : Int
  checksum : String
deriving DecidableEq, Repr

structure Migration where
  version : Nat
  name : String
  upSql : String
  downSql : Option String
  checksum : String
deriving DecidableEq, Repr

inductive MigrationError where
  | versionConflict (existing incoming : Nat)
  | checksumMismatch (version : Nat) (expected actual : String)
  | missingDownMigration (version : Nat)
  | invalidVersion (version : String)
  | outOfOrder (expected got : Nat)
deriving DecidableEq, Repr

def MigrationError.message : MigrationError → String
  | versionConflict existing incoming =>
      s!"Version conflict: existing={existing}, incoming={incoming}"
  | checksumMismatch version expected actual =>
      s!"Checksum mismatch at v{version}: expected={expected}, actual={actual}"
  | missingDownMigration version => s!"Missing down migration for version {version}"
  | invalidVersion version => s!"Invalid version: {version}"
  | outOfOrder expected got => s!"Out of order migration: expected v{expected}, got v{got}"

/-- `has_db` is decided by the host and the database name. -/
structure MigrationShim where
  dbHost : String
  database : String
  autoMigrate : Bool
  currentVersion : Nat
  migrationsApplied : Nat
  migrationsRolledBack : Nat
  lastMigration : Option Int
  appliedRecords : Std.ExtTreeMap Nat MigrationRecord

def MigrationShim.new (dbHost database : String) (autoMigrate : Bool) : MigrationShim where
  dbHost := dbHost
  database := database
  autoMigrate := autoMigrate
  currentVersion := 0
  migrationsApplied := 0
  migrationsRolledBack := 0
  lastMigration := none
  appliedRecords := ∅

inductive Reply where
  | unreachable (error : String)
  | failed (error : String)
  | done
deriving DecidableEq, Repr

/-- A row of `schema_migrations`; the version is stored as an `i32`. -/
structure TrackingRow where
  version : Int
  name : String
  checksum : String
  appliedAt : Int
deriving DecidableEq, Repr

/-- The statements that took effect, and the rows of the tracking table. -/
structure Database where
  executed : List String
  tracking : List TrackingRow
deriving DecidableEq, Repr

/-- What a start does to the outside, in order: a statement is there if it was
sent to the server, whatever became of it. -/
inductive Event where
  | acquired
  | released
  | createTable
  | up (sql : String)
  | insert (row : TrackingRow)
deriving DecidableEq, Repr

def asI32 (version : Nat) : Int :=
  if version < 2 ^ 31 then version else version - 2 ^ 32

def MigrationRecord.row (record : MigrationRecord) : TrackingRow where
  version := asI32 record.version
  name := record.name
  checksum := record.checksum
  appliedAt := record.appliedAt

def Reply.sent (reply : Reply) (event : Event) : List Event :=
  match reply with
  | .unreachable _ => []
  | .failed _ => [event]
  | .done => [event]

def Reply.result : Reply → Except String Unit
  | .unreachable error => .error error
  | .failed error => .error error
  | .done => .ok ()

structure World where
  shim : MigrationShim
  database : Database
  events : List Event

namespace MigrationShim

variable (shim : MigrationShim)

def hasDb : Bool := !shim.dbHost.isEmpty && !shim.database.isEmpty

def expectedVersion : Nat := (shim.currentVersion + 1) % 2 ^ 32

def verifyChecksum (version : Nat) (checksum : String) : Except MigrationError Unit :=
  match shim.appliedRecords[version]? with
  | some record =>
      if record.checksum = checksum then .ok ()
      else .error (.checksumMismatch version record.checksum checksum)
  | none => .ok ()

def checkOrder (migration : Migration) : Except MigrationError Unit :=
  if shim.appliedRecords.contains migration.version then
    .error (.versionConflict migration.version migration.version)
  else if migration.version ≠ shim.expectedVersion ∧ 0 < shim.currentVersion then
    .error (.outOfOrder shim.expectedVersion migration.version)
  else shim.verifyChecksum migration.version migration.checksum

def record (migration : Migration) (now : Int) : MigrationShim :=
  { shim with
    appliedRecords := shim.appliedRecords.insert migration.version
      ⟨migration.version, migration.name, now, migration.checksum⟩
    currentVersion := migration.version
    migrationsApplied := shim.migrationsApplied + 1
    lastMigration := some now }

end MigrationShim

/-- `execute_sql`: nothing happens without a database. -/
def World.executeUp (world : World) (sql : String) (reply : Reply) : World × Except String Unit :=
  if world.shim.hasDb then
    ({ world with
        events := world.events ++ reply.sent (.up sql)
        database := if reply = .done then
            { world.database with executed := world.database.executed ++ [sql] }
          else world.database },
      reply.result)
  else (world, .ok ())

/-- `insert_migration_record`; its caller only logs a failure. -/
def World.insertRecord (world : World) (record : MigrationRecord) (reply : Reply) : World :=
  if world.shim.hasDb then
    { world with
      events := world.events ++ reply.sent (.insert record.row)
      database := if reply = .done then
          { world.database with tracking := world.database.tracking ++ [record.row] }
        else world.database }
  else world

/-- `apply_migration_db`, with the answers of its two database calls. -/
def World.applyMigrationDb (world : World) (migration : Migration) (execute insert : Reply)
    (now : Int) : World × Except MigrationError Unit :=
  match world.shim.checkOrder migration with
  | .error error => (world, .error error)
  | .ok () =>
      match world.executeUp migration.upSql execute with
      | (world, .error _) =>
          (world, .error (.versionConflict migration.version migration.version))
      | (world, .ok ()) =>
          let world := world.insertRecord
            ⟨migration.version, migration.name, now, migration.checksum⟩ insert
          ({ world with shim := world.shim.record migration now }, .ok ())

/-! ## Starting -/

/-- What a start meets: the lock, and the answers of the database for the table
and, file by file, for the two calls of an application. -/
structure StartInput where
  ensure : Reply
  acquire : Except String Unit
  release : Except String Unit
  execute : Entry → Reply
  insert : Entry → Reply
  now : Int

/-- `ensure_migrations_table`; its caller only logs a failure. -/
def World.ensureTable (world : World) (reply : Reply) : World :=
  if world.shim.hasDb then { world with events := world.events ++ reply.sent .createTable } else world

def Scanned.migration (scanned : Scanned) (sql : String) : Migration where
  version := scanned.version
  name := scanned.name
  upSql := sql
  downSql := none
  checksum := computeChecksum sql

/-- The loop over the scanned files: a file that cannot be read ends the start,
a migration that fails is passed over. -/
def World.applyAll (world : World) (input : StartInput) : List Scanned → World × Except String Unit
  | [] => (world, .ok ())
  | scanned :: rest =>
      match scanned.read with
      | .error error => (world, .error error)
      | .ok sql =>
          let applied := world.applyMigrationDb (scanned.migration sql)
            (input.execute scanned.entry) (input.insert scanned.entry) input.now
          applied.1.applyAll input rest

def World.log (world : World) (event : Event) : World :=
  { world with events := world.events ++ [event] }

/-- `start`.  The early returns between the two lock calls do not release. -/
def World.start (world : World) (dir : MigrationDir) (input : StartInput) : World × Except String Unit :=
  let world := world.ensureTable input.ensure
  if world.shim.autoMigrate then
    match input.acquire with
    | .error error => (world, .error error)
    | .ok () =>
        let world := world.log .acquired
        match dir.scan with
        | .error error => (world, .error error)
        | .ok migrations =>
            match world.applyAll input migrations with
            | (world, .error error) => (world, .error error)
            | (world, .ok ()) =>
                match input.release with
                | .ok () => (world.log .released, .ok ())
                | .error _ => (world, .ok ())
  else (world, .ok ())

def World.fresh (dbHost database : String) (autoMigrate : Bool) (contents : Database) : World where
  shim := .new dbHost database autoMigrate
  database := contents
  events := []

end Evergreen.Migration
