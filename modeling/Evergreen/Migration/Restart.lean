import Evergreen.Migration.Shim

namespace Evergreen.Migration

/-! # Starting a second time

`schema_migrations` is written and never read: a fresh shim starts with nothing
applied, whatever the database says, and sends every migration again.
-/

def upStatements : List Event → List String :=
  List.filterMap fun
    | .up sql => some sql
    | _ => none

structure AppliedAll (dir : MigrationDir) (migrations : List Scanned)
    (outcome : World × Except String Unit) : Prop where
  scanned : dir.scan = .ok migrations
  returned : outcome.2 = .ok ()
  applied : outcome.1.shim.migrationsApplied = migrations.length

/-- The start gets nowhere: there is no database, the lock is refused, or the
server cannot be reached for any of the migrations. -/
def Stalled (world : World) (migrations : List Scanned) (input : StartInput) : Prop :=
  world.shim.hasDb = false ∨ (∃ error, input.acquire = .error error) ∨
    ∀ scanned ∈ migrations, ∃ error, input.execute scanned.entry = .unreachable error

@[simp] theorem upStatements_append (events more : List Event) :
    upStatements (events ++ more) = upStatements events ++ upStatements more :=
  List.filterMap_append

variable {world after : World} {dir : MigrationDir} {input : StartInput}
variable {migrations : List Scanned} {scanned : Scanned} {sql : String}

/-! ## One application -/

def Extends (world after : World) : Prop := ∃ more, after.events = world.events ++ more

theorem Extends.refl (world : World) : Extends world world := ⟨[], (List.append_nil _).symm⟩

theorem Extends.trans {middle : World} (first : Extends world middle) (second : Extends middle after) :
    Extends world after := by
  obtain ⟨more, extended⟩ := first
  obtain ⟨rest, again⟩ := second
  exact ⟨more ++ rest, by rw [again, extended, List.append_assoc]⟩

theorem Extends.upStatements (extended : Extends world after)
    (sent : upStatements world.events ≠ []) : upStatements after.events ≠ [] := by
  obtain ⟨more, extended⟩ := extended
  rw [extended, upStatements_append]
  exact fun none => sent (List.append_eq_nil_iff.mp none).1

theorem extends_executeUp (reply : Reply) : Extends world (world.executeUp sql reply).1 := by
  unfold World.executeUp
  split
  · exact ⟨reply.sent (.up sql), rfl⟩
  · exact .refl world

theorem extends_insertRecord (record : MigrationRecord) (reply : Reply) :
    Extends world (world.insertRecord record reply) := by
  unfold World.insertRecord
  split
  · exact ⟨reply.sent (.insert record.row), rfl⟩
  · exact .refl world

theorem extends_applyMigrationDb (migration : Migration) (execute insert : Reply) (now : Int) :
    Extends world (world.applyMigrationDb migration execute insert now).1 := by
  unfold World.applyMigrationDb
  split
  · exact .refl world
  · have executed : Extends world (world.executeUp migration.upSql execute).1 :=
      extends_executeUp execute
    split
    · rename_i refused
      rw [refused] at executed
      exact executed
    · rename_i done
      rw [done] at executed
      exact executed.trans (extends_insertRecord _ insert)

theorem World.applyAll_keeps (input : StartInput) (invariant : World → Prop)
    (kept : ∀ world migration execute insert now, invariant world →
      invariant (world.applyMigrationDb migration execute insert now).1)
    (start : invariant world) : invariant (world.applyAll input migrations).1 := by
  induction migrations generalizing world with
  | nil => exact start
  | cons scanned rest ih =>
      unfold World.applyAll
      split
      · exact start
      · exact ih (kept world _ _ _ _ start)

theorem extends_applyAll (input : StartInput) : Extends world (world.applyAll input migrations).1 := by
  refine World.applyAll_keeps input (Extends world) ?_ (.refl world)
  intro later migration execute insert now extended
  exact extended.trans (extends_applyMigrationDb migration execute insert now)

structure Unapplied (world : World) : Prop where
  records : world.shim.appliedRecords = ∅
  version : world.shim.currentVersion = 0

theorem Unapplied.checkOrder (unapplied : Unapplied world) (migration : Migration) :
    world.shim.checkOrder migration = .ok () := by
  simp [MigrationShim.checkOrder, MigrationShim.verifyChecksum, unapplied.records, unapplied.version]

theorem Unapplied.apply_unreachable (unapplied : Unapplied world) (connected : world.shim.hasDb = true)
    (migration : Migration) (insert : Reply) (now : Int) (error : String) :
    (world.applyMigrationDb migration (.unreachable error) insert now).1 = world := by
  simp [World.applyMigrationDb, unapplied.checkOrder, World.executeUp, connected, Reply.sent, Reply.result]

theorem Unapplied.apply_sends (unapplied : Unapplied world) (connected : world.shim.hasDb = true)
    {execute : Reply} (reached : ¬ ∃ error, execute = .unreachable error) (migration : Migration)
    (insert : Reply) (now : Int) :
    upStatements (world.applyMigrationDb migration execute insert now).1.events ≠ [] := by
  have sent : upStatements (world.executeUp migration.upSql execute).1.events ≠ [] := by
    rw [World.executeUp, if_pos connected, upStatements_append]
    intro none
    have silent := (List.append_eq_nil_iff.mp none).2
    cases execute with
    | unreachable error => exact reached ⟨error, rfl⟩
    | failed error => cases silent
    | done => cases silent
  have executed : Extends (world.executeUp migration.upSql execute).1
      (world.applyMigrationDb migration execute insert now).1 := by
    rw [World.applyMigrationDb, unapplied.checkOrder]
    dsimp only
    split
    · rename_i refused
      rw [refused]
      exact .refl _
    · rename_i done
      rw [done]
      exact extends_insertRecord _ insert
  exact executed.upStatements sent

/-! ## The whole loop -/

theorem applyAll_reads (returned : (world.applyAll input migrations).2 = .ok ()) :
    ∀ scanned ∈ migrations, ∃ sql, scanned.read = .ok sql := by
  induction migrations generalizing world with
  | nil => exact fun _ member => absurd member List.not_mem_nil
  | cons first rest ih =>
      cases content : first.read with
      | error error =>
          rw [World.applyAll, content] at returned
          cases returned
      | ok sql =>
          rw [World.applyAll, content] at returned
          exact List.forall_mem_cons.mpr ⟨⟨sql, content⟩, ih returned⟩

theorem Unapplied.applyAll_iff (unapplied : Unapplied world) (connected : world.shim.hasDb = true)
    (silent : upStatements world.events = [])
    (readable : ∀ scanned ∈ migrations, ∃ sql, scanned.read = .ok sql) :
    upStatements (world.applyAll input migrations).1.events = [] ↔
      ∀ scanned ∈ migrations, ∃ error, input.execute scanned.entry = .unreachable error := by
  induction migrations with
  | nil => exact ⟨fun _ _ member => absurd member List.not_mem_nil, fun _ => silent⟩
  | cons scanned rest ih =>
      obtain ⟨⟨sql, content⟩, readable⟩ := List.forall_mem_cons.mp readable
      rw [World.applyAll, content, List.forall_mem_cons]
      dsimp only
      by_cases reached : ∃ error, input.execute scanned.entry = .unreachable error
      · obtain ⟨error, unreachable⟩ := reached
        rw [unreachable, unapplied.apply_unreachable connected, ih readable]
        exact ⟨fun others => ⟨⟨error, rfl⟩, others⟩, And.right⟩
      · have sends := unapplied.apply_sends connected reached (scanned.migration sql)
          (input.insert scanned.entry) input.now
        exact ⟨fun none => absurd none ((extends_applyAll input).upStatements sends),
          fun all => absurd all.1 reached⟩

theorem apply_disconnected (disconnected : world.shim.hasDb = false) (migration : Migration)
    (execute insert : Reply) (now : Int) :
    (world.applyMigrationDb migration execute insert now).1.events = world.events ∧
      (world.applyMigrationDb migration execute insert now).1.shim.hasDb = false := by
  cases checked : world.shim.checkOrder migration with
  | error error =>
      simp only [World.applyMigrationDb, checked]
      exact ⟨trivial, disconnected⟩
  | ok =>
      simp only [World.applyMigrationDb, checked, World.executeUp, World.insertRecord, disconnected,
        Bool.false_eq_true, if_false]
      exact ⟨trivial, disconnected⟩

theorem applyAll_disconnected (disconnected : world.shim.hasDb = false) :
    (world.applyAll input migrations).1.events = world.events := by
  have kept : (world.applyAll input migrations).1.events = world.events ∧
      (world.applyAll input migrations).1.shim.hasDb = false := by
    refine World.applyAll_keeps input
      (fun later => later.events = world.events ∧ later.shim.hasDb = false) ?_ ⟨rfl, disconnected⟩
    intro later migration execute insert now ⟨events, still⟩
    obtain ⟨silent, without⟩ := apply_disconnected still migration execute insert now
    exact ⟨silent.trans events, without⟩
  exact kept.1

/-! ## The second start -/

theorem upStatements_ensureTable (reply : Reply) :
    upStatements (world.ensureTable reply).events = upStatements world.events := by
  unfold World.ensureTable
  split
  · rw [upStatements_append]
    cases reply <;> exact List.append_nil _
  · rfl

@[simp] theorem shim_ensureTable (reply : Reply) : (world.ensureTable reply).shim = world.shim := by
  unfold World.ensureTable
  split <;> rfl

/-- What is left of a start that holds the lock: the loop, and the release. -/
theorem start_locked (automatic : world.shim.autoMigrate = true) (acquired : input.acquire = .ok ())
    (scanned : dir.scan = .ok migrations) :
    (world.start dir input).2 =
        (((world.ensureTable input.ensure).log .acquired).applyAll input migrations).2 ∧
      upStatements (world.start dir input).1.events = upStatements
        (((world.ensureTable input.ensure).log .acquired).applyAll input migrations).1.events := by
  simp only [World.start, shim_ensureTable, automatic, if_true, acquired, scanned]
  cases ((world.ensureTable input.ensure).log .acquired).applyAll input migrations with
  | mk applied result =>
      cases result with
      | error error => exact ⟨rfl, rfl⟩
      | ok =>
          cases input.release with
          | error error => exact ⟨rfl, rfl⟩
          | ok =>
              refine ⟨rfl, ?_⟩
              change upStatements (applied.events ++ [.released]) = upStatements applied.events
              rw [upStatements_append]
              exact List.append_nil _

theorem start_refused {error : String} (automatic : world.shim.autoMigrate = true)
    (refused : input.acquire = .error error) :
    world.start dir input = (world.ensureTable input.ensure, .error error) := by
  simp only [World.start, shim_ensureTable, automatic, if_true, refused]

theorem start_reads (automatic : world.shim.autoMigrate = true) (scanned : dir.scan = .ok migrations)
    (returned : (world.start dir input).2 = .ok ()) :
    ∀ scanned ∈ migrations, ∃ sql, scanned.read = .ok sql := by
  cases acquired : input.acquire with
  | error error =>
      rw [start_refused automatic acquired] at returned
      cases returned
  | ok =>
      rw [(start_locked automatic acquired scanned).1] at returned
      exact applyAll_reads returned

theorem Unapplied.start_iff (unapplied : Unapplied world) (automatic : world.shim.autoMigrate = true)
    (silent : upStatements world.events = []) (scanned : dir.scan = .ok migrations)
    (readable : ∀ scanned ∈ migrations, ∃ sql, scanned.read = .ok sql) :
    upStatements (world.start dir input).1.events = [] ↔ Stalled world migrations input := by
  have ensured : upStatements ((world.ensureTable input.ensure).log .acquired).events = [] := by
    rw [World.log, upStatements_append, upStatements_ensureTable, silent]
    rfl
  have still : Unapplied ((world.ensureTable input.ensure).log .acquired) := by
    constructor
    · rw [World.log, shim_ensureTable]
      exact unapplied.records
    · rw [World.log, shim_ensureTable]
      exact unapplied.version
  have same : ((world.ensureTable input.ensure).log .acquired).shim.hasDb = world.shim.hasDb := by
    rw [World.log, shim_ensureTable]
  cases acquired : input.acquire with
  | error error =>
      rw [start_refused automatic acquired, upStatements_ensureTable, silent]
      exact ⟨fun _ => .inr (.inl ⟨error, acquired⟩), fun _ => rfl⟩
  | ok =>
      rw [(start_locked automatic acquired scanned).2]
      cases connected : world.shim.hasDb with
      | false =>
          rw [applyAll_disconnected (same.trans connected), ensured]
          exact ⟨fun _ => .inl connected, fun _ => rfl⟩
      | true =>
          rw [still.applyAll_iff (same.trans connected) ensured readable]
          constructor
          · exact fun unreachable => .inr (.inr unreachable)
          · rintro (disconnected | ⟨error, refused⟩ | unreachable)
            · rw [connected] at disconnected
              cases disconnected
            · rw [acquired] at refused
              cases refused
            · exact unreachable

/-- After a start that applied everything, a fresh shim on the same directory and
the database it left sends no migration again if and only if it has no database,
is refused the lock, or never reaches the server. -/
theorem restart_sendsNone_iff (dbHost database : String) (contents : Database) (dir : MigrationDir)
    (migrations : List Scanned) (first second : StartInput)
    (appliedAll : AppliedAll dir migrations
      ((World.fresh dbHost database true contents).start dir first)) :
    upStatements ((World.fresh dbHost database true
        ((World.fresh dbHost database true contents).start dir first).1.database).start dir
          second).1.events = [] ↔
      Stalled (.fresh dbHost database true contents) migrations second := by
  have readable : ∀ scanned ∈ migrations, ∃ sql, scanned.read = .ok sql :=
    start_reads rfl appliedAll.scanned appliedAll.returned
  exact Unapplied.start_iff ⟨rfl, rfl⟩ rfl rfl appliedAll.scanned readable

def oneMigration : MigrationDir where
  present := true
  entries := .ok [⟨"1_users.up.sql", .ok "CREATE TABLE users (id INTEGER)"⟩]

def smoothStart : StartInput where
  ensure := .done
  acquire := .ok ()
  release := .ok ()
  execute := fun _ => .done
  insert := fun _ => .done
  now := 0

theorem scan_oneMigration : oneMigration.scan =
    .ok [⟨1, "users", ⟨"1_users.up.sql", .ok "CREATE TABLE users (id INTEGER)"⟩⟩] := by
  rfl

theorem appliedAll_oneMigration : AppliedAll oneMigration
    [⟨1, "users", ⟨"1_users.up.sql", .ok "CREATE TABLE users (id INTEGER)"⟩⟩]
    ((World.fresh "127.0.0.1" "app" true ⟨[], []⟩).start oneMigration smoothStart) :=
  ⟨scan_oneMigration, rfl, rfl⟩

theorem restart_sendsNone_refused :
    upStatements ((World.fresh "127.0.0.1" "app" true
        ((World.fresh "127.0.0.1" "app" true ⟨[], []⟩).start oneMigration smoothStart).1.database).start
          oneMigration { smoothStart with acquire := .error "held" }).1.events = [] :=
  (restart_sendsNone_iff _ _ _ _ _ _ _ appliedAll_oneMigration).mpr (.inr (.inl ⟨"held", rfl⟩))

/-- A second start that works sends `CREATE TABLE users` again. -/
theorem restart_sendsAgain :
    AppliedAll oneMigration [⟨1, "users", ⟨"1_users.up.sql", .ok "CREATE TABLE users (id INTEGER)"⟩⟩]
        ((World.fresh "127.0.0.1" "app" true ⟨[], []⟩).start oneMigration smoothStart) ∧
      upStatements ((World.fresh "127.0.0.1" "app" true
        ((World.fresh "127.0.0.1" "app" true ⟨[], []⟩).start oneMigration smoothStart).1.database).start
          oneMigration smoothStart).1.events ≠ [] := by
  refine ⟨⟨scan_oneMigration, rfl, rfl⟩, ?_⟩
  exact nofun

end Evergreen.Migration
