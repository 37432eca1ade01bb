import Evergreen.Migration.Restart

set_option linter.dupNamespace false

namespace Evergreen.Migration

/-! # The lock after a start

`start` creates the lock file and removes it in `release_lock`, which each of
the early returns in between passes over.
-/

/-- How `release_lock` meets the file: what `exists` answers and, where that is
`true`, what `remove_file` does. -/
structure Removal where
  seen : Bool
  remove : Except String Unit

def Removal.releaseLock (removal : Removal) : Except String Unit :=
  if removal.seen then
    match removal.remove with
    | .ok () => .ok ()
    | .error error => .error s!"Failed to remove lock file: {error}"
  else .ok ()

/-- Whether this process's lock file is there after an event.  A release that
did not see the file returns `Ok` and leaves it. -/
def Removal.lockFile (removal : Removal) (present : Bool) : Event → Bool
  | .acquired => true
  | .released => present && !removal.seen
  | _ => present

def World.lockFile (world : World) (removal : Removal) : Bool :=
  world.events.foldl removal.lockFile false

def Removal.Succeeds (removal : Removal) : Prop :=
  removal.seen = true ∧ removal.remove = .ok ()

/-- A start that acquires the lock leaves no lock file. -/
def World.Releases (world : World) (dir : MigrationDir) (input : StartInput) (removal : Removal) :
    Prop :=
  world.shim.autoMigrate = true → input.acquire = .ok () →
    (world.start dir { input with release := removal.releaseLock }).1.lockFile removal = false

/-- Every listed migration can be read. -/
def MigrationDir.Readable (dir : MigrationDir) : Prop :=
  ∃ migrations, dir.scan = .ok migrations ∧ ∀ scanned ∈ migrations, ∃ sql, scanned.read = .ok sql

variable {world after : World} {dir : MigrationDir} {input : StartInput} {removal : Removal}
variable {migrations : List Scanned}

/-! ## Between the two lock calls -/

theorem Removal.lockFile_sent (removal : Removal) (reply : Reply) {event : Event} {present : Bool}
    (neutral : removal.lockFile present event = present) :
    (reply.sent event).foldl removal.lockFile present = present := by
  cases reply with
  | unreachable error => rfl
  | failed error => exact neutral
  | done => exact neutral

theorem lockFile_executeUp (sql : String) (reply : Reply) :
    (world.executeUp sql reply).1.lockFile removal = world.lockFile removal := by
  unfold World.executeUp
  split
  · exact (List.foldl_append ..).trans (removal.lockFile_sent reply rfl)
  · rfl

theorem lockFile_insertRecord (record : MigrationRecord) (reply : Reply) :
    (world.insertRecord record reply).lockFile removal = world.lockFile removal := by
  unfold World.insertRecord
  split
  · exact (List.foldl_append ..).trans (removal.lockFile_sent reply rfl)
  · rfl

theorem lockFile_applyMigrationDb (migration : Migration) (execute insert : Reply) (now : Int) :
    (world.applyMigrationDb migration execute insert now).1.lockFile removal =
      world.lockFile removal := by
  have executed := @lockFile_executeUp world removal migration.upSql execute
  unfold World.applyMigrationDb
  split
  · rfl
  · split
    · rename_i refused
      rwa [refused] at executed
    · rename_i done
      rw [done] at executed
      exact (lockFile_insertRecord _ insert).trans executed

theorem lockFile_applyAll :
    (world.applyAll input migrations).1.lockFile removal = world.lockFile removal := by
  refine World.applyAll_keeps input
    (fun later => later.lockFile removal = world.lockFile removal) ?_ rfl
  intro later migration execute insert now same
  exact (lockFile_applyMigrationDb migration execute insert now).trans same

theorem applyAll_result : (world.applyAll input migrations).2 = .ok () ↔
    ∀ scanned ∈ migrations, ∃ sql, scanned.read = .ok sql := by
  refine ⟨applyAll_reads, fun readable => ?_⟩
  induction migrations generalizing world with
  | nil => rfl
  | cons scanned rest ih =>
      obtain ⟨⟨sql, content⟩, readable⟩ := List.forall_mem_cons.mp readable
      rw [World.applyAll, content]
      exact ih readable

/-! ## The exits -/

theorem lockFile_log_acquired : (world.log .acquired).lockFile removal = true :=
  List.foldl_append ..

theorem lockFile_log_released :
    (world.log .released).lockFile removal = (world.lockFile removal && !removal.seen) :=
  List.foldl_append ..

theorem start_keeps_lock (automatic : world.shim.autoMigrate = true)
    (acquired : input.acquire = .ok ()) (unreadable : ¬ dir.Readable) :
    (world.start dir input).1.lockFile removal = true := by
  simp only [World.start, shim_ensureTable, automatic, if_true, acquired]
  cases scanned : dir.scan with
  | error error => exact lockFile_log_acquired
  | ok migrations =>
      have held := (@lockFile_applyAll ((world.ensureTable input.ensure).log .acquired) input removal
        migrations).trans lockFile_log_acquired
      cases applied : ((world.ensureTable input.ensure).log .acquired).applyAll input migrations with
      | mk after result =>
          rw [applied] at held
          cases result with
          | error error =>
              dsimp only
              rw [applied]
              exact held
          | ok =>
              have returned := congrArg Prod.snd applied
              exact absurd ⟨migrations, scanned, applyAll_result.mp returned⟩ unreadable

theorem start_releases (automatic : world.shim.autoMigrate = true)
    (acquired : input.acquire = .ok ()) (released : input.release = removal.releaseLock)
    (readable : dir.Readable) :
    (world.start dir input).1.lockFile removal = false ↔ removal.Succeeds := by
  obtain ⟨migrations, scanned, readable⟩ := readable
  have held := (@lockFile_applyAll ((world.ensureTable input.ensure).log .acquired) input removal
    migrations).trans lockFile_log_acquired
  have returned := (@applyAll_result ((world.ensureTable input.ensure).log .acquired) input
    migrations).mpr readable
  simp only [World.start, shim_ensureTable, automatic, if_true, acquired, scanned]
  cases applied : ((world.ensureTable input.ensure).log .acquired).applyAll input migrations with
  | mk after result =>
      rw [applied] at held returned
      cases returned
      simp only [released, Removal.releaseLock, Removal.Succeeds]
      rcases removal with ⟨_ | _, _ | _⟩
      · simp [lockFile_log_released, held]
      · simp [lockFile_log_released, held]
      · simp [held]
      · simp [lockFile_log_released, held]

/-- A start that acquires the lock leaves no lock file if and only if the
directory can be listed, every migration in it can be read, and the file can be
removed. -/
theorem start_releases_iff (world : World) (dir : MigrationDir) (input : StartInput)
    (removal : Removal) :
    world.Releases dir input removal ↔ (world.shim.autoMigrate = true → input.acquire = .ok () →
      dir.Readable ∧ removal.Succeeds) := by
  refine forall₂_congr fun automatic acquired => ?_
  by_cases readable : dir.Readable
  · exact (@start_releases world dir { input with release := removal.releaseLock } removal
      automatic acquired rfl readable).trans (and_iff_right readable).symm
  · refine iff_of_false ?_ fun holds => readable holds.1
    rw [@start_keeps_lock world dir { input with release := removal.releaseLock } removal automatic
      acquired readable]
    exact Bool.noConfusion

/-- One migration that is not UTF-8 keeps the directory locked. -/
theorem start_leaves_lock :
    ¬ (World.fresh "" "" true ⟨[], []⟩).Releases
      ⟨true, .ok [⟨"1_users.up.sql", .error "stream did not contain valid UTF-8"⟩]⟩ smoothStart
      ⟨true, .ok ()⟩ := by
  intro releases
  exact Bool.noConfusion (releases rfl rfl)

end Evergreen.Migration
