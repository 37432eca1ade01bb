import Evergreen.Migration.Order
import Evergreen.Migration.Restart
import Evergreen.Migration.Versions

set_option linter.dupNamespace false

namespace Evergreen.Migration

/-! # A failure in the middle of a start

The loop of `start` passes over a migration that fails, so what comes after it
is up to the check of the order.  A start is related to the files it could read
and to the versions recorded before it.
-/

/-- The migrations the loop tries, each with whether it was applied. -/
def World.attempts (world : World) (input : StartInput) : List Scanned → List Outcome
  | [] => []
  | scanned :: rest =>
      match scanned.read with
      | .error _ => []
      | .ok sql =>
          let applied := world.applyMigrationDb (scanned.migration sql)
            (input.execute scanned.entry) (input.insert scanned.entry) input.now
          (scanned.version, applied.2.isOk) :: applied.1.attempts input rest

/-- The attempts of one `start`. -/
def World.startAttempts (world : World) (dir : MigrationDir) (input : StartInput) : List Outcome :=
  if world.shim.autoMigrate then
    match input.acquire, dir.scan with
    | .ok (), .ok migrations =>
        ((world.ensureTable input.ensure).log .acquired).attempts input migrations
    | _, _ => []
  else []

/-- Without a database nothing is executed, and nothing fails. -/
def World.works (world : World) (execute : Reply) : Bool :=
  !world.shim.hasDb || execute = .done

/-- The files up to the first that cannot be read. -/
def World.files (world : World) (input : StartInput) : List Scanned → List File
  | [] => []
  | scanned :: rest =>
      match scanned.read with
      | .error _ => []
      | .ok _ =>
          ⟨scanned.version, world.works (input.execute scanned.entry)⟩ :: world.files input rest

def MigrationShim.progress (shim : MigrationShim) : Progress where
  current := shim.currentVersion
  recorded version := shim.appliedRecords.contains version

/-- Nothing gets past the first migration that fails. -/
def StopsAtFailure (world : World) (dir : MigrationDir) (input : StartInput) : Prop :=
  world.shim.autoMigrate = true → input.acquire = .ok () → ∀ migrations,
    dir.scan = .ok migrations → world.shim.progress.Stops (world.files input migrations)

variable {world after : World} {dir : MigrationDir} {input : StartInput}
variable {migrations : List Scanned} {scanned : Scanned} {migration : Migration}
variable {execute insert : Reply} {now : Int}

/-! ## One application -/

theorem progress_record : (world.shim.record migration now).progress =
    world.shim.progress.record migration.version := by
  unfold MigrationShim.progress Progress.record MigrationShim.record
  congr 1
  funext version
  by_cases same : version = migration.version
  · simp [same]
  · have differs : ¬ migration.version = version := fun equal => same equal.symm
    simp [same, differs]

theorem progress_accepts : world.shim.progress.accepts migration.version = true ↔
    world.shim.checkOrder migration = .ok () := by
  rw [checkOrder_eq_ok, Progress.accepts, Bool.and_eq_true, Bool.or_eq_true, decide_eq_true_iff,
    decide_eq_true_iff, Bool.not_eq_true', ← Bool.not_eq_true]
  rfl

theorem applyMigrationDb_outcome (world : World) (migration : Migration) (execute insert : Reply)
    (now : Int) :
    (world.applyMigrationDb migration execute insert now).2.isOk =
        (world.shim.progress.accepts migration.version && world.works execute) ∧
      (world.applyMigrationDb migration execute insert now).1.shim =
        if world.shim.progress.accepts migration.version && world.works execute then
          world.shim.record migration now else world.shim := by
  unfold World.applyMigrationDb
  cases checked : world.shim.checkOrder migration with
  | error error =>
      have refused : world.shim.progress.accepts migration.version = false := by
        rw [← Bool.not_eq_true, progress_accepts, checked]
        exact nofun
      simp [refused, Except.isOk, Except.toBool]
  | ok =>
      have accepted := progress_accepts.mpr checked
      cases connected : world.shim.hasDb with
      | false =>
          simp [World.executeUp, World.insertRecord, connected, accepted, World.works, Except.isOk,
            Except.toBool]
      | true =>
          cases execute <;>
            simp [World.executeUp, World.insertRecord, connected, accepted, World.works, Reply.result,
              Except.isOk, Except.toBool]

theorem hasDb_applyMigrationDb (world : World) (migration : Migration) (execute insert : Reply)
    (now : Int) :
    (world.applyMigrationDb migration execute insert now).1.shim.hasDb = world.shim.hasDb := by
  rw [(applyMigrationDb_outcome world migration execute insert now).2]
  split <;> rfl

/-! ## The whole loop -/

theorem files_of_hasDb (same : after.shim.hasDb = world.shim.hasDb) :
    after.files input migrations = world.files input migrations := by
  induction migrations with
  | nil => rfl
  | cons scanned rest ih =>
      cases content : scanned.read with
      | error error => simp only [World.files, content]
      | ok sql => simp only [World.files, World.works, content, same, ih]

/-- The loop does what the versions and the statements decide. -/
theorem attempts_eq : world.attempts input migrations =
    world.shim.progress.outcomes (world.files input migrations) := by
  induction migrations generalizing world with
  | nil => rfl
  | cons scanned rest ih =>
      cases content : scanned.read with
      | error error => simp only [World.attempts, World.files, content, Progress.outcomes]
      | ok sql =>
          have outcome := applyMigrationDb_outcome world (scanned.migration sql)
            (input.execute scanned.entry) (input.insert scanned.entry) input.now
          have connected := hasDb_applyMigrationDb world (scanned.migration sql)
            (input.execute scanned.entry) (input.insert scanned.entry) input.now
          obtain ⟨result, shim⟩ := outcome
          simp only [World.attempts, World.files, content, Progress.outcomes, result, ih,
            files_of_hasDb connected, shim]
          have own : (scanned.migration sql).version = scanned.version := rfl
          rw [own]
          split
          · rename_i taken
            rw [progress_record, taken]
            rfl
          · rename_i missed
            rw [Bool.eq_false_iff.mpr missed]

theorem mem_appliedRecords_applyAll {version : Nat} :
    version ∈ (world.applyAll input migrations).1.shim.appliedRecords ↔
      version ∈ world.shim.appliedRecords ∨ (version, true) ∈ world.attempts input migrations := by
  induction migrations generalizing world with
  | nil => simp [World.applyAll, World.attempts]
  | cons scanned rest ih =>
      cases content : scanned.read with
      | error error => simp [World.applyAll, World.attempts, content]
      | ok sql =>
          obtain ⟨result, shim⟩ := applyMigrationDb_outcome world (scanned.migration sql)
            (input.execute scanned.entry) (input.insert scanned.entry) input.now
          simp only [World.applyAll, World.attempts, content, ih, shim, result, List.mem_cons,
            Prod.mk.injEq]
          cases taken : world.shim.progress.accepts (scanned.migration sql).version &&
              world.works (input.execute scanned.entry) with
          | true =>
              have own : (scanned.migration sql).version = scanned.version := rfl
              simp only [if_true, mem_record, own, and_true]
              rw [eq_comm]
              tauto
          | false => simp

/-! ## The start -/

theorem mem_files {file : File} (member : file ∈ world.files input migrations) :
    ∃ scanned ∈ migrations, scanned.version = file.version := by
  induction migrations with
  | nil => cases member
  | cons scanned rest ih =>
      cases content : scanned.read with
      | error error => simp [World.files, content] at member
      | ok sql =>
          simp only [World.files, content, List.mem_cons] at member
          rcases member with rfl | later
          · exact ⟨scanned, List.mem_cons_self, rfl⟩
          · obtain ⟨other, held, same⟩ := ih later
            exact ⟨other, List.mem_cons_of_mem _ held, same⟩

theorem files_sorted (sorted : migrations.Pairwise (·.version ≤ ·.version)) :
    (world.files input migrations).Pairwise (·.version ≤ ·.version) := by
  induction migrations with
  | nil => exact .nil
  | cons scanned rest ih =>
      obtain ⟨after, sorted⟩ := List.pairwise_cons.mp sorted
      cases content : scanned.read with
      | error error => simp [World.files, content]
      | ok sql =>
          simp only [World.files, content]
          refine List.pairwise_cons.mpr ⟨fun file member => ?_, ih sorted⟩
          obtain ⟨other, held, same⟩ := mem_files member
          rw [← same]
          exact after other held

theorem scan_sorted (scanned : dir.scan = .ok migrations) :
    migrations.Pairwise (·.version ≤ ·.version) := by
  have total : Std.Total fun first second : Scanned => first.version ≤ second.version :=
    ⟨fun first second => Nat.le_total first.version second.version⟩
  have transitive : IsTrans Scanned fun first second => first.version ≤ second.version :=
    ⟨fun _ _ _ => Nat.le_trans⟩
  unfold MigrationDir.scan at scanned
  split at scanned
  · cases listed : dir.entries with
    | error error => simp [listed, Except.map] at scanned
    | ok entries =>
        simp only [listed, Except.map, Except.ok.injEq] at scanned
        rw [← scanned]
        exact List.pairwise_insertionSort _ _
  · obtain rfl := Except.ok.inj scanned
    exact .nil

theorem mem_appliedRecords_start {version : Nat} :
    version ∈ (world.start dir input).1.shim.appliedRecords ↔
      version ∈ world.shim.appliedRecords ∨ (version, true) ∈ world.startAttempts dir input := by
  unfold World.start World.startAttempts
  simp only [shim_ensureTable]
  cases automatic : world.shim.autoMigrate with
  | false => simp
  | true =>
      cases acquired : input.acquire with
      | error error => simp
      | ok =>
          cases scanned : dir.scan with
          | error error => simp [World.log]
          | ok migrations =>
              have same : ((world.ensureTable input.ensure).log .acquired).shim = world.shim :=
                shim_ensureTable input.ensure
              have looped : version ∈ (((world.ensureTable input.ensure).log .acquired).applyAll
                  input migrations).1.shim.appliedRecords ↔ _ := mem_appliedRecords_applyAll
              rw [same] at looped
              simp only [if_true, ← looped]
              cases ((world.ensureTable input.ensure).log .acquired).applyAll input migrations with
              | mk applied result =>
                  cases result with
                  | error error => rfl
                  | ok => cases input.release <;> rfl

/-- In every start, no migration above a failed one is applied if and only if
every higher version that would work is blocked from the first failure on. -/
theorem startAttempts_appliedPrefix_iff (world : World) (dir : MigrationDir) (input : StartInput) :
    AppliedPrefix (world.startAttempts dir input) ↔ StopsAtFailure world dir input := by
  have nothing : AppliedPrefix [] := fun _ _ missed => nomatch missed
  unfold World.startAttempts StopsAtFailure
  cases automatic : world.shim.autoMigrate with
  | false => simp [nothing]
  | true =>
      cases acquired : input.acquire with
      | error error => simp [nothing]
      | ok =>
          cases scanned : dir.scan with
          | error error => simp [nothing]
          | ok migrations =>
              have same : ((world.ensureTable input.ensure).log .acquired).shim = world.shim :=
                shim_ensureTable input.ensure
              simp only [if_true, attempts_eq, files_of_hasDb (congrArg MigrationShim.hasDb same),
                same, appliedPrefix_outcomes_iff (files_sorted (scan_sorted scanned)),
                Except.ok.injEq, forall_eq', true_implies]

/-! ## Two migrations -/

def twoMigrations : MigrationDir where
  present := true
  entries := .ok [⟨"1_users.up.sql", .ok "CREATE TABLE users (id INTEGER"⟩,
    ⟨"2_posts.up.sql", .ok "CREATE TABLE posts (id INTEGER)"⟩]

def firstFails : StartInput :=
  { smoothStart with
    execute := fun entry =>
      if entry.name = "1_users.up.sql" then .failed "syntax error" else .done }

/-- The first migration fails and the second one is applied. -/
theorem startAttempts_skipsFailed : ¬ AppliedPrefix
    ((World.fresh "127.0.0.1" "app" true ⟨[], []⟩).startAttempts twoMigrations firstFails) := by
  intro ordered
  have small := ordered 1 2 (by decide) (by decide)
  omega

end Evergreen.Migration
