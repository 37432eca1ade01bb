import Evergreen.Migration.DryRun
import Evergreen.Migration.Prefix
import Evergreen.Text.Parse

set_option linter.dupNamespace false

namespace Evergreen.Migration

/-! # Rolling back

A rollback forgets the current version and goes back to the greatest one that is
left.  Version 0 is the one it refuses to forget.
-/

/-! ## With a database -/

/-- `execute_sql`, as the rollback calls it. -/
def World.executeDown (world : World) (sql : String) (reply : Reply) : World × Except String Unit :=
  if world.shim.hasDb then
    ({ world with
        database := if reply = .done then
            { world.database with executed := world.database.executed ++ [sql] }
          else world.database },
      reply.result)
  else (world, .ok ())

/-- `delete_migration_record`; its caller only logs a failure. -/
def World.deleteRecord (world : World) (version : Nat) (reply : Reply) : World :=
  if world.shim.hasDb ∧ reply = .done then
    { world with
      database := { world.database with
        tracking := world.database.tracking.filter fun row => row.version ≠ asI32 version } }
  else world

/-- `rollback_last_db`, with the answers of its two database calls.  What it does
in memory is `rollback_last`. -/
def World.rollbackLastDb (world : World) (downSql : Option String) (execute delete : Reply) :
    World × Except MigrationError MigrationRecord :=
  if world.shim.currentVersion = 0 then (world, .error (.missingDownMigration 0))
  else
    let version := world.shim.currentVersion
    let (world, executed) := match downSql with
      | some sql => if world.shim.hasDb then world.executeDown sql execute else (world, .ok ())
      | none => (world, .ok ())
    match executed with
    | .error _ => (world, .error (.missingDownMigration version))
    | .ok () =>
        let world := world.deleteRecord version delete
        let (shim, record) := world.shim.rollbackLast
        ({ world with shim }, record)

/-- What the result promises. -/
def World.RollsBack (before : World) (downSql : Option String) :
    World × Except MigrationError MigrationRecord → Prop
  | (after, .ok _) =>
      (∃ sql, downSql = some sql ∧
        after.database.executed = before.database.executed ++ [sql]) ∧
      after.database.tracking = before.database.tracking.filter
        fun row => row.version ≠ asI32 before.shim.currentVersion
  | (after, .error _) =>
      after.database.tracking = before.database.tracking ∧
        after.shim.appliedRecords = before.shim.appliedRecords

def World.Untracked (world : World) : Prop :=
  ∀ row ∈ world.database.tracking, row.version ≠ asI32 world.shim.currentVersion

variable {world : World} {downSql : Option String} {execute delete : Reply}

theorem rollbackLastDb_failed (serving : world.shim.currentVersion ≠ 0)
    (connected : world.shim.hasDb = true) (given : downSql.isSome) (failed : execute ≠ .done) :
    world.rollbackLastDb downSql execute delete =
      (world, .error (.missingDownMigration world.shim.currentVersion)) := by
  obtain ⟨sql, rfl⟩ := Option.isSome_iff_exists.mp given
  cases execute with
  | done => exact absurd rfl failed
  | unreachable error =>
      simp [World.rollbackLastDb, serving, connected, World.executeDown, Reply.result]
  | failed error =>
      simp [World.rollbackLastDb, serving, connected, World.executeDown, Reply.result]

/-- Past the script, the answer of the second call no longer matters to the result. -/
theorem rollbackLastDb_ran (serving : world.shim.currentVersion ≠ 0)
    (connected : world.shim.hasDb = true) (ran : downSql.isSome → execute = .done) :
    world.rollbackLastDb downSql execute delete =
      ({ world with
          shim := world.shim.rollbackLast.1
          database := ⟨world.database.executed ++ downSql.toList,
            if delete = .done then world.database.tracking.filter
                fun row => row.version ≠ asI32 world.shim.currentVersion
              else world.database.tracking⟩ },
        world.shim.rollbackLast.2) := by
  cases downSql with
  | none =>
      simp only [World.rollbackLastDb, if_neg serving, World.deleteRecord, connected, true_and]
      by_cases done : delete = .done
      · simp [done]
      · simp [done]
  | some sql =>
      obtain rfl := ran rfl
      simp only [World.rollbackLastDb, if_neg serving, World.executeDown, World.deleteRecord,
        connected, if_true, true_and, Reply.result]
      by_cases done : delete = .done
      · simp [done]
      · simp [done]

theorem untracked_iff : world.Untracked ↔ world.database.tracking.filter
    (fun row => row.version ≠ asI32 world.shim.currentVersion) = world.database.tracking := by
  simp [World.Untracked, List.filter_eq_self]

/-- A rollback keeps its word unless it goes through without a script, or the
outcome in memory and that of the deletion differ. -/
theorem rollbackLastDb_rollsBack_iff (world : World) (downSql : Option String)
    (execute delete : Reply) (connected : world.shim.hasDb = true) :
    world.RollsBack downSql (world.rollbackLastDb downSql execute delete) ↔
      world.shim.currentVersion = 0 ∨ (downSql.isSome ∧ execute ≠ .done) ∨
        (world.shim.currentVersion ∈ world.shim.appliedRecords ∧ downSql.isSome ∧
          (delete = .done ∨ world.Untracked)) ∨
        (world.shim.currentVersion ∉ world.shim.appliedRecords ∧
          (delete ≠ .done ∨ world.Untracked)) := by
  by_cases serving : world.shim.currentVersion = 0
  · refine iff_of_true ?_ (.inl serving)
    have refused : world.rollbackLastDb downSql execute delete =
        (world, .error (.missingDownMigration 0)) := if_pos serving
    rw [refused]
    exact ⟨rfl, rfl⟩
  by_cases failed : downSql.isSome ∧ execute ≠ .done
  · refine iff_of_true ?_ (.inr (.inl failed))
    rw [rollbackLastDb_failed serving connected failed.1 failed.2]
    exact ⟨rfl, rfl⟩
  have ran : downSql.isSome → execute = .done := fun given => by
    by_contra other
    exact failed ⟨given, other⟩
  rw [rollbackLastDb_ran serving connected ran, MigrationShim.rollbackLast, if_neg serving]
  simp only [serving, failed, false_or]
  cases found : world.shim.appliedRecords[world.shim.currentVersion]? with
  | none =>
      have absent : world.shim.currentVersion ∉ world.shim.appliedRecords := by
        simp [Std.ExtTreeMap.mem_iff_isSome_getElem?, found]
      simp only [absent, false_and, not_false_iff, true_and, false_or, World.RollsBack, and_true]
      by_cases done : delete = .done
      · simp only [done, if_true, ne_eq, not_true, false_or]
        exact untracked_iff.symm
      · exact iff_of_true (if_neg done) (.inl done)
  | some record =>
      have present : world.shim.currentVersion ∈ world.shim.appliedRecords :=
        Std.ExtTreeMap.mem_iff_isSome_getElem?.mpr (by simp [found])
      have script : (∃ sql, downSql = some sql ∧
          world.database.executed ++ downSql.toList = world.database.executed ++ [sql]) ↔
            downSql.isSome := by
        cases downSql <;> simp
      simp only [present, not_true, false_and, true_and, or_false, World.RollsBack]
      apply and_congr script
      by_cases done : delete = .done
      · exact iff_of_true (if_pos done) (.inl done)
      · simp only [done, if_false, false_or]
        exact eq_comm.trans untracked_iff.symm

def tracked : World where
  shim := (MigrationShim.new "db" "app" true).record (numbered 3) 0
  database := ⟨["SELECT 1"], [⟨3, "m", "", 0⟩]⟩
  events := []

theorem rollbackLastDb_rollsBack_iff_tracked :
    tracked.shim.hasDb = true ∧
      (tracked.RollsBack (some "DROP") (tracked.rollbackLastDb (some "DROP") .done .done) ↔
        tracked.shim.currentVersion = 0 ∨ ((some "DROP").isSome ∧ Reply.done ≠ .done) ∨
          (tracked.shim.currentVersion ∈ tracked.shim.appliedRecords ∧ (some "DROP").isSome ∧
            (Reply.done = .done ∨ tracked.Untracked)) ∨
          (tracked.shim.currentVersion ∉ tracked.shim.appliedRecords ∧
            (Reply.done ≠ .done ∨ tracked.Untracked))) :=
  ⟨rfl, rollbackLastDb_rollsBack_iff tracked (some "DROP") .done .done rfl⟩

/-- The row stays behind when its deletion is refused, and the result is `Ok`. -/
theorem rollbackLastDb_leaves_row :
    ¬ ∀ (downSql : Option String) (execute delete : Reply),
      tracked.RollsBack downSql (tracked.rollbackLastDb downSql execute delete) := by
  intro rollsBack
  have ⟨_, deleted⟩ := rollsBack (some "DROP") .done (.failed "permission denied")
  exact absurd deleted (by decide)

/-! ## Undoing an application -/

/-- What an application is expected to leave to a rollback that follows it. -/
structure Undone (before after : MigrationShim) (migration : Migration) (now : Int) : Prop where
  record : after.rollbackLast.2 =
    .ok ⟨migration.version, migration.name, now, migration.checksum⟩
  records : after.rollbackLast.1.appliedRecords = before.appliedRecords
  version : after.rollbackLast.1.currentVersion = before.currentVersion

/-- The calls on a shim.  A version is a `u32`. -/
inductive Operation where
  | apply (migration : Migration) (fits : migration.version < 2 ^ 32) (now : Int)
  | applyDb (migration : Migration) (fits : migration.version < 2 ^ 32) (execute insert : Reply)
      (now : Int)
  | rollback
  | rollbackDb (downSql : Option String) (execute delete : Reply)

def World.operate (world : World) : Operation → World
  | .apply migration _ now => { world with shim := (world.shim.applyMigration migration now).1 }
  | .applyDb migration _ execute insert now =>
      (world.applyMigrationDb migration execute insert now).1
  | .rollback => { world with shim := world.shim.rollbackLast.1 }
  | .rollbackDb downSql execute delete => (world.rollbackLastDb downSql execute delete).1

def operations : Machine World Operation := .ofFunction World.operate

/-- A migration that is accepted is undone by a rollback right after it. -/
def UndoesApply (world : World) : Operation → Prop
  | .apply migration _ now =>
      (world.shim.applyMigration migration now).2 = .ok () →
        Undone world.shim (world.shim.applyMigration migration now).1 migration now
  | .applyDb migration _ execute insert now =>
      (world.applyMigrationDb migration execute insert now).2 = .ok () →
        Undone world.shim (world.applyMigrationDb migration execute insert now).1.shim migration now
  | .rollback => True
  | .rollbackDb .. => True

/-- No migration of version 0 is due when it is applied, or its statement fails. -/
def SkipsZero (world : World) : Operation → Prop
  | .apply migration _ _ => world.shim.Due migration → migration.version ≠ 0
  | .applyDb migration _ execute _ _ =>
      world.shim.Due migration → world.works execute = true → migration.version ≠ 0
  | .rollback => True
  | .rollbackDb .. => True

/-- The current version is the greatest recorded one, and 0 is none. -/
structure Topped (shim : MigrationShim) : Prop where
  top : shim.appliedRecords.maxKey?.getD 0 = shim.currentVersion
  zero : 0 ∉ shim.appliedRecords
  bounded : shim.currentVersion < 2 ^ 32

variable {shim : MigrationShim} {migration : Migration} {now : Int} {operation : Operation}

/-! ## A record and its rollback -/

/-- Whatever was recorded before, a record is found again unless its version is 0. -/
theorem rollbackLast_record (now : Int) (fresh : migration.version ∉ shim.appliedRecords)
    (numbered : migration.version ≠ 0) :
    (shim.record migration now).rollbackLast.2 =
        .ok ⟨migration.version, migration.name, now, migration.checksum⟩ ∧
      (shim.record migration now).rollbackLast.1.appliedRecords = shim.appliedRecords ∧
      (shim.record migration now).rollbackLast.1.currentVersion =
        shim.appliedRecords.maxKey?.getD 0 := by
  have erased : (shim.record migration now).appliedRecords.erase migration.version =
      shim.appliedRecords := by
    apply Std.ExtTreeMap.ext_getElem?
    intro version
    by_cases same : migration.version = version
    · subst same
      simp [MigrationShim.record, Std.ExtTreeMap.getElem?_eq_none fresh]
    · simp [MigrationShim.record, Std.ExtTreeMap.getElem?_erase, Std.ExtTreeMap.getElem?_insert, same]
  have current : (shim.record migration now).currentVersion = migration.version := rfl
  have found : (shim.record migration now).appliedRecords[migration.version]? =
      some ⟨migration.version, migration.name, now, migration.checksum⟩ := by
    simp [MigrationShim.record]
  simp only [MigrationShim.rollbackLast, current, if_neg numbered, found, erased]
  exact ⟨trivial, trivial, trivial⟩

theorem Topped.undone_iff (topped : Topped shim) (fresh : migration.version ∉ shim.appliedRecords) :
    Undone shim (shim.record migration now) migration now ↔ migration.version ≠ 0 := by
  constructor
  · intro undone zero
    have refused := undone.record
    have current : (shim.record migration now).currentVersion = 0 := zero
    rw [MigrationShim.rollbackLast, if_pos current] at refused
    cases refused
  · intro numbered
    obtain ⟨record, records, version⟩ := rollbackLast_record now fresh numbered
    exact ⟨record, records, version.trans topped.top⟩

theorem Topped.le_current (topped : Topped shim) {version : Nat}
    (recorded : version ∈ shim.appliedRecords) : version ≤ shim.currentVersion := by
  rw [← topped.top]
  cases latest : shim.appliedRecords.maxKey? with
  | none =>
      rw [Std.ExtTreeMap.maxKey?_eq_none_iff] at latest
      rw [latest] at recorded
      exact absurd recorded Std.ExtTreeMap.not_mem_empty
  | some greatest =>
      have below := (Std.ExtTreeMap.maxKey?_eq_some_iff_mem_and_forall.mp latest).2 version recorded
      exact Nat.isLE_compare.mp below

theorem Topped.record (topped : Topped shim) (due : shim.Due migration)
    (numbered : migration.version ≠ 0) (fits : migration.version < 2 ^ 32) :
    Topped (shim.record migration now) := by
  have above : shim.currentVersion < migration.version := by
    obtain ⟨_, bounded⟩ := topped
    rcases due.2 with next | zero
    · rw [MigrationShim.expectedVersion] at next
      omega
    · omega
  have latest : (shim.record migration now).appliedRecords.maxKey? = some migration.version := by
    rw [Std.ExtTreeMap.maxKey?_eq_some_iff_mem_and_forall]
    refine ⟨mem_record.mpr (.inl rfl), fun version recorded => ?_⟩
    rw [Nat.isLE_compare]
    rcases mem_record.mp recorded with same | earlier
    · exact same.symm.le
    · exact (topped.le_current earlier).trans above.le
  constructor
  · rw [latest]
    rfl
  · intro recorded
    rcases mem_record.mp recorded with same | earlier
    · exact numbered same
    · exact topped.zero earlier
  · exact fits

theorem Topped.rollbackLast (topped : Topped shim) : Topped shim.rollbackLast.1 := by
  unfold MigrationShim.rollbackLast
  by_cases none : shim.currentVersion = 0
  · rw [if_pos none]
    exact topped
  · rw [if_neg none]
    cases found : shim.appliedRecords[shim.currentVersion]? with
    | none => exact topped
    | some record =>
        constructor
        · rfl
        · intro recorded
          exact topped.zero (Std.ExtTreeMap.mem_erase.mp recorded).2
        · dsimp only
          cases latest : (shim.appliedRecords.erase shim.currentVersion).maxKey? with
          | none => exact Nat.two_pow_pos 32
          | some version =>
              have kept := (Std.ExtTreeMap.maxKey?_eq_some_iff_mem_and_forall.mp latest).1
              have bound := topped.le_current (Std.ExtTreeMap.mem_erase.mp kept).2
              exact bound.trans_lt topped.bounded

/-! ## One operation -/

theorem applyMigration_record (due : shim.Due migration) :
    (shim.applyMigration migration now).1 = shim.record migration now := by
  rw [applyMigration_eq]
  exact if_pos due

theorem applyMigrationDb_cases (world : World) (migration : Migration) (execute insert : Reply)
    (now : Int) :
    (world.shim.Due migration ∧ world.works execute = true ∧
      (world.applyMigrationDb migration execute insert now).2 = .ok () ∧
      (world.applyMigrationDb migration execute insert now).1.shim =
        world.shim.record migration now) ∨
    (¬ (world.shim.Due migration ∧ world.works execute = true) ∧
      (world.applyMigrationDb migration execute insert now).2 ≠ .ok () ∧
      (world.applyMigrationDb migration execute insert now).1.shim = world.shim) := by
  obtain ⟨outcome, recorded⟩ := applyMigrationDb_outcome world migration execute insert now
  have due : world.shim.progress.accepts migration.version = true ↔ world.shim.Due migration :=
    progress_accepts.trans checkOrder_eq_ok
  by_cases accepted : world.shim.Due migration ∧ world.works execute = true
  · have holds : (world.shim.progress.accepts migration.version && world.works execute) = true := by
      rw [Bool.and_eq_true, due]
      exact accepted
    rw [holds] at outcome recorded
    cases result : (world.applyMigrationDb migration execute insert now).2 with
    | error error =>
        rw [result] at outcome
        cases outcome
    | ok => exact .inl ⟨accepted.1, accepted.2, rfl, recorded⟩
  · have fails : ¬ (world.shim.progress.accepts migration.version && world.works execute) = true := by
      rw [Bool.and_eq_true, due]
      exact accepted
    rw [if_neg fails] at recorded
    refine .inr ⟨accepted, fun result => fails ?_, recorded⟩
    rw [← outcome, result]
    rfl

theorem shim_rollbackLastDb (world : World) (downSql : Option String) (execute delete : Reply) :
    (world.rollbackLastDb downSql execute delete).1.shim = world.shim ∨
      (world.rollbackLastDb downSql execute delete).1.shim = world.shim.rollbackLast.1 := by
  by_cases serving : world.shim.currentVersion = 0
  · left
    rw [World.rollbackLastDb.eq_def, if_pos serving]
  by_cases connected : world.shim.hasDb = true
  · by_cases failed : downSql.isSome ∧ execute ≠ .done
    · left
      rw [rollbackLastDb_failed serving connected failed.1 failed.2]
    · right
      rw [rollbackLastDb_ran serving connected fun given => by_contra fun other => failed ⟨given, other⟩]
  · right
    cases downSql <;> simp [World.rollbackLastDb, serving, World.deleteRecord, connected]

theorem Topped.undoes_iff (topped : Topped world.shim) :
    UndoesApply world operation ↔ SkipsZero world operation := by
  cases operation with
  | apply migration fits now =>
      rw [UndoesApply, applyMigration_eq_ok, SkipsZero]
      apply forall_congr'
      intro due
      rw [applyMigration_record due]
      exact topped.undone_iff due.1
  | applyDb migration fits execute insert now =>
      rcases applyMigrationDb_cases world migration execute insert now with
        ⟨due, works, accepted, recorded⟩ | ⟨rejects, rejected, _⟩
      · simp only [UndoesApply, SkipsZero, accepted, recorded, due, works, true_imp_iff]
        exact topped.undone_iff due.1
      · exact iff_of_true (fun accepted => absurd accepted rejected)
          fun due works => absurd ⟨due, works⟩ rejects
  | rollback => exact Iff.rfl
  | rollbackDb downSql execute delete => exact Iff.rfl

theorem Topped.kept (topped : Topped world.shim) (skips : SkipsZero world operation) :
    Topped (world.operate operation).shim := by
  cases operation with
  | apply migration fits now =>
      simp only [World.operate, applyMigration_eq]
      split
      · next due => exact topped.record due (skips due) fits
      · exact topped
  | applyDb migration fits execute insert now =>
      rcases applyMigrationDb_cases world migration execute insert now with
        ⟨due, works, _, recorded⟩ | ⟨_, _, same⟩
      · rw [World.operate, recorded]
        exact topped.record due (skips due works) fits
      · rw [World.operate, same]
        exact topped
  | rollback => exact topped.rollbackLast
  | rollbackDb downSql execute delete =>
      rcases shim_rollbackLastDb world downSql execute delete with same | back
      · rw [World.operate, same]
        exact topped
      · rw [World.operate, back]
        exact topped.rollbackLast

/-! ## Runs -/

/-- Every accepted migration could be undone at once if and only if none of
version 0 is accepted. -/
theorem undoesApply_iff (dbHost database : String) (autoMigrate : Bool) (contents : Database)
    (labels : List Operation) :
    operations.Along UndoesApply (.fresh dbHost database autoMigrate contents) labels ↔
      operations.Along SkipsZero (.fresh dbHost database autoMigrate contents) labels := by
  apply Machine.along_ofFunction_iff_along fun world => Topped world.shim
  · intro world operation topped
    exact topped.undoes_iff
  · intro world operation topped skips
    exact topped.kept skips
  · exact ⟨by simp [World.fresh, MigrationShim.new], Std.ExtTreeMap.not_mem_empty,
      Nat.two_pow_pos 32⟩

/-- Version 0 is accepted and cannot be rolled back. -/
theorem zero_not_undone :
    ¬ ∀ labels, operations.Along UndoesApply (.fresh "" "" false ⟨[], []⟩) labels := by
  intro undoes
  have undone := (undoes [.apply (numbered 0) (by decide) 0] _ rfl).1 rfl
  exact absurd undone.record (by decide)

/-! ## A start is a run of applications -/

theorem parseU32_lt {text : List Char} {version : Nat} (parsed : parseU32 text = some version) :
    version < 2 ^ 32 := by
  have zero : 0 < 2 ^ 32 := by decide
  unfold parseU32 at parsed
  dsimp only at parsed
  split at parsed
  · split at parsed
    · cases parsed
    · exact Text.lt_of_foldlM_digits zero parsed
  · split at parsed
    · cases parsed
    · exact Text.lt_of_foldlM_digits zero parsed

theorem scan_fits {dir : MigrationDir} {migrations : List Scanned} (found : dir.scan = .ok migrations) :
    ∀ scanned ∈ migrations, scanned.version < 2 ^ 32 := by
  intro scanned member
  unfold MigrationDir.scan at found
  split at found
  · cases listed : dir.entries with
    | error error =>
        rw [listed] at found
        cases found
    | ok entries =>
        rw [listed] at found
        cases found
        obtain ⟨entry, _, kept⟩ := List.mem_filterMap.mp
          ((List.mem_insertionSort (fun first second : Scanned => first.version ≤ second.version)).mp
            member)
        unfold scanEntry at kept
        dsimp only at kept
        split at kept
        · obtain ⟨version, parsed, rfl⟩ := Option.map_eq_some_iff.mp kept
          exact parseU32_lt parsed
        · cases kept
  · cases found
    cases member

theorem applyAll_operates {world : World} {input : StartInput} {migrations : List Scanned}
    (fits : ∀ scanned ∈ migrations, scanned.version < 2 ^ 32) :
    ∃ labels, operations.run world labels = some (world.applyAll input migrations).1 := by
  induction migrations generalizing world with
  | nil => exact ⟨[], rfl⟩
  | cons scanned rest ih =>
      cases read : scanned.read with
      | error error => exact ⟨[], by simp only [World.applyAll, read]; rfl⟩
      | ok sql =>
          let operation : Operation := .applyDb (scanned.migration sql)
            (fits scanned List.mem_cons_self) (input.execute scanned.entry)
            (input.insert scanned.entry) input.now
          obtain ⟨labels, ran⟩ := @ih (world.operate operation)
            fun later member => fits later (List.mem_cons_of_mem scanned member)
          refine ⟨operation :: labels, ?_⟩
          simp only [World.applyAll, read]
          exact (Machine.run_cons_of_step rfl).trans ran

/-- What a start does in memory, a run of operations does too. -/
theorem start_operates (world : World) (dir : MigrationDir) (input : StartInput) :
    ∃ labels first last, first.shim = world.shim ∧ operations.run first labels = some last ∧
      last.shim = (world.start dir input).1.shim := by
  have nothing : (world.start dir input).1.shim = world.shim →
      ∃ labels first last, first.shim = world.shim ∧ operations.run first labels = some last ∧
        last.shim = (world.start dir input).1.shim :=
    fun same => ⟨[], world, world, rfl, rfl, same.symm⟩
  by_cases automatic : world.shim.autoMigrate = true
  · cases acquired : input.acquire with
    | error error =>
        apply nothing
        rw [start_refused automatic acquired, shim_ensureTable]
    | ok =>
        cases found : dir.scan with
        | error error =>
            apply nothing
            simp only [World.start, shim_ensureTable, automatic, if_true, acquired, found]
            exact shim_ensureTable _
        | ok migrations =>
            obtain ⟨labels, ran⟩ := @applyAll_operates
              ((world.ensureTable input.ensure).log .acquired) input migrations (scan_fits found)
            refine ⟨labels, (world.ensureTable input.ensure).log .acquired, _, shim_ensureTable _, ran, ?_⟩
            simp only [World.start, shim_ensureTable, automatic, if_true, acquired, found]
            cases ((world.ensureTable input.ensure).log .acquired).applyAll input migrations with
            | mk applied result =>
                cases result with
                | error error => rfl
                | ok => cases input.release <;> rfl
  · apply nothing
    simp only [World.start, shim_ensureTable, automatic]
    exact shim_ensureTable _

end Evergreen.Migration
