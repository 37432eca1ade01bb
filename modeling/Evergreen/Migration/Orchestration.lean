import Mathlib.Algebra.Order.Ring.Nat
import Mathlib.Data.List.Basic

namespace Evergreen.Migration

/-! # Migrating several databases

`orchestrate_multi_db` and the loop of `migrate_target`.  A target succeeds when
no error was noted, and of the second connection no failure is.
-/

/-- The files of `migration_dir`, in their order. -/
structure MigrationTarget where
  name : String
  dbType : String
  dbUrl : String
  migrationDir : List String
deriving DecidableEq, Repr

structure TargetMigrationResult where
  name : String
  success : Bool
  migrationsApplied : Nat
  errors : List String
  durationMs : Nat
deriving DecidableEq, Repr

structure MigrationOrchestrationResult where
  success : Bool
  targetResults : List TargetMigrationResult
  completedAt : String
deriving DecidableEq, Repr

structure FileReplies where
  read : Except String String
  connect : Except String Unit
  execute : Except String Unit

/-- What a target meets; the files go by their place in the list. -/
structure TargetReplies where
  connect : Except String Unit
  files : Nat → FileReplies
  durationMs : Nat

/-- The variables of the loop, and the files whose statements were executed. -/
structure TargetProgress where
  applied : Nat
  errors : List String
  executed : List String

/-- One turn of the loop.  `applied` is a `u32` without overflow checks in
release builds. -/
def TargetProgress.attempt (files : Nat → FileReplies) (progress : TargetProgress) (file : String × Nat) :
    TargetProgress :=
  let (path, index) := file
  match (files index).read with
  | .ok _ =>
      match (files index).connect with
      | .ok () =>
          match (files index).execute with
          | .error error => { progress with errors := progress.errors ++ [s!"{path}: {error}"] }
          | .ok () =>
              { progress with
                applied := (progress.applied + 1) % 2 ^ 32
                executed := progress.executed ++ [path] }
      | .error _ => progress
  | .error error =>
      { progress with errors := progress.errors ++ [s!"Failed to read {path}: {error}"] }

/-- The arms for the two supported databases differ in their driver only. -/
def MigrationTarget.throughPool (target : MigrationTarget) (replies : TargetReplies) : TargetProgress :=
  match replies.connect with
  | .ok () => target.migrationDir.zipIdx.foldl (TargetProgress.attempt replies.files) ⟨0, [], []⟩
  | .error error => ⟨0, [s!"Connection failed: {error}"], []⟩

def MigrationTarget.progress (target : MigrationTarget) (replies : TargetReplies) : TargetProgress :=
  let dbType := target.dbType
  if dbType = "postgres" then target.throughPool replies
  else if dbType = "mysql" then target.throughPool replies
  else ⟨0, [s!"Unsupported database type: {dbType}"], []⟩

/-- The result, and the files that were executed. -/
def migrateTarget (target : MigrationTarget) (replies : TargetReplies) :
    TargetMigrationResult × List String :=
  let progress := target.progress replies
  (⟨target.name, progress.errors.isEmpty, progress.applied, progress.errors, replies.durationMs⟩,
    progress.executed)

/-- With the files executed at each target. -/
def orchestrateMultiDb (targets : List MigrationTarget) (replies : Nat → TargetReplies)
    (completedAt : String) : MigrationOrchestrationResult × List (List String) :=
  let (results, executed, overallSuccess) := targets.zipIdx.foldl
    (fun (results, executed, overallSuccess) target =>
      let (result, files) := migrateTarget target.1 (replies target.2)
      (results ++ [result], executed ++ [files], overallSuccess && result.success))
    ([], [], true)
  (⟨overallSuccess, results, completedAt⟩, executed)

/-! ## What is asked -/

def MigrationTarget.Complete (target : MigrationTarget) (result : TargetMigrationResult)
    (executed : List String) : Prop :=
  executed = target.migrationDir ∧ result.migrationsApplied = target.migrationDir.length

/-- A success, of a target and of the whole, means that all was executed. -/
structure Honest (targets : List MigrationTarget)
    (outcome : MigrationOrchestrationResult × List (List String)) : Prop where
  target : ∀ (index : Nat) (target : MigrationTarget) (result : TargetMigrationResult)
    (executed : List String), targets[index]? = some target →
    outcome.1.targetResults[index]? = some result → outcome.2[index]? = some executed →
    result.success = true → target.Complete result executed
  overall : outcome.1.success = true → ∀ (index : Nat) (target : MigrationTarget)
    (result : TargetMigrationResult) (executed : List String), targets[index]? = some target →
    outcome.1.targetResults[index]? = some result → outcome.2[index]? = some executed →
    target.Complete result executed

/-- The target is not supported or cannot be reached, or a file of it cannot be
read, or its statement fails. -/
def MigrationTarget.Fails (target : MigrationTarget) (replies : TargetReplies) : Prop :=
  (target.dbType ≠ "postgres" ∧ target.dbType ≠ "mysql") ∨ (∃ error, replies.connect = .error error) ∨
    ∃ index < target.migrationDir.length, (∃ error, (replies.files index).read = .error error) ∨
      ((replies.files index).connect = .ok () ∧ ∃ error, (replies.files index).execute = .error error)

/-- Every file finds a connection, and their number is a `u32`. -/
def MigrationTarget.Reaches (target : MigrationTarget) (replies : TargetReplies) : Prop :=
  (∀ index < target.migrationDir.length, (replies.files index).connect = .ok ()) ∧
    target.migrationDir.length < 2 ^ 32

variable {files : Nat → FileReplies} {progress : TargetProgress} {path : String} {index : Nat}
variable {target : MigrationTarget} {replies : TargetReplies}

/-! ## One file -/

def FileReplies.noted (replies : FileReplies) (path : String) : Option String :=
  match replies.read, replies.connect, replies.execute with
  | .error error, _, _ => some s!"Failed to read {path}: {error}"
  | .ok _, .ok (), .error error => some s!"{path}: {error}"
  | .ok _, .ok (), .ok () => none
  | .ok _, .error _, _ => none

def FileReplies.executes (replies : FileReplies) : Bool :=
  replies.read.isOk && replies.connect.isOk && replies.execute.isOk

theorem attempt_eq : progress.attempt files (path, index) =
    ⟨if (files index).executes then (progress.applied + 1) % 2 ^ 32 else progress.applied,
      progress.errors ++ ((files index).noted path).toList,
      progress.executed ++ if (files index).executes then [path] else []⟩ := by
  unfold TargetProgress.attempt FileReplies.noted FileReplies.executes
  cases read : (files index).read with
  | error error => simp [read, Except.isOk, Except.toBool]
  | ok sql =>
      cases connect : (files index).connect with
      | error error => simp [read, connect, Except.isOk, Except.toBool]
      | ok =>
          cases execute : (files index).execute with
          | error error => simp [read, connect, execute, Except.isOk, Except.toBool]
          | ok => simp [read, connect, execute, Except.isOk, Except.toBool]

/-! ## The loop -/

theorem attemptAll_eq (entries : List (String × Nat)) (small : progress.applied < 2 ^ 32) :
    entries.foldl (TargetProgress.attempt files) progress =
      ⟨(progress.applied + (entries.filter fun entry => (files entry.2).executes).length) % 2 ^ 32,
        progress.errors ++ entries.flatMap fun entry => ((files entry.2).noted entry.1).toList,
        progress.executed ++
          (entries.filter fun entry => (files entry.2).executes).map Prod.fst⟩ := by
  induction entries generalizing progress with
  | nil => simp only [List.foldl_nil, List.filter_nil, List.length_nil, Nat.add_zero,
      Nat.mod_eq_of_lt small, List.flatMap_nil, List.append_nil, List.map_nil]
  | cons entry rest ih =>
      obtain ⟨path, index⟩ := entry
      rw [List.foldl_cons, attempt_eq, ih]
      · cases executes : (files index).executes with
        | false => simp [executes]
        | true =>
            simp only [executes, if_true, List.filter_cons_of_pos, List.length_cons,
              List.flatMap_cons, List.map_cons, List.append_assoc, List.singleton_append,
              TargetProgress.mk.injEq, and_true]
            rw [Nat.mod_add_mod]
            congr 1
            omega
      · dsimp only
        split
        · exact Nat.mod_lt _ (Nat.two_pow_pos 32)
        · exact small

theorem noted_eq_none_iff {replies : FileReplies} : replies.noted path = none ↔
    ¬ ((∃ error, replies.read = .error error) ∨
      (replies.connect = .ok () ∧ ∃ error, replies.execute = .error error)) := by
  unfold FileReplies.noted
  cases read : replies.read with
  | error error => simp
  | ok sql =>
      cases connect : replies.connect with
      | error error => simp
      | ok => cases execute : replies.execute <;> simp

theorem executes_iff_of_noted {replies : FileReplies} (quiet : replies.noted path = none) :
    replies.executes = true ↔ replies.connect = .ok () := by
  have failures := noted_eq_none_iff.mp quiet
  unfold FileReplies.executes
  cases read : replies.read with
  | error error => exact absurd (.inl ⟨error, read⟩) failures
  | ok sql =>
      cases connect : replies.connect with
      | error error => simp [Except.isOk, Except.toBool]
      | ok =>
          cases execute : replies.execute with
          | error error => exact absurd (.inr ⟨connect, error, execute⟩) failures
          | ok => simp [Except.isOk, Except.toBool]

/-! ## One target -/

/-- All files are read, and every statement that is sent is executed. -/
def MigrationTarget.Quiet (target : MigrationTarget) (replies : TargetReplies) : Prop :=
  ∀ entry ∈ target.migrationDir.zipIdx, (replies.files entry.2).noted entry.1 = none

theorem quiet_iff : target.Quiet replies ↔ ∀ index < target.migrationDir.length,
    ¬ ((∃ error, (replies.files index).read = .error error) ∨
      ((replies.files index).connect = .ok () ∧
        ∃ error, (replies.files index).execute = .error error)) := by
  constructor
  · intro quiet index within
    exact noted_eq_none_iff.mp (quiet (target.migrationDir[index], index)
      (List.mk_mem_zipIdx_iff_getElem?.mpr (List.getElem?_eq_getElem within)))
  · intro clean entry member
    obtain ⟨within, _⟩ := List.getElem?_eq_some_iff.mp (List.mem_zipIdx_iff_getElem?.mp member)
    exact noted_eq_none_iff.mpr (clean entry.2 within)

theorem not_fails_iff : ¬ target.Fails replies ↔
    (target.dbType = "postgres" ∨ target.dbType = "mysql") ∧ replies.connect = .ok () ∧
      target.Quiet replies := by
  rw [MigrationTarget.Fails, not_or, not_or, quiet_iff]
  apply and_congr
  · rw [not_and_or, not_not, not_not]
  · apply and_congr
    · cases replies.connect <;> simp
    · push Not
      rfl

theorem progress_reached (supported : target.dbType = "postgres" ∨ target.dbType = "mysql")
    (reached : replies.connect = .ok ()) : target.progress replies =
      target.migrationDir.zipIdx.foldl (TargetProgress.attempt replies.files) ⟨0, [], []⟩ := by
  have through : target.progress replies = target.throughPool replies := by
    rcases supported with postgres | mysql
    · simp [MigrationTarget.progress, postgres]
    · simp [MigrationTarget.progress, mysql]
  rw [through, MigrationTarget.throughPool, reached]

theorem success_iff : (migrateTarget target replies).1.success = true ↔
    ¬ target.Fails replies := by
  change (target.progress replies).errors.isEmpty = true ↔ _
  rw [not_fails_iff, List.isEmpty_iff]
  by_cases supported : target.dbType = "postgres" ∨ target.dbType = "mysql"
  · cases reached : replies.connect with
    | error error =>
        have unreached : (target.progress replies).errors = [s!"Connection failed: {error}"] := by
          rcases supported with postgres | mysql
          · simp [MigrationTarget.progress, postgres, MigrationTarget.throughPool, reached]
          · simp [MigrationTarget.progress, mysql, MigrationTarget.throughPool, reached]
        simp [unreached]
    | ok =>
        rw [progress_reached supported reached, attemptAll_eq _ (Nat.two_pow_pos 32)]
        simp [supported, MigrationTarget.Quiet]
  · refine iff_of_false (fun empty => ?_) fun holds => supported holds.1
    have ⟨other, neither⟩ := not_or.mp supported
    simp [MigrationTarget.progress, other, neither] at empty

def MigrationTarget.ran (target : MigrationTarget) (replies : TargetReplies) : List (String × Nat) :=
  target.migrationDir.zipIdx.filter fun entry => (replies.files entry.2).executes

theorem progress_quiet (supported : target.dbType = "postgres" ∨ target.dbType = "mysql")
    (reached : replies.connect = .ok ()) (quiet : target.Quiet replies) :
    target.progress replies =
      ⟨(target.ran replies).length % 2 ^ 32, [], (target.ran replies).map Prod.fst⟩ := by
  have silent : (target.migrationDir.zipIdx.flatMap fun entry =>
      ((replies.files entry.2).noted entry.1).toList) = [] := by
    apply List.flatMap_eq_nil_iff.mpr
    intro entry member
    rw [quiet entry member]
    rfl
  rw [progress_reached supported reached, attemptAll_eq _ (Nat.two_pow_pos 32), silent]
  simp only [Nat.zero_add, List.nil_append, MigrationTarget.ran]

theorem length_ran_iff (quiet : target.Quiet replies) :
    (target.ran replies).length = target.migrationDir.length ↔
      ∀ index < target.migrationDir.length, (replies.files index).connect = .ok () := by
  have filtered := @List.length_filter_eq_length_iff _ (fun entry => (replies.files entry.2).executes)
    target.migrationDir.zipIdx
  rw [List.length_zipIdx] at filtered
  rw [MigrationTarget.ran, filtered]
  constructor
  · intro executes index within
    have member : (target.migrationDir[index], index) ∈ target.migrationDir.zipIdx :=
      List.mk_mem_zipIdx_iff_getElem?.mpr (List.getElem?_eq_getElem within)
    exact (executes_iff_of_noted (quiet _ member)).mp (executes _ member)
  · intro connects entry member
    obtain ⟨within, _⟩ := List.getElem?_eq_some_iff.mp (List.mem_zipIdx_iff_getElem?.mp member)
    exact (executes_iff_of_noted (quiet entry member)).mpr (connects entry.2 within)

theorem complete_iff (succeeds : ¬ target.Fails replies) :
    target.Complete (migrateTarget target replies).1 (migrateTarget target replies).2 ↔
      target.Reaches replies := by
  obtain ⟨supported, reached, quiet⟩ := not_fails_iff.mp succeeds
  change (target.progress replies).executed = target.migrationDir ∧
    (target.progress replies).applied = target.migrationDir.length ↔ _
  rw [progress_quiet supported reached quiet, MigrationTarget.Reaches, ← length_ran_iff quiet]
  dsimp only
  constructor
  · rintro ⟨paths, applied⟩
    have same : (target.ran replies).length = target.migrationDir.length := by
      rw [← List.length_map Prod.fst, paths]
    rw [same] at applied
    exact ⟨same, applied ▸ Nat.mod_lt _ (Nat.two_pow_pos 32)⟩
  · rintro ⟨same, small⟩
    have all : target.ran replies = target.migrationDir.zipIdx := by
      have whole : (target.ran replies).length = target.migrationDir.zipIdx.length := by
        rw [same, List.length_zipIdx]
      exact List.Sublist.eq_of_length List.filter_sublist whole
    rw [all, List.zipIdx_map_fst, List.length_zipIdx]
    exact ⟨rfl, Nat.mod_eq_of_lt small⟩

theorem migrateTarget_honest_iff : ((migrateTarget target replies).1.success = true →
    target.Complete (migrateTarget target replies).1 (migrateTarget target replies).2) ↔
      target.Fails replies ∨ target.Reaches replies := by
  rw [success_iff]
  by_cases fails : target.Fails replies
  · exact iff_of_true (fun succeeds => absurd fails succeeds) (.inl fails)
  · rw [or_iff_right fails, ← complete_iff fails]
    exact ⟨fun complete => complete fails, fun complete _ => complete⟩

/-! ## All targets -/

variable {targets : List MigrationTarget} {answers : Nat → TargetReplies} {completedAt : String}

theorem orchestrateMultiDb_eq : orchestrateMultiDb targets answers completedAt =
    (⟨targets.zipIdx.all fun target => (migrateTarget target.1 (answers target.2)).1.success,
      targets.zipIdx.map fun target => (migrateTarget target.1 (answers target.2)).1, completedAt⟩,
      targets.zipIdx.map fun target => (migrateTarget target.1 (answers target.2)).2) := by
  have loop : ∀ (entries : List (MigrationTarget × Nat)) (results : List TargetMigrationResult)
      (executed : List (List String)) (success : Bool), entries.foldl
        (fun (results, executed, overallSuccess) target =>
          let (result, files) := migrateTarget target.1 (answers target.2)
          (results ++ [result], executed ++ [files], overallSuccess && result.success))
        (results, executed, success) =
      (results ++ entries.map fun target => (migrateTarget target.1 (answers target.2)).1,
        executed ++ entries.map fun target => (migrateTarget target.1 (answers target.2)).2,
        success && entries.all fun target =>
          (migrateTarget target.1 (answers target.2)).1.success) := by
    intro entries
    induction entries with
    | nil => simp
    | cons target rest ih =>
        intro results executed success
        rw [List.foldl_cons]
        dsimp only
        rw [ih]
        simp [Bool.and_assoc]
  simp only [orchestrateMultiDb, loop, List.nil_append, Bool.true_and]

/-- No success is claimed that was not had if and only if every target fails for
a reason that is noted, or finds a connection for each of its files. -/
theorem orchestrateMultiDb_honest_iff (targets : List MigrationTarget)
    (answers : Nat → TargetReplies) (completedAt : String) :
    Honest targets (orchestrateMultiDb targets answers completedAt) ↔
      ∀ (index : Nat) (target : MigrationTarget), targets[index]? = some target →
        target.Fails (answers index) ∨ target.Reaches (answers index) := by
  rw [orchestrateMultiDb_eq]
  have listed : ∀ {index : Nat} {target : MigrationTarget}, targets[index]? = some target →
      targets.zipIdx[index]? = some (target, index) := by
    intro index target found
    simp [List.getElem?_zipIdx, found]
  constructor
  · intro honest index target found
    apply migrateTarget_honest_iff.mp
    exact honest.target index target _ _ found (by simp [listed found]) (by simp [listed found])
  · intro all
    have sound : ∀ (index : Nat) (target : MigrationTarget), targets[index]? = some target →
        (migrateTarget target (answers index)).1.success = true →
        target.Complete (migrateTarget target (answers index)).1
          (migrateTarget target (answers index)).2 :=
      fun index target found => migrateTarget_honest_iff.mpr (all index target found)
    constructor
    · intro index target result executed found resulted ran success
      simp only [List.getElem?_map, listed found, Option.map_some, Option.some.injEq] at resulted ran
      subst resulted ran
      exact sound index target found success
    · intro success index target result executed found resulted ran
      simp only [List.getElem?_map, listed found, Option.map_some, Option.some.injEq] at resulted ran
      subst resulted ran
      apply sound index target found
      exact List.all_eq_true.mp success (target, index)
        (List.mk_mem_zipIdx_iff_getElem?.mpr found)

def poolExhausted : TargetReplies where
  connect := .ok ()
  files _ := ⟨.ok "SELECT 1", .error "too many connections", .ok ()⟩
  durationMs := 1

/-- Nothing is executed, and the migration is a success. -/
theorem orchestrateMultiDb_silent :
    ¬ ∀ targets, Honest targets (orchestrateMultiDb targets (fun _ => poolExhausted) "now") := by
  intro honest
  have complete := (honest [⟨"app", "postgres", "postgres://db", ["1_init.up.sql"]⟩]).target 0 _ _ _
    rfl rfl rfl rfl
  exact absurd complete.1 (by decide)

end Evergreen.Migration
