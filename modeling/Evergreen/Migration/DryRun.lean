import Evergreen.Migration.Versions
import Evergreen.Text.Parse

set_option linter.dupNamespace false

namespace Evergreen.Migration

/-! # Predicting an application

`dry_run_migration` makes the checks of `apply_migration` once more and one of
its own: it expects the statement not to be blank.  How a timestamp is printed
is a parameter.
-/

structure DryRunResult where
  version : Nat
  name : String
  wouldApply : Bool
  reason : String
  checksumValid : Bool
  sqlSizeBytes : Nat
  hasDownMigration : Bool
deriving DecidableEq, Repr

def Migration.isBlank (migration : Migration) : Bool := (Text.trim migration.upSql).isEmpty

/-- The result before the first check. -/
def Migration.unchecked (migration : Migration) : DryRunResult where
  version := migration.version
  name := migration.name
  wouldApply := true
  reason := ""
  checksumValid := false
  sqlSizeBytes := migration.upSql.utf8ByteSize % 2 ^ 64
  hasDownMigration := migration.downSql.isSome

def DryRunResult.refuse (result : DryRunResult) (reason : String) : DryRunResult :=
  { result with wouldApply := false, reason := reason }

namespace MigrationShim

variable (rfc3339 : Int → String) (shim : MigrationShim)

/-- Every branch returns a result; no branch returns an error. -/
def dryRunMigration (migration : Migration) : Except MigrationError DryRunResult :=
  let version := migration.version
  let result := migration.unchecked
  match shim.appliedRecords[version]? with
  | some record =>
      let appliedAt := rfc3339 record.appliedAt
      .ok (result.refuse s!"Migration v{version} already applied at {appliedAt}")
  | none =>
      let expected := shim.expectedVersion
      if version ≠ expected ∧ 0 < shim.currentVersion then
        .ok (result.refuse s!"Out of order: expected v{expected}, got v{version}")
      else
        match shim.verifyChecksum version migration.checksum with
        | .error error =>
            let message := error.message
            .ok (result.refuse s!"Checksum validation failed: {message}")
        | .ok () =>
            let result := { result with checksumValid := true }
            if migration.isBlank then .ok (result.refuse "Migration SQL is empty")
            else .ok { result with reason := "Migration would be applied successfully" }

/-- The version is new and, unless the current one is 0, the next one. -/
def Due (migration : Migration) : Prop :=
  migration.version ∉ shim.appliedRecords ∧
    (migration.version = shim.expectedVersion ∨ shim.currentVersion = 0)

end MigrationShim

variable {rfc3339 : Int → String} {shim : MigrationShim} {migration : Migration}

theorem applyMigration_eq_ok {now : Int} :
    (shim.applyMigration migration now).2 = .ok () ↔ shim.Due migration := by
  rw [MigrationShim.Due, ← checkOrder_eq_ok, MigrationShim.applyMigration]
  cases checked : shim.checkOrder migration with
  | error error => simp
  | ok => simp

theorem dryRunMigration_wouldApply :
    (shim.dryRunMigration rfc3339 migration).map (·.wouldApply) = .ok true ↔
      shim.Due migration ∧ migration.isBlank = false := by
  unfold MigrationShim.dryRunMigration MigrationShim.Due
  cases recorded : shim.appliedRecords[migration.version]? with
  | some record =>
      have present : migration.version ∈ shim.appliedRecords :=
        Std.ExtTreeMap.mem_iff_isSome_getElem?.mpr (by simp [recorded])
      simp [present, Except.map, DryRunResult.refuse]
  | none =>
      have absent : migration.version ∉ shim.appliedRecords := by
        simp [Std.ExtTreeMap.mem_iff_isSome_getElem?, recorded]
      have verified : shim.verifyChecksum migration.version migration.checksum = .ok () := by
        rw [MigrationShim.verifyChecksum, recorded]
      by_cases order : migration.version ≠ shim.expectedVersion ∧ 0 < shim.currentVersion
      · have serving : shim.currentVersion ≠ 0 := Nat.pos_iff_ne_zero.mp order.2
        simp only [recorded, if_pos order]
        simp [order.1, serving, Except.map, DryRunResult.refuse]
      · have due : migration.version = shim.expectedVersion ∨ shim.currentVersion = 0 := by
          omega
        simp only [recorded, if_neg order, verified]
        cases blank : migration.isBlank <;>
          simp [absent, due, Except.map, Migration.unchecked, DryRunResult.refuse]

/-- The dry run agrees with the real one unless a migration that is due has a
blank statement. -/
theorem dryRunMigration_agrees_iff (rfc3339 : Int → String) (shim : MigrationShim)
    (migration : Migration) (now : Int) :
    ((shim.dryRunMigration rfc3339 migration).map (·.wouldApply) = .ok true ↔
        (shim.applyMigration migration now).2 = .ok ()) ↔
      (migration.isBlank = false ∨ ¬ shim.Due migration) := by
  rw [dryRunMigration_wouldApply, applyMigration_eq_ok, and_iff_left_iff_imp]
  exact imp_iff_or_not

/-- A blank first migration is predicted to fail and applied. -/
theorem dryRunMigration_disagrees :
    ¬ ((MigrationShim.dryRunMigration toString (.new "" "" false)
          { numbered 1 with upSql := "  \n" }).map (·.wouldApply) = .ok true ↔
        (MigrationShim.applyMigration (.new "" "" false)
          { numbered 1 with upSql := "  \n" } 0).2 = .ok ()) := by
  intro agrees
  have applied : (MigrationShim.applyMigration (.new "" "" false)
      { numbered 1 with upSql := "  \n" } 0).2 = .ok () := rfl
  have predicted := agrees.mpr applied
  exact absurd predicted (by decide)

end Evergreen.Migration
