import Evergreen.Machine.Run
import Evergreen.Migration.Shim

namespace Evergreen.Migration

/-! # The versions a shim has recorded

`apply_migration` and `rollback_last`, in memory.  The current version stands
both for "none" and for version 0, and the check of the order is off while it is
0: with version 0 recorded any later version is accepted.
-/

namespace MigrationShim

variable (shim : MigrationShim)

def applyMigration (migration : Migration) (now : Int) :
    MigrationShim × Except MigrationError Unit :=
  match shim.checkOrder migration with
  | .error error => (shim, .error error)
  | .ok () => (shim.record migration now, .ok ())

def rollbackLast : MigrationShim × Except MigrationError MigrationRecord :=
  if shim.currentVersion = 0 then (shim, .error (.missingDownMigration 0))
  else
    match shim.appliedRecords[shim.currentVersion]? with
    | none => (shim, .error (.missingDownMigration shim.currentVersion))
    | some record =>
        let appliedRecords := shim.appliedRecords.erase shim.currentVersion
        ({ shim with
            appliedRecords := appliedRecords
            currentVersion := appliedRecords.maxKey?.getD 0
            migrationsRolledBack := shim.migrationsRolledBack + 1 },
          .ok record)

end MigrationShim

/-- A version is a `u32`. -/
inductive Call where
  | apply (migration : Migration) (fits : migration.version < 2 ^ 32) (now : Int)
  | rollback

def MigrationShim.call (shim : MigrationShim) : Call → MigrationShim
  | .apply migration _ now => (shim.applyMigration migration now).1
  | .rollback => shim.rollbackLast.1

def calls : Machine MigrationShim Call := .ofFunction MigrationShim.call

/-- The recorded versions are an interval, and the current one is its last. -/
def Contiguous (shim : MigrationShim) : Prop :=
  (shim.appliedRecords = ∅ ∧ shim.currentVersion = 0) ∨
    ∃ low ≤ shim.currentVersion, ∀ version,
      version ∈ shim.appliedRecords ↔ low ≤ version ∧ version ≤ shim.currentVersion

/-- The call applies no version beyond 1 right after version 0, and no version 0
after `u32::MAX`. -/
def KeepsOrder (shim : MigrationShim) : Call → Prop
  | .apply migration _ _ =>
      ¬ (shim.currentVersion = 0 ∧ 0 ∈ shim.appliedRecords ∧ 2 ≤ migration.version) ∧
        ¬ (shim.currentVersion = 2 ^ 32 - 1 ∧ 0 ∉ shim.appliedRecords ∧ migration.version = 0)
  | .rollback => True

structure Versioned (shim : MigrationShim) : Prop where
  contiguous : Contiguous shim
  bounded : shim.currentVersion < 2 ^ 32

variable {shim : MigrationShim} {migration : Migration} {now : Int} {call : Call}

/-! ## What a call can do -/

theorem mem_record {version : Nat} : version ∈ (shim.record migration now).appliedRecords ↔
    migration.version = version ∨ version ∈ shim.appliedRecords := by
  simp [MigrationShim.record]

theorem checkOrder_eq_ok : shim.checkOrder migration = .ok () ↔
    migration.version ∉ shim.appliedRecords ∧
      (migration.version = shim.expectedVersion ∨ shim.currentVersion = 0) := by
  unfold MigrationShim.checkOrder MigrationShim.verifyChecksum
  by_cases recorded : migration.version ∈ shim.appliedRecords
  · simp [recorded]
  · have absent : shim.appliedRecords[migration.version]? = none :=
      Std.ExtTreeMap.getElem?_eq_none recorded
    by_cases order : migration.version ≠ shim.expectedVersion ∧ 0 < shim.currentVersion
    · have serving : shim.currentVersion ≠ 0 := Nat.pos_iff_ne_zero.mp order.2
      simp [recorded, order, serving]
    · have accepted : migration.version = shim.expectedVersion ∨ shim.currentVersion = 0 := by
        omega
      simp [recorded, order, accepted]

theorem applyMigration_eq : (shim.applyMigration migration now).1 =
    if migration.version ∉ shim.appliedRecords ∧
        (migration.version = shim.expectedVersion ∨ shim.currentVersion = 0) then
      shim.record migration now else shim := by
  unfold MigrationShim.applyMigration
  cases checked : shim.checkOrder migration with
  | error error =>
      rw [if_neg]
      intro accepted
      rw [checkOrder_eq_ok.mpr accepted] at checked
      cases checked
  | ok => rw [if_pos (checkOrder_eq_ok.mp checked)]

theorem Contiguous.rollback (contiguous : Contiguous shim) : Contiguous shim.rollbackLast.1 := by
  unfold MigrationShim.rollbackLast
  by_cases none : shim.currentVersion = 0
  · rw [if_pos none]
    exact contiguous
  · rw [if_neg none]
    cases found : shim.appliedRecords[shim.currentVersion]? with
    | none => exact contiguous
    | some record =>
        rcases contiguous with ⟨_, zero⟩ | ⟨low, bound, recorded⟩
        · exact absurd zero none
        · have kept : ∀ version, version ∈ shim.appliedRecords.erase shim.currentVersion ↔
              low ≤ version ∧ version < shim.currentVersion := by
            intro version
            have member := recorded version
            simp only [Std.ExtTreeMap.mem_erase, ne_eq, compare_eq_iff_eq, member]
            omega
          by_cases last : low = shim.currentVersion
          · have emptied : shim.appliedRecords.erase shim.currentVersion = ∅ := by
              apply Std.ExtTreeMap.eq_empty_iff_forall_not_mem.mpr
              intro version member
              have bounds := (kept version).mp member
              omega
            left
            simp [emptied]
          · have latest : (shim.appliedRecords.erase shim.currentVersion).maxKey? =
                some (shim.currentVersion - 1) := by
              rw [Std.ExtTreeMap.maxKey?_eq_some_iff_mem_and_forall]
              refine ⟨(kept _).mpr (by omega), fun version member => ?_⟩
              have bounds := (kept version).mp member
              rw [Nat.isLE_compare]
              omega
            right
            refine ⟨low, ?_, fun version => ?_⟩
            · simp only [latest, Option.getD_some]
              omega
            · simp only [latest, Option.getD_some]
              rw [kept version]
              omega

theorem currentVersion_rollback (versioned : Versioned shim) :
    shim.rollbackLast.1.currentVersion ≤ shim.currentVersion := by
  unfold MigrationShim.rollbackLast
  by_cases none : shim.currentVersion = 0
  · rw [if_pos none]
  · rw [if_neg none]
    cases found : shim.appliedRecords[shim.currentVersion]? with
    | none => exact Nat.le_refl _
    | some record =>
        dsimp only
        cases latest : (shim.appliedRecords.erase shim.currentVersion).maxKey? with
        | none => exact Nat.zero_le _
        | some version =>
            rcases versioned.contiguous with ⟨_, zero⟩ | ⟨low, _, recorded⟩
            · exact absurd zero none
            · have member := (Std.ExtTreeMap.maxKey?_eq_some_iff_mem_and_forall.mp latest).1
              have held := (Std.ExtTreeMap.mem_erase.mp member).2
              exact ((recorded version).mp held).2

theorem Contiguous.record (contiguous : Contiguous shim) (bounded : shim.currentVersion < 2 ^ 32)
    (fresh : migration.version ∉ shim.appliedRecords)
    (due : migration.version = shim.expectedVersion ∨ shim.currentVersion = 0)
    {fits : migration.version < 2 ^ 32} (keeps : KeepsOrder shim (.apply migration fits now)) :
    Contiguous (shim.record migration now) := by
  obtain ⟨afterZero, afterMax⟩ := keeps
  rcases contiguous with ⟨empty, zero⟩ | ⟨low, bound, recorded⟩
  · right
    refine ⟨migration.version, Nat.le_refl _, fun version => ?_⟩
    rw [mem_record]
    simp only [empty, Std.ExtTreeMap.not_mem_empty, or_false, MigrationShim.record]
    omega
  · have latest : shim.currentVersion ∈ shim.appliedRecords :=
      (recorded _).mpr ⟨bound, Nat.le_refl _⟩
    have successor : migration.version = shim.currentVersion + 1 := by
      rcases due with expected | zero
      · rw [MigrationShim.expectedVersion] at expected
        by_cases full : shim.currentVersion = 2 ^ 32 - 1
        · have wrapped : migration.version = 0 := by omega
          exact absurd ⟨full, wrapped ▸ fresh, wrapped⟩ afterMax
        · omega
      · have held : 0 ∈ shim.appliedRecords := zero ▸ latest
        have early : migration.version < 2 := by
          by_contra late
          exact afterZero ⟨zero, held, by omega⟩
        have other : migration.version ≠ 0 := fun same => fresh (same ▸ held)
        omega
    right
    refine ⟨low, ?_, fun version => ?_⟩
    · simp only [MigrationShim.record]
      omega
    · rw [mem_record, recorded version]
      simp only [MigrationShim.record]
      omega

theorem Versioned.kept (versioned : Versioned shim) (keeps : KeepsOrder shim call) :
    Versioned (shim.call call) := by
  obtain ⟨contiguous, bounded⟩ := versioned
  cases call with
  | rollback =>
      exact ⟨contiguous.rollback,
        Nat.lt_of_le_of_lt (currentVersion_rollback ⟨contiguous, bounded⟩) bounded⟩
  | apply migration fits now =>
      simp only [MigrationShim.call, applyMigration_eq]
      split
      · rename_i accepted
        exact ⟨contiguous.record bounded accepted.1 accepted.2 keeps, fits⟩
      · exact ⟨contiguous, bounded⟩

/-- A later version right after version 0 leaves a gap. -/
theorem not_contiguous_afterZero (now : Int) (contiguous : Contiguous shim) (zero : shim.currentVersion = 0)
    (held : 0 ∈ shim.appliedRecords) (late : 2 ≤ migration.version) :
    migration.version ∉ shim.appliedRecords ∧ ¬ Contiguous (shim.record migration now) := by
  rcases contiguous with ⟨empty, _⟩ | ⟨low, _, recorded⟩
  · simp [empty] at held
  · refine ⟨fun member => ?_, fun after => ?_⟩
    · have bounds := (recorded _).mp member
      omega
    · have first : 0 ∈ (shim.record migration now).appliedRecords := mem_record.mpr (.inr held)
      rcases after with ⟨empty, _⟩ | ⟨start, _, interval⟩
      · simp [empty] at first
      · have bounds := (interval 0).mp first
        have current : (shim.record migration now).currentVersion = migration.version := rfl
        have second := (interval 1).mpr (by omega)
        rcases mem_record.mp second with same | member
        · omega
        · have outside := (recorded 1).mp member
          omega

/-- Version 0 after the greatest version becomes the current one below it. -/
theorem not_contiguous_afterMax (contiguous : Contiguous shim)
    (full : shim.currentVersion = 2 ^ 32 - 1) (wrapped : migration.version = 0) :
    ¬ Contiguous (shim.record migration now) := by
  rcases contiguous with ⟨_, zero⟩ | ⟨low, bound, recorded⟩
  · omega
  · have latest : shim.currentVersion ∈ shim.appliedRecords :=
      (recorded _).mpr ⟨bound, Nat.le_refl _⟩
    have held : shim.currentVersion ∈ (shim.record migration now).appliedRecords :=
      mem_record.mpr (.inr latest)
    have current : (shim.record migration now).currentVersion = 0 := wrapped
    rintro (⟨empty, _⟩ | ⟨start, _, interval⟩)
    · simp [empty] at held
    · have bounds := (interval _).mp held
      omega

theorem Versioned.not_contiguous (versioned : Versioned shim) (breaks : ¬ KeepsOrder shim call) :
    ¬ Contiguous (shim.call call) := by
  obtain ⟨contiguous, bounded⟩ := versioned
  cases call with
  | rollback => exact absurd trivial breaks
  | apply migration fits now =>
      rw [KeepsOrder, not_and_or, not_not, not_not] at breaks
      simp only [MigrationShim.call, applyMigration_eq]
      rcases breaks with ⟨zero, held, late⟩ | ⟨full, absent, wrapped⟩
      · obtain ⟨fresh, gap⟩ := not_contiguous_afterZero now contiguous zero held late
        rw [if_pos ⟨fresh, .inr zero⟩]
        exact gap
      · have due : migration.version = shim.expectedVersion := by
          rw [wrapped, MigrationShim.expectedVersion, full]
          decide
        rw [if_pos ⟨wrapped ▸ absent, .inl due⟩]
        exact not_contiguous_afterMax contiguous full wrapped

/-- The recorded versions stay an interval that ends with the current one if and
only if no call applies a version beyond 1 right after version 0, or version 0
after the greatest one. -/
theorem always_contiguous_iff (dbHost database : String) (autoMigrate : Bool) (labels : List Call) :
    calls.Always Contiguous (.new dbHost database autoMigrate) labels ↔
      calls.Along KeepsOrder (.new dbHost database autoMigrate) labels := by
  have start : Versioned (.new dbHost database autoMigrate) :=
    ⟨.inl ⟨rfl, rfl⟩, Nat.two_pow_pos 32⟩
  apply Machine.always_ofFunction_iff_along Versioned (fun shim versioned => versioned.contiguous)
    ?_ ?_ start
  · intro shim call versioned keeps
    exact versioned.kept keeps
  · intro shim call versioned breaks
    exact versioned.not_contiguous breaks

def numbered (version : Nat) : Migration where
  version := version
  name := "m"
  upSql := "SELECT 1"
  downSql := none
  checksum := ""

/-- Versions 0 and 7 are both accepted. -/
theorem not_always_contiguous : ¬ calls.Always Contiguous (.new "" "" false)
    [.apply (numbered 0) (by decide) 0, .apply (numbered 7) (by decide) 0] := by
  intro always
  rcases always.last rfl with ⟨_, zero⟩ | ⟨low, _, recorded⟩
  · exact absurd zero (by decide)
  · have first := (recorded 0).mp (by decide)
    have gap := (recorded 1).mpr ⟨by omega, by decide⟩
    exact absurd gap (by decide)

end Evergreen.Migration
