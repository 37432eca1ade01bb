import Evergreen.Migration.DryRun
import Mathlib.Data.List.Induction

set_option linter.dupNamespace false

namespace Evergreen.Migration

/-! # Predicting the pending migrations

Every dry run of `dry_run_all_pending` is made against the state of now, while
the migrations before it in the list would change that state.
-/

def registerMigration (pendingMigrations : List Migration) (migration : Migration) : List Migration :=
  (pendingMigrations ++ [migration]).insertionSort fun first second => first.version ≤ second.version

namespace MigrationShim

variable (shim : MigrationShim) (rfc3339 : Int → String) (now : Migration → Int)
variable (pendingMigrations : List Migration)

def dryRunAllPending : List DryRunResult :=
  pendingMigrations.filterMap fun migration => (shim.dryRunMigration rfc3339 migration).toOption

/-- The registered migrations that `dry_run_all_pending` reports as `would_apply`. -/
def reported : List Migration :=
  ((pendingMigrations.zip (shim.dryRunAllPending rfc3339 pendingMigrations)).filter
    fun entry => entry.2.wouldApply).map Prod.fst

def pending : List Migration :=
  pendingMigrations.filter fun migration => !shim.appliedRecords.contains migration.version

end MigrationShim

/-- The migrations that are accepted, in order, before the first that is not. -/
def MigrationShim.applyInOrder (now : Migration → Int) (shim : MigrationShim) :
    List Migration → List Migration
  | [] => []
  | migration :: rest =>
      match shim.applyMigration migration (now migration) with
      | (_, .error _) => []
      | (shim, .ok ()) => migration :: shim.applyInOrder now rest

namespace MigrationShim

variable (shim : MigrationShim)

/-- The migration follows on those before it, which follow on what is applied. -/
def Joins (before : List Migration) (migration : Migration) : Prop :=
  let current := (before.getLast?.map (·.version)).getD shim.currentVersion
  migration.version ∉ shim.appliedRecords ∧ migration.version ∉ before.map (·.version) ∧
    (migration.version = (current + 1) % 2 ^ 32 ∨ current = 0)

/-- The first part of the pending list goes on from what is applied, each
migration from the one before it; and all of it is due now, but nothing after it
is, unless it is blank. -/
structure Foretold (accepted rest : List Migration) : Prop where
  joins : ∀ before migration after, before ++ migration :: after = accepted →
    shim.Joins before migration
  stops : ∀ next ∈ rest.head?, ¬ shim.Joins accepted next
  due : ∀ migration ∈ accepted, shim.Due migration ∧ migration.isBlank = false
  idle : ∀ migration ∈ rest, shim.Due migration → migration.isBlank = true

end MigrationShim

variable {shim : MigrationShim} {rfc3339 : Int → String} {now : Migration → Int}
variable {pendingMigrations before accepted rest : List Migration} {migration : Migration}

/-! ## What is reported -/

theorem dryRunMigration_returns (shim : MigrationShim) (migration : Migration) :
    ∃ result, shim.dryRunMigration rfc3339 migration = .ok result := by
  unfold MigrationShim.dryRunMigration
  dsimp only
  split
  · exact ⟨_, rfl⟩
  · split
    · exact ⟨_, rfl⟩
    · split
      · exact ⟨_, rfl⟩
      · split <;> exact ⟨_, rfl⟩

def MigrationShim.foresees (shim : MigrationShim) (rfc3339 : Int → String) (migration : Migration) :
    Bool :=
  (shim.dryRunMigration rfc3339 migration).map (·.wouldApply) = .ok true

theorem foresees_iff : shim.foresees rfc3339 migration = true ↔
    shim.Due migration ∧ migration.isBlank = false :=
  decide_eq_true_iff.trans dryRunMigration_wouldApply

theorem reported_eq : shim.reported rfc3339 pendingMigrations =
    pendingMigrations.filter (shim.foresees rfc3339) := by
  induction pendingMigrations with
  | nil => rfl
  | cons migration rest ih =>
      obtain ⟨result, returned⟩ := @dryRunMigration_returns rfc3339 shim migration
      have all : shim.dryRunAllPending rfc3339 (migration :: rest) =
          result :: shim.dryRunAllPending rfc3339 rest := by
        simp [MigrationShim.dryRunAllPending, returned, Except.toOption]
      have foreseen : shim.foresees rfc3339 migration = result.wouldApply := by
        simp [MigrationShim.foresees, returned, Except.map]
      rw [MigrationShim.reported, all, List.filter_cons, foreseen, ← ih]
      cases wouldApply : result.wouldApply with
      | false => simp [MigrationShim.reported, wouldApply]
      | true => simp [MigrationShim.reported, wouldApply]

theorem reported_pending : shim.reported rfc3339 pendingMigrations =
    (shim.pending pendingMigrations).filter (shim.foresees rfc3339) := by
  rw [reported_eq, MigrationShim.pending, List.filter_filter]
  apply List.filter_congr
  intro migration _
  cases foreseen : shim.foresees rfc3339 migration with
  | false => rfl
  | true =>
      have absent : shim.appliedRecords.contains migration.version = false := by
        rw [← Bool.not_eq_true, Std.ExtTreeMap.contains_iff_mem]
        exact (foresees_iff.mp foreseen).1.1
      simp [absent]

/-! ## What is accepted -/

def MigrationShim.recordAll (shim : MigrationShim) (now : Migration → Int)
    (migrations : List Migration) : MigrationShim :=
  migrations.foldl (fun shim migration => shim.record migration (now migration)) shim

theorem recordAll_append : shim.recordAll now (before ++ [migration]) =
    (shim.recordAll now before).record migration (now migration) := by
  simp [MigrationShim.recordAll]

theorem mem_recordAll {version : Nat} : version ∈ (shim.recordAll now before).appliedRecords ↔
    version ∈ shim.appliedRecords ∨ version ∈ before.map (·.version) := by
  induction before using List.reverseRecOn with
  | nil => simp [MigrationShim.recordAll]
  | append_singleton before migration ih =>
      rw [recordAll_append, mem_record, ih]
      simp only [List.map_append, List.map_cons, List.map_nil, List.mem_append, List.mem_singleton]
      constructor
      · rintro (same | earlier | member)
        · exact .inr (.inr same.symm)
        · exact .inl earlier
        · exact .inr (.inl member)
      · rintro (earlier | member | same)
        · exact .inr (.inl earlier)
        · exact .inr (.inr member)
        · exact .inl same.symm

theorem currentVersion_recordAll : (shim.recordAll now before).currentVersion =
    (before.getLast?.map (·.version)).getD shim.currentVersion := by
  induction before using List.reverseRecOn with
  | nil => rfl
  | append_singleton before migration ih =>
      rw [recordAll_append, List.getLast?_concat]
      rfl

theorem due_recordAll (now : Migration → Int) :
    (shim.recordAll now before).Due migration ↔ shim.Joins before migration := by
  rw [MigrationShim.Due, MigrationShim.Joins, MigrationShim.expectedVersion, mem_recordAll, not_or,
    currentVersion_recordAll, and_assoc]

theorem applyInOrder_due (due : shim.Due migration) :
    shim.applyInOrder now (migration :: rest) =
      migration :: (shim.record migration (now migration)).applyInOrder now rest := by
  rw [MigrationShim.applyInOrder, MigrationShim.applyMigration, checkOrder_eq_ok.mpr due]

theorem applyInOrder_rejected (rejected : ¬ shim.Due migration) :
    shim.applyInOrder now (migration :: rest) = [] := by
  cases checked : shim.checkOrder migration with
  | ok => exact absurd (checkOrder_eq_ok.mp checked) rejected
  | error error => rw [MigrationShim.applyInOrder, MigrationShim.applyMigration, checked]

theorem joins_nil : shim.Joins [] migration ↔ shim.Due migration :=
  (@due_recordAll shim [] migration fun _ => 0).symm

theorem joins_cons (now : Migration → Int) {next : Migration} : shim.Joins (migration :: before) next ↔
    (shim.record migration (now migration)).Joins before next := by
  rw [← due_recordAll now, ← due_recordAll now]
  rfl

/-- The accepted part is where each migration joins those before it, as far as
that goes. -/
theorem applyInOrder_eq_iff (shim : MigrationShim) (now : Migration → Int)
    (accepted rest : List Migration) : shim.applyInOrder now (accepted ++ rest) = accepted ↔
    (∀ before migration after, before ++ migration :: after = accepted →
      shim.Joins before migration) ∧
    ∀ next ∈ rest.head?, ¬ shim.Joins accepted next := by
  induction accepted generalizing shim with
  | nil =>
      cases rest with
      | nil => simp [MigrationShim.applyInOrder]
      | cons next rest =>
          by_cases due : shim.Due next
          · simp [applyInOrder_due due, joins_nil, due]
          · simp [applyInOrder_rejected due, joins_nil, due]
  | cons migration accepted ih =>
      rw [List.cons_append]
      by_cases due : shim.Due migration
      · rw [applyInOrder_due due, List.cons_inj_right, ih]
        constructor
        · rintro ⟨joins, stops⟩
          refine ⟨fun before later after split => ?_, fun next first joined => ?_⟩
          · cases before with
            | nil =>
                obtain ⟨rfl, rfl⟩ := List.cons.inj split
                exact joins_nil.mpr due
            | cons first before =>
                obtain ⟨rfl, continued⟩ := List.cons.inj split
                exact (joins_cons now).mpr (joins before later after continued)
          · exact stops next first ((joins_cons now).mp joined)
        · rintro ⟨joins, stops⟩
          refine ⟨fun before later after split => ?_, fun next first joined => ?_⟩
          · exact (joins_cons now).mp (joins (migration :: before) later after (congrArg _ split))
          · exact stops next first ((joins_cons now).mpr joined)
      · rw [applyInOrder_rejected due]
        refine iff_of_false (fun empty => by cases empty) fun holds => ?_
        exact due (joins_nil.mp (holds.1 [] migration accepted rfl))

theorem applyInOrder_prefix (shim : MigrationShim) (now : Migration → Int)
    (migrations : List Migration) : shim.applyInOrder now migrations <+: migrations := by
  induction migrations generalizing shim with
  | nil => exact List.prefix_rfl
  | cons migration rest ih =>
      by_cases due : shim.Due migration
      · rw [applyInOrder_due due, List.prefix_cons_inj]
        exact ih _
      · rw [applyInOrder_rejected due]
        exact List.nil_prefix

theorem filter_foresees_iff (shim : MigrationShim) (rfc3339 : Int → String)
    (accepted rest : List Migration) :
    (accepted ++ rest).filter (shim.foresees rfc3339) = accepted ↔
    (∀ migration ∈ accepted, shim.Due migration ∧ migration.isBlank = false) ∧
    ∀ migration ∈ rest, shim.Due migration → migration.isBlank = true := by
  rw [List.filter_append]
  constructor
  · intro same
    have all : ∀ migration ∈ accepted, shim.foresees rfc3339 migration = true := by
      intro migration member
      rw [← same, ← List.filter_append] at member
      exact (List.mem_filter.mp member).2
    rw [List.filter_eq_self.mpr all, List.append_right_eq_self, List.filter_eq_nil_iff] at same
    refine ⟨fun migration member => foresees_iff.mp (all migration member), ?_⟩
    intro migration member due
    by_contra written
    rw [Bool.not_eq_true] at written
    exact same migration member (foresees_iff.mpr ⟨due, written⟩)
  · rintro ⟨due, idle⟩
    have all : accepted.filter (shim.foresees rfc3339) = accepted :=
      List.filter_eq_self.mpr fun migration member => foresees_iff.mpr (due migration member)
    have none : rest.filter (shim.foresees rfc3339) = [] := by
      apply List.filter_eq_nil_iff.mpr
      intro migration member foreseen
      obtain ⟨due, written⟩ := foresees_iff.mp foreseen
      rw [idle migration member due] at written
      cases written
    rw [all, none, List.append_nil]

/-- The reports are what a run in order would accept exactly when the run takes
what is due now, and nothing else. -/
theorem reported_eq_applyInOrder_iff (shim : MigrationShim) (rfc3339 : Int → String)
    (now : Migration → Int) (pendingMigrations : List Migration) :
    shim.reported rfc3339 pendingMigrations =
        shim.applyInOrder now (shim.pending pendingMigrations) ↔
      ∃ accepted rest, accepted ++ rest = shim.pending pendingMigrations ∧
        shim.Foretold accepted rest := by
  rw [reported_pending]
  constructor
  · intro same
    obtain ⟨rest, split⟩ := applyInOrder_prefix shim now (shim.pending pendingMigrations)
    have taken := applyInOrder_eq_iff shim now
      (shim.applyInOrder now (shim.pending pendingMigrations)) rest
    have foreseen := filter_foresees_iff shim rfc3339
      (shim.applyInOrder now (shim.pending pendingMigrations)) rest
    rw [split] at taken foreseen
    obtain ⟨joins, stops⟩ := taken.mp rfl
    obtain ⟨due, idle⟩ := foreseen.mp same
    exact ⟨_, rest, split, joins, stops, due, idle⟩
  · rintro ⟨accepted, rest, split, joins, stops, due, idle⟩
    rw [← split, (applyInOrder_eq_iff shim now accepted rest).mpr ⟨joins, stops⟩,
      (filter_foresees_iff shim rfc3339 accepted rest).mpr ⟨due, idle⟩]

def firstApplied : MigrationShim :=
  (MigrationShim.applyMigration (.new "" "" false) (numbered 1) 0).1

/-- With version 1 applied, version 3 is not due; after version 2 it would be. -/
theorem reported_disagrees :
    ¬ ∀ migrations : List Migration,
      firstApplied.reported toString (migrations.foldl registerMigration []) =
        firstApplied.applyInOrder (fun _ => 0)
          (firstApplied.pending (migrations.foldl registerMigration [])) := by
  intro agrees
  exact absurd (agrees [numbered 2, numbered 3]) (by decide)

end Evergreen.Migration
