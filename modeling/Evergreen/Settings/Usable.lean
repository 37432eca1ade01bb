import Evergreen.Settings.Validate
import Evergreen.Tenant.Isolator

namespace Evergreen.Settings

open Tenant (TenantIsolator Moment)

/-! # What the shims make of a validated configuration

`TenantIsolator::from_config` refuses an id that is not a slug, and
`tokio::time::interval` panics on a period of zero.  Validation asks neither of
the tenants' ids nor of the replication interval.
-/

/-- The part of the failover shim that `init` writes. -/
structure FailoverShim where
  primary : String
  replica : String
  checkIntervalSecs : Nat
  failureThreshold : Nat
  webhook : Option String
  dbType : String
  currentPrimary : String
deriving DecidableEq, Repr

/-- The part of the replication shim that `init` writes. -/
structure ReplicationShim where
  primary : String
  replicas : List String
  mode : String
  checkSecs : Nat
  dbType : String
  slotName : String
deriving DecidableEq, Repr

variable {Percent : Type}

namespace FailoverShim

def failoverErrors (errors : List ConfigValidationError) : List ConfigValidationError :=
  errors.filter fun error => Text.startsWith "failover." error.field

def init (env : Env) (checks : Checks Percent) (shim : FailoverShim) (config : Config Percent) :
    Except String FailoverShim :=
  let errors := failoverErrors (config.validate checks)
  if validationEnabled env ∧ errors ≠ [] then
    .error ("failover config validation failed: " ++
      "; ".intercalate (errors.map ConfigValidationError.display))
  else
    let shim := match config.failover with
      | some failover =>
          { shim with
            primary := failover.primary
            replica := failover.replica
            checkIntervalSecs := failover.checkIntervalSecs
            failureThreshold := failover.failureThreshold
            webhook := failover.webhook
            dbType := failover.dbType }
      | none => shim
    .ok { shim with currentPrimary := shim.primary }

/-- The period, in seconds, of the interval that `start` makes. -/
def period (shim : FailoverShim) : Nat := shim.checkIntervalSecs

end FailoverShim

namespace ReplicationShim

def init (shim : ReplicationShim) (config : Config Percent) : ReplicationShim :=
  match config.replication with
  | some replication =>
      { primary := replication.primary
        replicas := replication.replicas
        mode := replication.mode
        checkSecs := replication.checkIntervalSecs
        dbType := replication.dbType
        slotName := replication.slotName.getD shim.slotName }
  | none => shim

/-- The period, in seconds, of the interval that `start` makes. -/
def period (shim : ReplicationShim) : Nat := shim.checkSecs

/-- `new` with an empty environment. -/
def fresh : ReplicationShim where
  primary := ""
  replicas := []
  mode := "asynchronous"
  checkSecs := 10
  dbType := "postgres"
  slotName := "evergreen_shim"

end ReplicationShim

/-- 3 to 63 lowercase letters, digits and hyphens, no hyphen at either end. -/
structure IsSlug (tenantId : String) : Prop where
  lower : 3 ≤ tenantId.length
  upper : tenantId.length ≤ 63
  chars : ∀ char ∈ tenantId.toList, char.isLower ∨ char.isDigit ∨ char = '-'
  head : tenantId.toList.head? ≠ some '-'
  last : tenantId.toList.getLast? ≠ some '-'

/-- Every consumer can work with the configuration: the isolator is built, and
the intervals of the shims it configures can be made. -/
structure Usable [Zero Percent] (env : Env) (checks : Checks Percent) (accepts : String → Bool)
    (config : Config Percent) : Prop where
  isolator : ∀ moment : Moment,
    ∃ isolator, TenantIsolator.fromConfig moment accepts config = .ok isolator
  failover : config.failover.isSome → ∀ shim : FailoverShim,
    ∃ initialized, shim.init env checks config = .ok initialized ∧ initialized.period ≠ 0
  replication : config.replication.isSome → ∀ shim : ReplicationShim, (shim.init config).period ≠ 0

variable {config : Config Percent} {checks : Checks Percent} {accepts : String → Bool}

/-! ## The consumers one by one -/

namespace FailoverShim

@[simp] theorem failoverErrors_append (first second : List ConfigValidationError) :
    failoverErrors (first ++ second) = failoverErrors first ++ failoverErrors second :=
  List.filter_append first second

@[simp] theorem failoverErrors_require (holds : Bool) (field message : String) :
    failoverErrors (require holds field message) =
      if Text.startsWith "failover." field then require holds field message else [] := by
  simp only [require, failoverErrors]
  cases holds with
  | true => simp
  | false => simp [List.filter_cons]

@[simp] theorem failoverErrors_requirePositive (field : String) (value : Nat) :
    failoverErrors (requirePositive field value) =
      if Text.startsWith "failover." field then requirePositive field value else [] :=
  failoverErrors_require _ field _

theorem failoverErrors_validateSchedule (schedule : String) :
    failoverErrors (Config.validateSchedule checks schedule) = [] := by
  simp only [Config.validateSchedule]
  split
  · rfl
  · split
    · rfl
    · simp [failoverErrors, Text.startsWith, List.isPrefixOf]

theorem startsWith_tenantField (index : Nat) (field : String) :
    Text.startsWith "failover." (tenantField index field) = false := by
  simp [Text.startsWith, tenantField, List.isPrefixOf]

theorem failoverErrors_validateTenants (seen : List String) (index : Nat)
    (tenants : List (TenantConfig Percent)) :
    failoverErrors (Config.validateTenants checks seen index tenants) = [] := by
  induction tenants generalizing seen index with
  | nil => rfl
  | cons tenant rest ih =>
      rw [Config.validateTenants, failoverErrors_append, ih, Config.validateTenant]
      simp only [failoverErrors_append, failoverErrors_require, startsWith_tenantField]
      cases tenant.maxCpuPercent with
      | none => rfl
      | some cpu => simp [startsWith_tenantField]

theorem failoverErrors_validate : failoverErrors (config.validate checks) = config.validateFailover := by
  have version : failoverErrors config.validateVersion = [] := by
    simp only [Config.validateVersion]
    cases config.version with
    | none => rfl
    | some version => exact failoverErrors_require _ "version" _
  have health : failoverErrors config.validateHealth = [] := by
    simp [Config.validateHealth, Text.startsWith, List.isPrefixOf]
  have vault : failoverErrors (config.validateVault checks) = [] := by
    simp only [Config.validateVault]
    cases config.vault with
    | none => rfl
    | some vault => simp [Text.startsWith, List.isPrefixOf]
  have backup : failoverErrors (config.validateBackup checks) = [] := by
    simp only [Config.validateBackup]
    cases config.backup with
    | none => rfl
    | some backup => simp [failoverErrors_validateSchedule, Text.startsWith, List.isPrefixOf]
  have migration : failoverErrors (config.validateMigration checks) = [] := by
    simp only [Config.validateMigration]
    cases config.migration with
    | none => rfl
    | some migration => simp [Text.startsWith, List.isPrefixOf]
  have tls : failoverErrors config.validateTls = [] := by
    simp only [Config.validateTls]
    cases config.tls with
    | none => rfl
    | some tls => simp [Text.startsWith, List.isPrefixOf]
  have failover : failoverErrors config.validateFailover = config.validateFailover := by
    simp only [Config.validateFailover]
    cases config.failover with
    | none => rfl
    | some failover => simp [Text.startsWith, List.isPrefixOf]
  simp [Config.validate, version, health, vault, backup, migration, tls, failover,
    failoverErrors_validateTenants]

theorem init_isOk_iff {env : Env} {shim : FailoverShim} :
    (∃ initialized, shim.init env checks config = .ok initialized) ↔
      (validationEnabled env = true → config.validateFailover = []) := by
  simp only [init, failoverErrors_validate]
  split
  · rename_i rejected
    simp [rejected.1, rejected.2]
  · rename_i accepted
    simpa using accepted

end FailoverShim

theorem addTenants_ok_iff [Zero Percent] {moment : Moment} {tenants : List (TenantConfig Percent)}
    {isolator : TenantIsolator Percent} :
    (∃ loaded, tenants.foldlM (fun isolator tenant =>
      TenantIsolator.addTenant isolator moment accepts tenant) isolator = .ok loaded) ↔
      ∀ tenant ∈ tenants, accepts tenant.tenantId = true := by
  induction tenants generalizing isolator with
  | nil => exact ⟨fun _ => by simp, fun _ => ⟨isolator, rfl⟩⟩
  | cons tenant rest ih =>
      rw [List.forall_mem_cons]
      by_cases accepted : accepts tenant.tenantId = true
      · simp only [List.foldlM_cons, TenantIsolator.addTenant, accepted, if_true, true_and]
        exact ih
      · refine iff_of_false ?_ fun all => accepted all.1
        intro ⟨loaded, added⟩
        simp only [List.foldlM_cons, TenantIsolator.addTenant, accepted] at added
        cases added

theorem fromConfig_ok_iff [Zero Percent] {moment : Moment} :
    (∃ isolator, TenantIsolator.fromConfig moment accepts config = .ok isolator) ↔
      ∀ tenant ∈ config.tenants, accepts tenant.tenantId = true := by
  have added : (∃ loaded, config.tenants.foldlM (fun isolator tenant =>
      TenantIsolator.addTenant isolator moment accepts tenant) TenantIsolator.new = .ok loaded) ↔
      ∀ tenant ∈ config.tenants, accepts tenant.tenantId = true := addTenants_ok_iff
  simp only [TenantIsolator.fromConfig]
  rw [← added]
  constructor
  · intro ⟨isolator, built⟩
    cases loaded : config.tenants.foldlM (fun isolator tenant =>
        TenantIsolator.addTenant isolator moment accepts tenant) TenantIsolator.new with
    | error error =>
        rw [loaded] at built
        cases built
    | ok isolator => exact ⟨isolator, rfl⟩
  · intro ⟨loaded, built⟩
    exact ⟨{ loaded with globalEnabled := !config.tenants.isEmpty }, by rw [built]; rfl⟩

theorem ReplicationShim.period_init {replication : ReplicationConfig} (shim : ReplicationShim)
    (configured : config.replication = some replication) :
    (shim.init config).period = replication.checkIntervalSecs := by
  simp only [ReplicationShim.init, configured, ReplicationShim.period]

theorem FailoverShim.init_valid {failover : FailoverConfig} (shim : FailoverShim) (env : Env)
    (validated : config.validate checks = []) (configured : config.failover = some failover) :
    ∃ initialized, shim.init env checks config = .ok initialized ∧
      initialized.period = failover.checkIntervalSecs := by
  simp [FailoverShim.init, validated, configured, FailoverShim.failoverErrors, FailoverShim.period]

theorem usable_iff [Zero Percent] (env : Env) (checks : Checks Percent) (accepts : String → Bool)
    (slugs : ∀ tenantId, accepts tenantId = true ↔ IsSlug tenantId) (config : Config Percent)
    (validated : config.validate checks = []) :
    Usable env checks accepts config ↔
      (∀ tenant ∈ config.tenants, IsSlug tenant.tenantId) ∧
      ∀ replication, config.replication = some replication → replication.checkIntervalSecs ≠ 0 := by
  have valid := validate_eq_nil_iff.mp validated
  constructor
  · intro usable
    constructor
    · intro tenant member
      have accepted := fromConfig_ok_iff.mp (usable.isolator ⟨0, ""⟩) tenant member
      exact (slugs tenant.tenantId).mp accepted
    · intro replication configured
      rw [← ReplicationShim.period_init .fresh configured]
      exact usable.replication (by simp [configured]) .fresh
  · intro ⟨ids, replicationPeriod⟩
    constructor
    · intro moment
      exact fromConfig_ok_iff.mpr fun tenant member => (slugs tenant.tenantId).mpr (ids tenant member)
    · intro isSome shim
      obtain ⟨failover, configured⟩ := Option.isSome_iff_exists.mp isSome
      obtain ⟨initialized, ok, period⟩ := shim.init_valid env validated configured
      exact ⟨initialized, ok, period ▸ (valid.failover failover configured).1⟩
    · intro isSome shim
      obtain ⟨replication, configured⟩ := Option.isSome_iff_exists.mp isSome
      rw [shim.period_init configured]
      exact replicationPeriod replication configured

/-- Accepts the sample configurations' values. -/
def sampleChecks : Checks Nat where
  isHttpsUrl := fun addr => addr = "https://vault"
  parseSchedule := fun schedule => if schedule = "0 0 2 * * *" then .ok () else .error "bad"
  pathExists := fun dir => dir = "migrations"
  inPercentRange := fun percent => percent ≤ 100
  showPercent := toString

instance (tenantId : String) : Decidable (IsSlug tenantId) :=
  decidable_of_iff (3 ≤ tenantId.length ∧ tenantId.length ≤ 63 ∧
      (tenantId.toList.all fun char => char.isLower || (char.isDigit || char = '-')) ∧
      tenantId.toList.head? ≠ some '-' ∧ tenantId.toList.getLast? ≠ some '-')
    ⟨fun ⟨lower, upper, chars, head, last⟩ => ⟨lower, upper, by simpa using chars, head, last⟩,
      fun slug => ⟨slug.lower, slug.upper, by simpa using slug.chars, slug.head, slug.last⟩⟩

/-- One tenant and a replication that is checked every so many seconds. -/
def replicated (tenantId : String) (checkIntervalSecs : Nat) : Config Nat where
  replication := some { primary := "db-a:5432", checkIntervalSecs }
  tenants := [{ tenantId }]

theorem usable_replicated : Usable (fun _ => none) sampleChecks (fun tenantId => IsSlug tenantId)
    (replicated "acme-1" 10) := by
  apply (usable_iff _ _ _ (by simp) _ (by decide +kernel)).mpr
  have slug : IsSlug "acme-1" := by decide +kernel
  refine ⟨fun tenant member => ?_, fun replication configured => ?_⟩
  · rw [List.mem_singleton.mp member]
    exact slug
  · cases configured
    decide

/-- Neither the id nor the period passes a check, and validation finds nothing. -/
theorem valid_not_usable : (replicated "Acme" 0).validate sampleChecks = [] ∧
    ¬ Usable (fun _ => none) sampleChecks (fun tenantId => IsSlug tenantId)
      (replicated "Acme" 0) := by
  refine ⟨by decide +kernel, fun usable => ?_⟩
  exact usable.replication rfl .fresh rfl

end Evergreen.Settings
