import Evergreen.Settings.Load
import Evergreen.Text.SocketAddr

namespace Evergreen.Settings

/-! # Validating the configuration

`Config::validate` goes through the sections in order and returns every
violation.  `Valid` says what a configuration without violations is.
-/

structure ConfigValidationError where
  field : String
  message : String
deriving DecidableEq, Repr

def ConfigValidationError.display (error : ConfigValidationError) : String :=
  error.field ++ ": " ++ error.message

def validationEnabled (env : Env) : Bool :=
  match env "SHIM_VALIDATE_CONFIG" with
  | some val => val ∉ ["0", "false", "False", "FALSE"]
  | none => true

def supportedVersions : List String := ["1.0"]

/-- `{:?}` of a slice of plain strings. -/
def debugStrings (texts : List String) : String :=
  "[" ++ ", ".intercalate (texts.map fun text => "\"" ++ text ++ "\"") ++ "]"

/-- What `validate` asks of other crates, of the file system and of `f64`. -/
structure Checks (Percent : Type) where
  isHttpsUrl : String → Bool
  parseSchedule : String → Except String Unit
  pathExists : String → Bool
  inPercentRange : Percent → Bool
  showPercent : Percent → String

def require (holds : Bool) (field message : String) : List ConfigValidationError :=
  if holds then [] else [⟨field, message⟩]

def requirePositive (field : String) (value : Nat) : List ConfigValidationError :=
  require (value ≠ 0) field "must be greater than 0"

def tenantField (index : Nat) (field : String) : String :=
  "tenants[" ++ toString index ++ "]." ++ field

namespace Config

variable {Percent : Type} (checks : Checks Percent) (config : Config Percent)

def validateVersion : List ConfigValidationError :=
  match config.version with
  | some version => require (version ∈ supportedVersions) "version"
      ("unknown config version '" ++ version ++ "'; supported versions: " ++
        debugStrings supportedVersions)
  | none => []

def validateHealth : List ConfigValidationError :=
  require (Text.isSocketAddr config.health.listen) "health.listen"
    ("'" ++ config.health.listen ++
      "' is not a valid socket address (expected e.g. 0.0.0.0:9101)") ++
  requirePositive "health.interval_secs" config.health.intervalSecs ++
  requirePositive "health.timeout_secs" config.health.timeoutSecs

def validateVault : List ConfigValidationError :=
  match config.vault with
  | some vault =>
      require (checks.isHttpsUrl vault.addr) "vault.addr"
        ("'" ++ vault.addr ++ "' is not a valid URL (must be https:// without credentials)") ++
      requirePositive "vault.rotation_secs" vault.rotationSecs
  | none => []

/-- An empty schedule is not parsed. -/
def validateSchedule (schedule : String) : List ConfigValidationError :=
  if schedule = "" then []
  else match checks.parseSchedule schedule with
    | .ok _ => []
    | .error error => [⟨"backup.schedule", "cron parse error: " ++ error⟩]

def validateBackup : List ConfigValidationError :=
  match config.backup with
  | some backup =>
      requirePositive "backup.retention_days" backup.retentionDays ++
      validateSchedule checks backup.schedule
  | none => []

def validateMigration : List ConfigValidationError :=
  match config.migration with
  | some migration =>
      require (checks.pathExists migration.dir) "migration.dir"
        ("directory '" ++ migration.dir ++ "' does not exist") ++
      requirePositive "migration.db_port" migration.dbPort
  | none => []

def validateTls : List ConfigValidationError :=
  match config.tls with
  | some tls =>
      require (tls.domain ≠ "") "tls.domain" "must not be empty" ++
      requirePositive "tls.renew_before_secs" tls.renewBeforeSecs
  | none => []

def validateFailover : List ConfigValidationError :=
  match config.failover with
  | some failover =>
      requirePositive "failover.check_interval_secs" failover.checkIntervalSecs ++
      requirePositive "failover.timeout_secs" failover.timeoutSecs ++
      requirePositive "failover.failure_threshold" failover.failureThreshold
  | none => []

def validateTenant (seen : List String) (index : Nat) (tenant : TenantConfig Percent) :
    List ConfigValidationError :=
  require (tenant.tenantId ≠ "") (tenantField index "tenant_id") "must not be empty" ++
  require (tenant.tenantId ∉ seen) (tenantField index "tenant_id")
    ("duplicate tenant_id '" ++ tenant.tenantId ++ "'") ++
  match tenant.maxCpuPercent with
  | some cpu => require (checks.inPercentRange cpu) (tenantField index "max_cpu_percent")
      (checks.showPercent cpu ++ " is not in range 0.0-100.0")
  | none => []

/-- The loop over the tenants with the ids seen so far. -/
def validateTenants (seen : List String) (index : Nat) :
    List (TenantConfig Percent) → List ConfigValidationError
  | [] => []
  | tenant :: rest =>
      validateTenant checks seen index tenant ++
        validateTenants (tenant.tenantId :: seen) (index + 1) rest

def validate : List ConfigValidationError :=
  config.validateVersion ++ config.validateHealth ++ config.validateVault checks ++
    config.validateBackup checks ++ config.validateMigration checks ++ config.validateTls ++
    config.validateFailover ++ validateTenants checks [] 0 config.tenants

end Config

variable {Percent : Type} {checks : Checks Percent} {config : Config Percent}

structure ValidTenant (checks : Checks Percent) (tenant : TenantConfig Percent) : Prop where
  tenantId : tenant.tenantId ≠ ""
  maxCpuPercent : ∀ cpu, tenant.maxCpuPercent = some cpu → checks.inPercentRange cpu = true

/-- A configuration in which validation finds nothing. -/
structure Valid (checks : Checks Percent) (config : Config Percent) : Prop where
  version : ∀ version, config.version = some version → version ∈ supportedVersions
  listen : Text.isSocketAddr config.health.listen = true
  intervalSecs : config.health.intervalSecs ≠ 0
  timeoutSecs : config.health.timeoutSecs ≠ 0
  vault : ∀ vault, config.vault = some vault →
    checks.isHttpsUrl vault.addr = true ∧ vault.rotationSecs ≠ 0
  backup : ∀ backup, config.backup = some backup → backup.retentionDays ≠ 0 ∧
    (backup.schedule ≠ "" → checks.parseSchedule backup.schedule = .ok ())
  migration : ∀ migration, config.migration = some migration →
    checks.pathExists migration.dir = true ∧ migration.dbPort ≠ 0
  tls : ∀ tls, config.tls = some tls → tls.domain ≠ "" ∧ tls.renewBeforeSecs ≠ 0
  failover : ∀ failover, config.failover = some failover → failover.checkIntervalSecs ≠ 0 ∧
    failover.timeoutSecs ≠ 0 ∧ failover.failureThreshold ≠ 0
  tenants : ∀ tenant ∈ config.tenants, ValidTenant checks tenant
  tenantIds : (config.tenants.map (·.tenantId)).Nodup

/-! ## No violation -/

@[simp] theorem require_eq_nil {holds : Bool} {field message : String} :
    require holds field message = [] ↔ holds = true := by
  simp only [require]
  split <;> simp [*]

@[simp] theorem requirePositive_eq_nil {field : String} {value : Nat} :
    requirePositive field value = [] ↔ value ≠ 0 := by
  simp [requirePositive]

@[simp] theorem validateSchedule_eq_nil {schedule : String} :
    Config.validateSchedule checks schedule = [] ↔
      (schedule ≠ "" → checks.parseSchedule schedule = .ok ()) := by
  simp only [Config.validateSchedule]
  split
  · simp [*]
  · cases parsed : checks.parseSchedule schedule with
    | ok => simp
    | error error => simp [*]

@[simp] theorem validateTenant_eq_nil {seen : List String} {index : Nat}
    {tenant : TenantConfig Percent} : Config.validateTenant checks seen index tenant = [] ↔
      ValidTenant checks tenant ∧ tenant.tenantId ∉ seen := by
  simp only [Config.validateTenant]
  rw [List.append_eq_nil_iff, List.append_eq_nil_iff]
  constructor
  · intro ⟨⟨named, fresh⟩, bounded⟩
    refine ⟨⟨by simpa using named, fun cpu limited => ?_⟩, by simpa using fresh⟩
    simpa [limited] using bounded
  · intro ⟨valid, fresh⟩
    refine ⟨⟨by simpa using valid.tenantId, by simpa using fresh⟩, ?_⟩
    split
    · simpa using valid.maxCpuPercent _ ‹_›
    · rfl

theorem validateTenants_eq_nil {tenants : List (TenantConfig Percent)} {seen : List String}
    {index : Nat} : Config.validateTenants checks seen index tenants = [] ↔
      (∀ tenant ∈ tenants, ValidTenant checks tenant ∧ tenant.tenantId ∉ seen) ∧
        (tenants.map (·.tenantId)).Nodup := by
  induction tenants generalizing seen index with
  | nil => simp [Config.validateTenants]
  | cons tenant rest ih =>
      rw [Config.validateTenants, List.append_eq_nil_iff, validateTenant_eq_nil, ih,
        List.forall_mem_cons, List.map_cons, List.nodup_cons]
      constructor
      · intro ⟨first, others, distinct⟩
        refine ⟨⟨first, fun other member => ?_⟩, fun again => ?_, distinct⟩
        · exact ⟨(others other member).1, fun old =>
            (others other member).2 (List.mem_cons_of_mem _ old)⟩
        · obtain ⟨other, member, same⟩ := List.mem_map.mp again
          exact (others other member).2 (by simp [same])
      · intro ⟨⟨first, others⟩, fresh, distinct⟩
        refine ⟨first, fun other member => ⟨(others other member).1, fun old => ?_⟩, distinct⟩
        rcases List.mem_cons.mp old with same | old
        · exact fresh (List.mem_map.mpr ⟨other, member, same⟩)
        · exact (others other member).2 old

/-! ## Section by section -/

theorem validateVersion_eq_nil : config.validateVersion = [] ↔
    ∀ version, config.version = some version → version ∈ supportedVersions := by
  simp only [Config.validateVersion]
  cases config.version with
  | none => simp
  | some version => simp

theorem validateHealth_eq_nil : config.validateHealth = [] ↔
    Text.isSocketAddr config.health.listen = true ∧ config.health.intervalSecs ≠ 0 ∧
      config.health.timeoutSecs ≠ 0 := by
  simp [Config.validateHealth]

theorem validateVault_eq_nil : config.validateVault checks = [] ↔
    ∀ vault, config.vault = some vault →
      checks.isHttpsUrl vault.addr = true ∧ vault.rotationSecs ≠ 0 := by
  simp only [Config.validateVault]
  cases config.vault with
  | none => simp
  | some vault => simp

theorem validateBackup_eq_nil : config.validateBackup checks = [] ↔
    ∀ backup, config.backup = some backup → backup.retentionDays ≠ 0 ∧
      (backup.schedule ≠ "" → checks.parseSchedule backup.schedule = .ok ()) := by
  simp only [Config.validateBackup]
  cases config.backup with
  | none => simp
  | some backup => simp

theorem validateMigration_eq_nil : config.validateMigration checks = [] ↔
    ∀ migration, config.migration = some migration →
      checks.pathExists migration.dir = true ∧ migration.dbPort ≠ 0 := by
  simp only [Config.validateMigration]
  cases config.migration with
  | none => simp
  | some migration => simp

theorem validateTls_eq_nil : config.validateTls = [] ↔
    ∀ tls, config.tls = some tls → tls.domain ≠ "" ∧ tls.renewBeforeSecs ≠ 0 := by
  simp only [Config.validateTls]
  cases config.tls with
  | none => simp
  | some tls => simp

theorem validateFailover_eq_nil : config.validateFailover = [] ↔
    ∀ failover, config.failover = some failover → failover.checkIntervalSecs ≠ 0 ∧
      failover.timeoutSecs ≠ 0 ∧ failover.failureThreshold ≠ 0 := by
  simp only [Config.validateFailover]
  cases config.failover with
  | none => simp
  | some failover => simp

theorem validate_eq_nil_iff : config.validate checks = [] ↔ Valid checks config := by
  simp only [Config.validate, List.append_eq_nil_iff, and_assoc, validateVersion_eq_nil,
    validateHealth_eq_nil, validateVault_eq_nil, validateBackup_eq_nil, validateMigration_eq_nil,
    validateTls_eq_nil, validateFailover_eq_nil, validateTenants_eq_nil]
  constructor
  · intro ⟨version, listen, interval, timeout, vault, backup, migration, tls, failover, tenants,
      distinct⟩
    exact ⟨version, listen, interval, timeout, vault, backup, migration, tls, failover,
      fun tenant member => (tenants tenant member).1, distinct⟩
  · intro ⟨version, listen, interval, timeout, vault, backup, migration, tls, failover, tenants,
      distinct⟩
    exact ⟨version, listen, interval, timeout, vault, backup, migration, tls, failover,
      fun tenant member => ⟨tenants tenant member, List.not_mem_nil⟩, distinct⟩

/-- Every default passes its own check. -/
theorem validate_default : ({} : Config Percent).validate checks = [] := by
  have listen : Text.isSocketAddr "0.0.0.0:9101" = true := by decide +kernel
  apply validate_eq_nil_iff.mpr
  constructor
  · simp [supportedVersions]
  · exact listen
  all_goals simp

end Evergreen.Settings
