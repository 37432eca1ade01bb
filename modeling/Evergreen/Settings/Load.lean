import Evergreen.Text.Parse

namespace Evergreen.Settings

/-! # Loading the configuration

`Config::load`: the file is the base and the environment overrides it.  The
type of the percentages and its parser are parameters, the code's are `f64`.
-/

/-- `std::env::var(..).ok()`. -/
abbrev Env := String → Option String

structure HealthConfig where
  livenessCmd : String := "exec:true"
  readinessCmd : String := "exec:true"
  listen : String := "0.0.0.0:9101"
  intervalSecs : Nat := 10
  timeoutSecs : Nat := 5
deriving DecidableEq, Repr

structure VaultConfig where
  addr : String
  role : String
  secret : String
  rotationSecs : Nat := 3600
deriving DecidableEq, Repr

structure BackupConfig where
  schedule : String
  storage : String := ""
  retentionDays : Nat := 30
  database : String := ""
  backupPrefix : String := ""
deriving DecidableEq, Repr

structure MigrationConfig where
  dir : String
  database : String
  autoMigrate : Bool := false
  dbHost : String := "127.0.0.1"
  dbPort : Nat := 5432
  dbUser : String := "postgres"
  dbPassword : String := ""
  dbType : String := "postgres"
deriving DecidableEq, Repr

structure AuditConfig where
  database : String
  tables : List String := []
  format : String := "json"
deriving DecidableEq, Repr

structure TlsConfig where
  provider : String
  domain : String
  email : String := ""
  renewBeforeSecs : Nat := 72 * 3600
deriving DecidableEq, Repr

structure FailoverConfig where
  primary : String
  replica : String
  checkIntervalSecs : Nat := 5
  timeoutSecs : Nat := 10
  failureThreshold : Nat := 3
  webhook : Option String := none
  dbType : String := "postgres"
deriving DecidableEq, Repr

structure ReplicationConfig where
  primary : String
  replicas : List String := []
  mode : String := "asynchronous"
  checkIntervalSecs : Nat := 10
  dbType : String := "postgres"
  slotName : Option String := none
deriving DecidableEq, Repr

structure ProcessConfig where
  command : String := ""
  args : List String := []
  workingDir : Option String := none
  shutdownTimeoutSecs : Nat := 30
  startupGraceSecs : Nat := 5
deriving DecidableEq, Repr

structure ResourceQuota (Percent : Type) where
  maxMemoryBytes : Option Nat := none
  maxCpuPercent : Option Percent := none
  maxOpenFiles : Option Nat := none
  maxConnections : Option Nat := none
deriving DecidableEq, Repr

structure TenantConfig (Percent : Type) where
  tenantId : String
  maxMemoryBytes : Option Nat := none
  maxCpuPercent : Option Percent := none
  maxRequestsPerSec : Option Nat := none
  allowedFeatures : List String := []
  quotaConfig : ResourceQuota Percent := {}
  resetPeriodSecs : Nat := 1
deriving DecidableEq, Repr

structure Config (Percent : Type) where
  version : Option String := some "1.0"
  health : HealthConfig := {}
  vault : Option VaultConfig := none
  backup : Option BackupConfig := none
  migration : Option MigrationConfig := none
  audit : Option AuditConfig := none
  tls : Option TlsConfig := none
  failover : Option FailoverConfig := none
  replication : Option ReplicationConfig := none
  process : ProcessConfig := {}
  resourceQuota : ResourceQuota Percent := {}
  tenants : List (TenantConfig Percent) := []
deriving DecidableEq, Repr

/-- The value a variable stands for: what it parses to, and `fallback` when it
is not set or does not parse. -/
def override {Value : Type} (env : Env) (name : String) (parse : String → Option Value)
    (fallback : Value) : Value :=
  match env name with
  | some text => (parse text).getD fallback
  | none => fallback

/-- The test `merge` makes: is the variable there at all? -/
def ifSet {Value : Type} (env : Env) (name : String) (other own : Value) : Value :=
  if (env name).isSome then other else own

namespace Config

variable {Percent : Type} (parsePercent : String → Option Percent) (env : Env)

def tenantFromEnv (tenantId : String) : TenantConfig Percent where
  tenantId := tenantId
  maxMemoryBytes := override env "SHIM_TENANT_MAX_MEMORY" (fun text => (Text.parseU64 text).map some) none
  maxCpuPercent := override env "SHIM_TENANT_MAX_CPU" (fun text => (parsePercent text).map some) none

def fromEnv : Config Percent where
  health := {
    livenessCmd := override env "HEALTH_CMD" some "exec:true"
    readinessCmd := override env "HEALTH_CMD" some "exec:true"
    listen := override env "HEALTH_LISTEN" some "0.0.0.0:9101"
    intervalSecs := override env "HEALTH_INTERVAL_SECS" Text.parseU64 10 }
  process := {
    command := override env "PROCESS_COMMAND" some ""
    args := override env "PROCESS_ARGS" (fun text => some (Text.splitWhitespace text)) [] }
  resourceQuota := {
    maxMemoryBytes :=
      override env "SHIM_MAX_MEMORY_BYTES" (fun text => (Text.parseU64 text).map some) none
    maxCpuPercent :=
      override env "SHIM_MAX_CPU_PERCENT" (fun text => (parsePercent text).map some) none
    maxOpenFiles :=
      override env "SHIM_MAX_OPEN_FILES" (fun text => (Text.parseU32 text).map some) none }
  tenants := match env "SHIM_TENANT_ID" with
    | some tenantId => [tenantFromEnv parsePercent env tenantId]
    | none => []

/-- The tenants of `other` replace those of the same id. -/
def mergeTenants (own other : List (TenantConfig Percent)) : List (TenantConfig Percent) :=
  if (env "SHIM_TENANT_ID").isSome then
    other.foldl (fun tenants tenant =>
      tenants.filter (·.tenantId ≠ tenant.tenantId) ++ [tenant]) own
  else if other ≠ [] ∧ own = [] then other else own

def merge (own other : Config Percent) : Config Percent :=
  { own with
    health := {
      livenessCmd := ifSet env "HEALTH_CMD" other.health.livenessCmd own.health.livenessCmd
      readinessCmd := ifSet env "HEALTH_CMD" other.health.readinessCmd own.health.readinessCmd
      listen := ifSet env "HEALTH_LISTEN" other.health.listen own.health.listen
      intervalSecs :=
        ifSet env "HEALTH_INTERVAL_SECS" other.health.intervalSecs own.health.intervalSecs
      timeoutSecs := ifSet env "HEALTH_TIMEOUT_SECS" other.health.timeoutSecs own.health.timeoutSecs }
    process := { own.process with
      command := ifSet env "PROCESS_COMMAND" other.process.command own.process.command
      args := ifSet env "PROCESS_ARGS" other.process.args own.process.args
      workingDir := other.process.workingDir.or own.process.workingDir
      shutdownTimeoutSecs := ifSet env "SHUTDOWN_TIMEOUT_SECS" other.process.shutdownTimeoutSecs
        own.process.shutdownTimeoutSecs }
    vault := other.vault.or own.vault
    backup := other.backup.or own.backup
    migration := other.migration.or own.migration
    audit := other.audit.or own.audit
    tls := other.tls.or own.tls
    failover := other.failover.or own.failover
    replication := other.replication.or own.replication
    resourceQuota := { own.resourceQuota with
      maxMemoryBytes := ifSet env "SHIM_MAX_MEMORY_BYTES" other.resourceQuota.maxMemoryBytes
        own.resourceQuota.maxMemoryBytes
      maxCpuPercent := ifSet env "SHIM_MAX_CPU_PERCENT" other.resourceQuota.maxCpuPercent
        own.resourceQuota.maxCpuPercent
      maxOpenFiles := ifSet env "SHIM_MAX_OPEN_FILES" other.resourceQuota.maxOpenFiles
        own.resourceQuota.maxOpenFiles }
    tenants := mergeTenants env own.tenants other.tenants }

/-- What `from_file` makes of a path, `none` when nothing exists there. -/
abbrev Files (Percent : Type) := String → Option (Except String (Config Percent))

def configPath : String := (env "SHIM_CONFIG").getD "shim.toml"

def load (files : Files Percent) : Config Percent :=
  match files (configPath env) with
  | some (.ok file) => merge env file (fromEnv parsePercent env)
  | some (.error _) => fromEnv parsePercent env
  | none => fromEnv parsePercent env

end Config

end Evergreen.Settings
