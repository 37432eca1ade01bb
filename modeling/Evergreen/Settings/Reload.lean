import Evergreen.Settings.Precedence
import Evergreen.Settings.Watch

namespace Evergreen.Settings

/-! # Reloading against loading

`load` merges the environment over the file, the watcher takes the file alone.
The two agree when every variable that is set stands for what the file says.
-/

variable {Percent : Type}

/-- `from_file` where there may be no file. -/
def Config.fromFile (files : Config.Files Percent) (path : String) : Content Percent :=
  (files path).getD (.error "Failed to read config")

/-- A variable that is set stands for the file's value. -/
def StandsFor {Value : Type} (env : Env) (name : String) (parse : String → Option Value)
    (default own : Value) : Prop :=
  ∀ text, env name = some text → (parse text).getD default = own

/-- What is set in the environment is also in the file.  The variables of the
two timeouts always stand for the default. -/
structure EnvAgrees (parsePercent : String → Option Percent) (env : Env) (file : Config Percent) :
    Prop where
  livenessCmd : StandsFor env "HEALTH_CMD" some "exec:true" file.health.livenessCmd
  readinessCmd : StandsFor env "HEALTH_CMD" some "exec:true" file.health.readinessCmd
  listen : StandsFor env "HEALTH_LISTEN" some "0.0.0.0:9101" file.health.listen
  intervalSecs : StandsFor env "HEALTH_INTERVAL_SECS" Text.parseU64 10 file.health.intervalSecs
  timeoutSecs : StandsFor env "HEALTH_TIMEOUT_SECS" (fun _ => none) 5 file.health.timeoutSecs
  command : StandsFor env "PROCESS_COMMAND" some "" file.process.command
  args : StandsFor env "PROCESS_ARGS" (fun text => some (Text.splitWhitespace text)) []
    file.process.args
  shutdownTimeoutSecs : StandsFor env "SHUTDOWN_TIMEOUT_SECS" (fun _ => none) 30
    file.process.shutdownTimeoutSecs
  maxMemoryBytes : StandsFor env "SHIM_MAX_MEMORY_BYTES"
    (fun text => (Text.parseU64 text).map some) none file.resourceQuota.maxMemoryBytes
  maxCpuPercent : StandsFor env "SHIM_MAX_CPU_PERCENT" (fun text => (parsePercent text).map some)
    none file.resourceQuota.maxCpuPercent
  maxOpenFiles : StandsFor env "SHIM_MAX_OPEN_FILES" (fun text => (Text.parseU32 text).map some)
    none file.resourceQuota.maxOpenFiles
  tenants : ∀ tenantId, env "SHIM_TENANT_ID" = some tenantId →
    ∃ others, file.tenants = others ++ [Config.tenantFromEnv parsePercent env tenantId] ∧
      ∀ other ∈ others, other.tenantId ≠ tenantId

variable {parsePercent : String → Option Percent} {env : Env} {file : Config Percent}

/-! ## One variable -/

theorem ifSet_override_eq_iff {Value : Type} {name : String} {parse : String → Option Value}
    {default own : Value} : ifSet env name (override env name parse default) own = own ↔
      StandsFor env name parse default own := by
  simp only [ifSet, override, StandsFor]
  cases set : env name with
  | none => simp
  | some text => simp

theorem ifSet_default_eq_iff {Value : Type} {name : String} {default own : Value} :
    ifSet env name default own = own ↔ StandsFor env name (fun _ => none) default own := by
  simp only [ifSet, StandsFor]
  cases set : env name with
  | none => simp
  | some text => simp

theorem filter_append_eq_iff {Value : Type} {keep : Value → Bool} {last : Value}
    {all : List Value} (dropped : keep last = false) : all.filter keep ++ [last] = all ↔
      ∃ others, all = others ++ [last] ∧ ∀ other ∈ others, keep other = true := by
  constructor
  · intro same
    exact ⟨all.filter keep, same.symm, fun other member => (List.mem_filter.mp member).2⟩
  · intro ⟨others, split, kept⟩
    rw [split, List.filter_append, List.filter_eq_self.mpr kept]
    simp [dropped]

theorem mergeTenants_eq_iff : Config.mergeTenants env file.tenants
    (Config.fromEnv parsePercent env).tenants = file.tenants ↔
      ∀ tenantId, env "SHIM_TENANT_ID" = some tenantId →
        ∃ others, file.tenants = others ++ [Config.tenantFromEnv parsePercent env tenantId] ∧
          ∀ other ∈ others, other.tenantId ≠ tenantId := by
  unfold Config.mergeTenants Config.fromEnv
  cases set : env "SHIM_TENANT_ID" with
  | none => simp
  | some tenantId =>
      have split := @filter_append_eq_iff _ (fun tenant => decide (tenant.tenantId ≠ tenantId))
        (Config.tenantFromEnv parsePercent env tenantId) file.tenants (by simp [Config.tenantFromEnv])
      simpa [Config.tenantFromEnv] using split

/-! ## The whole configuration -/

theorem merge_eq_iff : file.merge env (.fromEnv parsePercent env) = file ↔
    EnvAgrees parsePercent env file := by
  constructor
  · intro same
    exact
      { livenessCmd := ifSet_override_eq_iff.mp (congrArg (·.health.livenessCmd) same)
        readinessCmd := ifSet_override_eq_iff.mp (congrArg (·.health.readinessCmd) same)
        listen := ifSet_override_eq_iff.mp (congrArg (·.health.listen) same)
        intervalSecs := ifSet_override_eq_iff.mp (congrArg (·.health.intervalSecs) same)
        timeoutSecs := ifSet_default_eq_iff.mp (congrArg (·.health.timeoutSecs) same)
        command := ifSet_override_eq_iff.mp (congrArg (·.process.command) same)
        args := ifSet_override_eq_iff.mp (congrArg (·.process.args) same)
        shutdownTimeoutSecs :=
          ifSet_default_eq_iff.mp (congrArg (·.process.shutdownTimeoutSecs) same)
        maxMemoryBytes := ifSet_override_eq_iff.mp (congrArg (·.resourceQuota.maxMemoryBytes) same)
        maxCpuPercent := ifSet_override_eq_iff.mp (congrArg (·.resourceQuota.maxCpuPercent) same)
        maxOpenFiles := ifSet_override_eq_iff.mp (congrArg (·.resourceQuota.maxOpenFiles) same)
        tenants := mergeTenants_eq_iff.mp (congrArg (·.tenants) same) }
  · intro agrees
    have tenants := mergeTenants_eq_iff.mpr agrees.tenants
    simp only [Config.fromEnv] at tenants
    simp only [Config.merge, Config.fromEnv, Option.none_or, tenants,
      ifSet_override_eq_iff.mpr agrees.livenessCmd, ifSet_override_eq_iff.mpr agrees.readinessCmd,
      ifSet_override_eq_iff.mpr agrees.listen, ifSet_override_eq_iff.mpr agrees.intervalSecs,
      ifSet_default_eq_iff.mpr agrees.timeoutSecs, ifSet_override_eq_iff.mpr agrees.command,
      ifSet_override_eq_iff.mpr agrees.args, ifSet_default_eq_iff.mpr agrees.shutdownTimeoutSecs,
      ifSet_override_eq_iff.mpr agrees.maxMemoryBytes,
      ifSet_override_eq_iff.mpr agrees.maxCpuPercent,
      ifSet_override_eq_iff.mpr agrees.maxOpenFiles]

/-- After a reload the shared configuration is what `load` makes of the same
file, exactly when the environment says nothing that the file does not. -/
theorem reload_eq_load_iff (parsePercent : String → Option Percent) (env : Env)
    (files : Config.Files Percent) (file : Config Percent)
    (parsed : files (Config.configPath env) = some (.ok file)) (validator : Validator Percent)
    (accepted : validator file = []) (timestamp : Nat) (watcher : ConfigWatcher Percent) :
    (watcher.reload validator timestamp (Config.fromFile files (Config.configPath env))).config =
        .load parsePercent env files ↔
      EnvAgrees parsePercent env file := by
  have reloaded : (watcher.reload validator timestamp
      (Config.fromFile files (Config.configPath env))).config = file := by
    simp [Config.fromFile, parsed, ConfigWatcher.reload, accepted]
  have loaded : Config.load parsePercent env files =
      file.merge env (.fromEnv parsePercent env) := by
    rw [Config.load, parsed]
  rw [reloaded, loaded, eq_comm]
  exact merge_eq_iff

def listenEnv (listen : String) : Env
  | "HEALTH_LISTEN" => some listen
  | _ => none

/-- The file names the address that the environment names. -/
theorem reload_eq_load_listen :
    ((ConfigWatcher.new (.ok {}) none).reload (fun _ => []) 0
      (Config.fromFile (onlyShimToml {}) (Config.configPath (listenEnv "0.0.0.0:9101")))).config =
      .load Text.parseU64 (listenEnv "0.0.0.0:9101") (onlyShimToml {}) := by
  apply (reload_eq_load_iff _ _ _ {} rfl _ rfl _ _).mpr
  constructor
  case listen =>
    intro text set
    exact (Option.some.inj set).symm
  all_goals
    intro text set
    simp [listenEnv] at set

/-- The environment moves the health endpoint, and the first reload moves it back. -/
theorem reload_ne_load :
    ((ConfigWatcher.new (.ok {}) none).reload (fun _ => []) 0
      (Config.fromFile (onlyShimToml {}) (Config.configPath (listenEnv "127.0.0.1:9200")))).config ≠
      .load Text.parseU64 (listenEnv "127.0.0.1:9200") (onlyShimToml {}) := by
  decide

end Evergreen.Settings
