import Evergreen.Settings.Load

namespace Evergreen.Settings

/-! # Which source a setting comes from

`merge` asks only whether a variable is set and then takes what `from_env` made
of it.  That is the default when the text is malformed, and always the default
for the two timeouts, which `from_env` never reads.
-/

variable {Percent : Type} {parsePercent : String → Option Percent} {env : Env}
variable {file : Config Percent}

/-- Each setting is the parsed value of its variable where that is set and
valid, and the file's value otherwise. -/
structure FollowsPrecedence (parsePercent : String → Option Percent) (env : Env)
    (file loaded : Config Percent) : Prop where
  livenessCmd : loaded.health.livenessCmd = override env "HEALTH_CMD" some file.health.livenessCmd
  readinessCmd :
    loaded.health.readinessCmd = override env "HEALTH_CMD" some file.health.readinessCmd
  listen : loaded.health.listen = override env "HEALTH_LISTEN" some file.health.listen
  intervalSecs : loaded.health.intervalSecs =
    override env "HEALTH_INTERVAL_SECS" Text.parseU64 file.health.intervalSecs
  timeoutSecs : loaded.health.timeoutSecs =
    override env "HEALTH_TIMEOUT_SECS" Text.parseU64 file.health.timeoutSecs
  command : loaded.process.command = override env "PROCESS_COMMAND" some file.process.command
  args : loaded.process.args =
    override env "PROCESS_ARGS" (fun text => some (Text.splitWhitespace text)) file.process.args
  shutdownTimeoutSecs : loaded.process.shutdownTimeoutSecs =
    override env "SHUTDOWN_TIMEOUT_SECS" Text.parseU64 file.process.shutdownTimeoutSecs
  maxMemoryBytes : loaded.resourceQuota.maxMemoryBytes =
    override env "SHIM_MAX_MEMORY_BYTES" (fun text => (Text.parseU64 text).map some)
      file.resourceQuota.maxMemoryBytes
  maxCpuPercent : loaded.resourceQuota.maxCpuPercent =
    override env "SHIM_MAX_CPU_PERCENT" (fun text => (parsePercent text).map some)
      file.resourceQuota.maxCpuPercent
  maxOpenFiles : loaded.resourceQuota.maxOpenFiles =
    override env "SHIM_MAX_OPEN_FILES" (fun text => (Text.parseU32 text).map some)
      file.resourceQuota.maxOpenFiles

/-- A variable that is set and does not parse meets a file that says the same
as the default. -/
def MalformedAgrees {Value : Type} (env : Env) (name : String) (parse : String → Option Value)
    (default own : Value) : Prop :=
  ∀ text, env name = some text → parse text = none → default = own

/-- A variable that is set stands for the default. -/
def SetAgrees {Value : Type} (env : Env) (name : String) (parse : String → Option Value)
    (default own : Value) : Prop :=
  ∀ text, env name = some text → (parse text).getD own = default

/-- Where the environment cannot be told from the defaults it is mixed up with. -/
structure Respected (parsePercent : String → Option Percent) (env : Env) (file : Config Percent) :
    Prop where
  intervalSecs :
    MalformedAgrees env "HEALTH_INTERVAL_SECS" Text.parseU64 10 file.health.intervalSecs
  timeoutSecs : SetAgrees env "HEALTH_TIMEOUT_SECS" Text.parseU64 5 file.health.timeoutSecs
  shutdownTimeoutSecs :
    SetAgrees env "SHUTDOWN_TIMEOUT_SECS" Text.parseU64 30 file.process.shutdownTimeoutSecs
  maxMemoryBytes : MalformedAgrees env "SHIM_MAX_MEMORY_BYTES"
    (fun text => (Text.parseU64 text).map some) none file.resourceQuota.maxMemoryBytes
  maxCpuPercent : MalformedAgrees env "SHIM_MAX_CPU_PERCENT"
    (fun text => (parsePercent text).map some) none file.resourceQuota.maxCpuPercent
  maxOpenFiles : MalformedAgrees env "SHIM_MAX_OPEN_FILES"
    (fun text => (Text.parseU32 text).map some) none file.resourceQuota.maxOpenFiles

/-! ## One variable -/

section Variable

variable {Value : Type} {name : String} {parse : String → Option Value} {default own : Value}

theorem ifSet_override_iff : ifSet env name (override env name parse default) own =
    override env name parse own ↔ MalformedAgrees env name parse default own := by
  unfold ifSet override MalformedAgrees
  cases set : env name with
  | none => simp
  | some text =>
      cases parsed : parse text with
      | none => simp [parsed]
      | some value => simp [parsed]

/-- Text that always parses is never malformed. -/
theorem ifSet_override (total : ∀ text, parse text ≠ none) :
    ifSet env name (override env name parse default) own = override env name parse own :=
  ifSet_override_iff.mpr fun text _ malformed => absurd malformed (total text)

theorem ifSet_default_iff : ifSet env name default own = override env name parse own ↔
    SetAgrees env name parse default own := by
  unfold ifSet override SetAgrees
  cases set : env name with
  | none => simp
  | some text => simp [eq_comm]

end Variable

/-! ## The whole configuration -/

theorem merge_precedence_iff : FollowsPrecedence parsePercent env file
    (file.merge env (.fromEnv parsePercent env)) ↔ Respected parsePercent env file := by
  constructor
  · intro follows
    exact
      { intervalSecs := ifSet_override_iff.mp follows.intervalSecs
        timeoutSecs := ifSet_default_iff.mp follows.timeoutSecs
        shutdownTimeoutSecs := ifSet_default_iff.mp follows.shutdownTimeoutSecs
        maxMemoryBytes := ifSet_override_iff.mp follows.maxMemoryBytes
        maxCpuPercent := ifSet_override_iff.mp follows.maxCpuPercent
        maxOpenFiles := ifSet_override_iff.mp follows.maxOpenFiles }
  · intro respected
    exact
      { livenessCmd := ifSet_override (by simp)
        readinessCmd := ifSet_override (by simp)
        listen := ifSet_override (by simp)
        intervalSecs := ifSet_override_iff.mpr respected.intervalSecs
        timeoutSecs := ifSet_default_iff.mpr respected.timeoutSecs
        command := ifSet_override (by simp)
        args := ifSet_override (by simp)
        shutdownTimeoutSecs := ifSet_default_iff.mpr respected.shutdownTimeoutSecs
        maxMemoryBytes := ifSet_override_iff.mpr respected.maxMemoryBytes
        maxCpuPercent := ifSet_override_iff.mpr respected.maxCpuPercent
        maxOpenFiles := ifSet_override_iff.mpr respected.maxOpenFiles }

/-- With a file that parses, `load` follows the precedence if and only if every
malformed variable, and each of the two timeouts' variables when set, happens
to stand for the default. -/
theorem load_precedence_iff (parsePercent : String → Option Percent) (env : Env)
    (files : Config.Files Percent) (file : Config Percent)
    (parsed : files (Config.configPath env) = some (.ok file)) :
    FollowsPrecedence parsePercent env file (.load parsePercent env files) ↔
      Respected parsePercent env file := by
  rw [Config.load, parsed]
  exact merge_precedence_iff

def timeoutEnv (timeout : Option String) : Env
  | "HEALTH_TIMEOUT_SECS" => timeout
  | _ => none

def timeoutFile : Config Nat := { health := { timeoutSecs := 7 } }

def onlyShimToml (file : Config Nat) : Config.Files Nat
  | "shim.toml" => some (.ok file)
  | _ => none

/-- With nothing in the environment the file's timeout stands. -/
theorem load_precedence_unset : FollowsPrecedence Text.parseU64 (timeoutEnv none) timeoutFile
    (.load Text.parseU64 (timeoutEnv none) (onlyShimToml timeoutFile)) := by
  have unset : ∀ name, timeoutEnv none name = none := by
    intro name
    unfold timeoutEnv
    split <;> rfl
  apply (load_precedence_iff _ _ _ timeoutFile rfl).mpr
  constructor <;> intro text set <;> simp [unset] at set

/-- The file says 7, the environment 8, and the timeout is 5. -/
theorem load_ignoresTimeout : ¬ FollowsPrecedence Text.parseU64 (timeoutEnv (some "8")) timeoutFile
    (.load Text.parseU64 (timeoutEnv (some "8")) (onlyShimToml timeoutFile)) := by
  intro follows
  exact absurd follows.timeoutSecs (by decide)

end Evergreen.Settings
