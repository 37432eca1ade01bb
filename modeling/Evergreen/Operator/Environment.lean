import Evergreen.Operator.Reconciler
import Evergreen.Settings.Load

namespace Evergreen.Operator

/-! # What the shim makes of the operator's variables

The operator names the child process in the environment of the sidecar and in
the data of the ConfigMap.  `Config::from_env` looks for it under other names.
-/

open Crd (ShimConfigSpec)
open Settings (Config Env)

variable {Percent : Type} {parsePercent : String → Option Percent} {env other : Env}
variable {spec : ShimConfigSpec}

/-- Of two variables of one name the later one counts. -/
def Container.environment (container : Container) : Env := fun name =>
  ((container.env.getD []).filter (·.name = name)).getLast?.bind (·.value)

/-- A container that takes its environment from the data of a ConfigMap. -/
def dataEnvironment (data : List (String × String)) : Env := fun name => data.lookup name

/-- The shim configured by the environment runs the child of the spec. -/
def RunsChild (parsePercent : String → Option Percent) (env : Env) (spec : ShimConfigSpec) : Prop :=
  (Config.fromEnv parsePercent env).process.command = spec.childCommand ∧
    (Config.fromEnv parsePercent env).process.args = spec.childArgs

/-- The variables that `from_env` reads. -/
def readNames : List String :=
  ["HEALTH_CMD", "HEALTH_LISTEN", "HEALTH_INTERVAL_SECS", "PROCESS_COMMAND", "PROCESS_ARGS",
    "SHIM_MAX_MEMORY_BYTES", "SHIM_MAX_CPU_PERCENT", "SHIM_MAX_OPEN_FILES", "SHIM_TENANT_ID",
    "SHIM_TENANT_MAX_MEMORY", "SHIM_TENANT_MAX_CPU"]

/-- The variables that the operator sets. -/
def setNames : List String :=
  ["SHIM_CHILD_COMMAND", "SHIM_CHILD_ARGS", "SHIM_FEATURES", "SHIM_LOG_LEVEL",
    "SHIM_JSON_LOGGING", "SHIM_METRICS_PORT", "SHIM_HEALTH_PORT", "SHIM_OTEL_ENDPOINT"]

theorem readNames_disjoint_setNames : ∀ name ∈ readNames, name ∉ setNames := by decide

theorem fromEnv_congr (agree : ∀ name ∈ readNames, env name = other name) :
    Config.fromEnv parsePercent env = Config.fromEnv parsePercent other := by
  simp only [readNames, List.forall_mem_cons, List.not_mem_nil, false_implies, implies_true,
    and_true] at agree
  simp only [Config.fromEnv, Config.tenantFromEnv, Settings.override, agree]

/-! ## The names that the operator uses -/

theorem sidecar_names (spec : ShimConfigSpec) :
    ∀ var ∈ ((buildSidecarContainer spec).env.getD []), var.name ∈ setNames := by
  intro var member
  simp only [buildSidecarContainer, Option.getD_some, List.mem_append, List.mem_singleton] at member
  rcases member with (rfl | member) | member
  · simp [setNames]
  · split at member
    · cases member
    · simp [setNames, List.mem_singleton.mp member]
  · split at member
    · cases member
    · simp [setNames, List.mem_singleton.mp member]

theorem data_names (spec : ShimConfigSpec) :
    ∀ entry ∈ generateConfigmapData spec, entry.1 ∈ setNames := by
  intro entry member
  rcases List.mem_append.mp member with member | member
  · simp only [List.mem_cons, List.not_mem_nil, or_false] at member
    rcases member with rfl | rfl | rfl | rfl | rfl | rfl | rfl <;> simp [setNames]
  · obtain ⟨endpoint, _, rfl⟩ := Option.map_eq_some_iff.mp (Option.mem_toList.mp member)
    simp [setNames]

theorem sidecar_unset {name : String} (unset : name ∉ setNames) :
    (buildSidecarContainer spec).environment name = none := by
  have none : ((buildSidecarContainer spec).env.getD []).filter (·.name = name) = [] := by
    refine List.filter_eq_nil_iff.mpr fun var member same => unset ?_
    exact of_decide_eq_true same ▸ sidecar_names spec var member
  rw [Container.environment, none]
  rfl

theorem data_unset {name : String} (unset : name ∉ setNames) :
    dataEnvironment (generateConfigmapData spec) name = none := by
  refine List.lookup_eq_none_iff.mpr fun entry member => ?_
  have differs : name ≠ entry.1 := fun same => unset (same ▸ data_names spec entry member)
  simpa using differs

/-! ## The child -/

/-- Where no variable that is read is set, the child has no command and no arguments. -/
theorem runsChild_iff_of_unset (unset : ∀ name, name ∉ setNames → env name = none) :
    RunsChild parsePercent env spec ↔ spec.childCommand = "" ∧ spec.childArgs = [] := by
  have plain : Config.fromEnv parsePercent env = Config.fromEnv parsePercent (fun _ => none) :=
    fromEnv_congr fun name read => unset name (readNames_disjoint_setNames name read)
  rw [RunsChild, plain]
  exact and_congr eq_comm eq_comm

/-- In the environment of the sidecar, and equally in that of the ConfigMap's data,
the shim runs the child of the spec exactly when the spec names none. -/
theorem runsChild_iff (parsePercent : String → Option Percent) (spec : ShimConfigSpec) :
    (RunsChild parsePercent (buildSidecarContainer spec).environment spec ↔
        spec.childCommand = "" ∧ spec.childArgs = []) ∧
      (RunsChild parsePercent (dataEnvironment (generateConfigmapData spec)) spec ↔
        spec.childCommand = "" ∧ spec.childArgs = []) :=
  ⟨runsChild_iff_of_unset fun _ => sidecar_unset, runsChild_iff_of_unset fun _ => data_unset⟩

/-- The shim beside `/app/start --port 8080` has nothing to start. -/
theorem child_not_run :
    ¬ RunsChild (fun text : String => some text)
        (buildSidecarContainer ⟨"/app/start", ["--port", "8080"], [], none, none⟩).environment
        ⟨"/app/start", ["--port", "8080"], [], none, none⟩ ∧
      ¬ RunsChild (fun text : String => some text)
        (dataEnvironment (generateConfigmapData ⟨"/app/start", ["--port", "8080"], [], none, none⟩))
        ⟨"/app/start", ["--port", "8080"], [], none, none⟩ := by
  constructor
  · intro runs
    exact absurd runs.1 (by decide)
  · intro runs
    exact absurd runs.1 (by decide)

end Evergreen.Operator
