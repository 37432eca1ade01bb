import Evergreen.Machine.Run

namespace Evergreen.Operator

/-! # The reconciler of the shim operator

`reconcile_shim_config` for one resource, against the part of the cluster it
works on: the ConfigMap, the Deployment named after the resource, and the status.
The API server stores what a patch sends, or refuses it.
-/

/-! ## The custom resource -/

namespace Crd

structure ResourceSpec where
  cpu : Option String
  memory : Option String
deriving DecidableEq, Repr

structure ResourceRequirements where
  requests : Option ResourceSpec
  limits : Option ResourceSpec
deriving DecidableEq, Repr

structure ShimConfigOptions where
  logLevel : String := "info"
  jsonLogging : Bool := false
  metricsPort : Nat := 9090
  healthPort : Nat := 9091
  otelEndpoint : Option String := none
deriving DecidableEq, Repr

structure ShimConfigSpec where
  childCommand : String
  childArgs : List String := []
  features : List String := []
  resources : Option ResourceRequirements := none
  shimConfig : Option ShimConfigOptions := none
deriving DecidableEq, Repr

structure ShimConfigCondition where
  conditionType : String
  status : String
  lastTransitionTime : Option String
  reason : Option String
  message : Option String
deriving DecidableEq, Repr

def ShimConfigCondition.new (conditionType status reason message now : String) :
    ShimConfigCondition where
  conditionType := conditionType
  status := status
  lastTransitionTime := some now
  reason := some reason
  message := some message

structure ShimConfigStatus where
  conditions : List ShimConfigCondition
  readyReplicas : Option Nat
  observedGeneration : Option Int
deriving DecidableEq, Repr

/-- The name and the namespace are empty, the generation zero where the metadata
leaves them out. -/
structure ShimConfig where
  name : String
  ns : String
  generation : Int
  spec : ShimConfigSpec
deriving DecidableEq, Repr

end Crd

open Crd (ShimConfig ShimConfigCondition ShimConfigSpec ShimConfigStatus)

/-! ## The objects of the cluster -/

structure EnvVar where
  name : String
  value : Option String
deriving DecidableEq, Repr

structure ContainerPort where
  containerPort : Nat
  name : Option String
  protocol : Option String
deriving DecidableEq, Repr

structure ResourceRequirements where
  limits : Option (List (String × String)) := none
  requests : Option (List (String × String)) := none
deriving DecidableEq, Repr

/-- `others` are the fields that the operator leaves at their defaults. -/
structure Container where
  name : String
  image : Option String
  env : Option (List EnvVar)
  resources : Option ResourceRequirements
  ports : Option (List ContainerPort)
  others : List (String × String) := []
deriving DecidableEq, Repr

structure PodSpec where
  containers : List Container
deriving DecidableEq, Repr

structure PodTemplateSpec where
  spec : Option PodSpec
deriving DecidableEq, Repr

structure DeploymentSpec where
  template : PodTemplateSpec
deriving DecidableEq, Repr

structure Deployment where
  spec : Option DeploymentSpec
deriving DecidableEq, Repr

structure ConfigMap where
  name : String
  ns : String
  labels : List (String × String)
  data : List (String × String)
deriving DecidableEq, Repr

/-! ## What the operator builds -/

def join (texts : List String) : String := String.intercalate "," texts

/-- The insertions into the map; no key comes twice. -/
def generateConfigmapData (spec : ShimConfigSpec) : List (String × String) :=
  let opts := spec.shimConfig.getD {}
  [("SHIM_CHILD_COMMAND", spec.childCommand),
    ("SHIM_CHILD_ARGS", join spec.childArgs),
    ("SHIM_FEATURES", join spec.features),
    ("SHIM_LOG_LEVEL", opts.logLevel),
    ("SHIM_JSON_LOGGING", toString opts.jsonLogging),
    ("SHIM_METRICS_PORT", toString opts.metricsPort),
    ("SHIM_HEALTH_PORT", toString opts.healthPort)] ++
  (opts.otelEndpoint.map fun endpoint => ("SHIM_OTEL_ENDPOINT", endpoint)).toList

def generateConfigmap (name ns : String) (spec : ShimConfigSpec) : ConfigMap where
  name := s!"shim-config-{name}"
  ns := ns
  labels :=
    [("app.kubernetes.io/managed-by", "shim-operator"), ("evergreen.dev/shim-config", name)]
  data := generateConfigmapData spec

def parseQuantity (text : String) : Option String :=
  if text.isEmpty then none else some text

/-- The map of `requests` or `limits`. -/
def quantities (resource : Crd.ResourceSpec) : List (String × String) :=
  ((resource.cpu.bind parseQuantity).map fun cpu => ("cpu", cpu)).toList ++
    ((resource.memory.bind parseQuantity).map fun memory => ("memory", memory)).toList

def shimName : String := "evergreen-shim"

def buildSidecarContainer (spec : ShimConfigSpec) : Container where
  name := shimName
  image := some "ghcr.io/wyattau/evergreen-shim:latest"
  env := some
    ([⟨"SHIM_CHILD_COMMAND", some spec.childCommand⟩] ++
      (if spec.childArgs.isEmpty then [] else [⟨"SHIM_CHILD_ARGS", some (join spec.childArgs)⟩]) ++
      (if spec.features.isEmpty then [] else [⟨"SHIM_FEATURES", some (join spec.features)⟩]))
  resources := spec.resources.map fun resources =>
    { requests := resources.requests.map quantities
      limits := resources.limits.map quantities }
  ports := some
    [⟨(spec.shimConfig.map (·.metricsPort)).getD 9090, some "metrics", some "TCP"⟩,
      ⟨(spec.shimConfig.map (·.healthPort)).getD 9091, some "health", some "TCP"⟩]

def PodSpec.hasShim (pod : PodSpec) : Bool := pod.containers.any (·.name == shimName)

/-- "Add container to pod template if not present". -/
def PodSpec.addContainer (pod : PodSpec) (container : Container) : PodSpec :=
  if pod.hasShim then pod else { pod with containers := pod.containers ++ [container] }

def Deployment.podSpec (deploy : Deployment) : Option PodSpec :=
  deploy.spec.bind (·.template.spec)

def Deployment.addContainer (deploy : Deployment) (container : Container) : Deployment where
  spec := deploy.spec.map fun spec =>
    { template := { spec := spec.template.spec.map (·.addContainer container) } }

/-! ## The API calls -/

/-- What a patch comes to; one that fails on its way back may have been stored. -/
inductive Answer where
  | done
  | failed (error : String) (stored : Bool)
deriving DecidableEq, Repr

def Answer.stores : Answer → Bool
  | .done => true
  | .failed _ stored => stored

/-- `lookup` is the error of `get_opt`, if it has one; `times` are the transition
times of the two conditions. -/
structure Outcomes where
  configMap : Answer
  lookup : Option String
  deployment : Answer
  status : Answer
  times : String × String
deriving DecidableEq, Repr

structure Cluster where
  configMap : Option ConfigMap
  deployment : Option Deployment
  status : Option ShimConfigStatus
deriving DecidableEq, Repr

inductive OperatorError where
  | kubernetes (error : String)
deriving DecidableEq, Repr

inductive Action where
  | requeue (secs : Nat)
deriving DecidableEq, Repr

/-- A call, with whether the Deployment was patched and the status stored. -/
structure Reconciled where
  cluster : Cluster
  result : Except OperatorError Action
  patched : Bool := false
  ready : Bool := false

def newStatus (config : ShimConfig) (times : String × String) : ShimConfigStatus where
  conditions :=
    [.new "Ready" "True" "Reconciled" "ShimConfig reconciled successfully" times.1,
      .new "Reconciling" "False" "Reconciled" "Reconciliation complete" times.2]
  readyReplicas := some 1
  observedGeneration := some config.generation

/-- From "Update status conditions" on. -/
def updateStatus (config : ShimConfig) (outcomes : Outcomes) (cluster : Cluster) (patched : Bool) :
    Reconciled where
  cluster :=
    if outcomes.status.stores then
      { cluster with status := some (newStatus config outcomes.times) }
    else cluster
  result :=
    match outcomes.status with
    | .done => .ok (.requeue 300)
    | .failed error _ => .error (.kubernetes error)
  patched := patched
  ready := outcomes.status.stores

/-- From "Update Deployment if it exists" on. -/
def updateDeployment (config : ShimConfig) (outcomes : Outcomes) (cluster : Cluster) : Reconciled :=
  match outcomes.lookup, cluster.deployment with
  | none, some deploy =>
      let patched := { cluster with
        deployment := some (deploy.addContainer (buildSidecarContainer config.spec)) }
      match outcomes.deployment with
      | .done => updateStatus config outcomes patched true
      | .failed error stored =>
          { cluster := if stored then patched else cluster, result := .error (.kubernetes error) }
  | _, _ => updateStatus config outcomes cluster false

def applyConfigMap (config : ShimConfig) (cluster : Cluster) : Cluster :=
  { cluster with configMap := some (generateConfigmap config.name config.ns config.spec) }

def reconcileShimConfig (config : ShimConfig) (outcomes : Outcomes) (cluster : Cluster) :
    Reconciled :=
  match outcomes.configMap with
  | .done => updateDeployment config outcomes (applyConfigMap config cluster)
  | .failed error stored =>
      { cluster := if stored then applyConfigMap config cluster else cluster
        result := .error (.kubernetes error) }

end Evergreen.Operator
