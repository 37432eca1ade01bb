import Evergreen.Machine.Component
import Evergreen.Machine.Writes
import Evergreen.Operator.Convergence
import Mathlib.Logic.Function.Basic

namespace Evergreen.Operator

/-! # Many resources, one operator

The objects of all resources in one API server.  Calls for different resources
come in any order, others change objects in between, and a call may be made for a
spec that has since changed.
-/

open Crd (ShimConfig ShimConfigStatus)

/-- A namespace and a name. -/
abbrev Key := String × String

def configmapKey (key : Key) : Key := (key.1, s!"shim-config-{key.2}")

def deploymentKey (key : Key) : Key := (key.1, s!"{key.2}-deployment")

def Crd.ShimConfig.key (config : ShimConfig) : Key := (config.ns, config.name)

structure ApiServer where
  configMaps : Key → Option ConfigMap := fun _ => none
  deployments : Key → Option Deployment := fun _ => none
  statuses : Key → Option ShimConfigStatus := fun _ => none

/-- The part of the API server that a resource's calls work on. -/
def ApiServer.cluster (server : ApiServer) (key : Key) : Cluster where
  configMap := server.configMaps (configmapKey key)
  deployment := server.deployments (deploymentKey key)
  status := server.statuses key

def ApiServer.store (server : ApiServer) (key : Key) (cluster : Cluster) : ApiServer where
  configMaps := Function.update server.configMaps (configmapKey key) cluster.configMap
  deployments := Function.update server.deployments (deploymentKey key) cluster.deployment
  statuses := Function.update server.statuses key cluster.status

structure Attempt where
  config : ShimConfig
  outcomes : Outcomes

/-- A call of the operator, or a change by somebody else. -/
inductive Request where
  | reconcile (attempt : Attempt)
  | putConfigMap (key : Key) (configMap : Option ConfigMap)
  | putDeployment (key : Key) (deploy : Option Deployment)
  | putStatus (key : Key) (status : Option ShimConfigStatus)

def Attempt.perform (attempt : Attempt) (cluster : Cluster) : Reconciled :=
  reconcileShimConfig attempt.config attempt.outcomes cluster

def ApiServer.perform (server : ApiServer) :
    Request → ApiServer × Option (Except OperatorError Action)
  | .reconcile attempt =>
      let reconciled := attempt.perform (server.cluster attempt.config.key)
      (server.store attempt.config.key reconciled.cluster, some reconciled.result)
  | .putConfigMap key configMap =>
      ({ server with configMaps := Function.update server.configMaps key configMap }, none)
  | .putDeployment key deploy =>
      ({ server with deployments := Function.update server.deployments key deploy }, none)
  | .putStatus key status =>
      ({ server with statuses := Function.update server.statuses key status }, none)

/-! ## The requests of one resource -/

def Request.concerns (key : Key) : Request → Bool
  | .reconcile attempt => attempt.config.key = key
  | .putConfigMap written _ => written = configmapKey key
  | .putDeployment written _ => written = deploymentKey key
  | .putStatus written _ => written = key

/-- A request for the resource, on its own objects. -/
def Cluster.perform (cluster : Cluster) : Request → Cluster × Option (Except OperatorError Action)
  | .reconcile attempt => ((attempt.perform cluster).cluster, some (attempt.perform cluster).result)
  | .putConfigMap _ configMap => ({ cluster with configMap }, none)
  | .putDeployment _ deployment => ({ cluster with deployment }, none)
  | .putStatus _ status => ({ cluster with status }, none)

variable {server : ApiServer} {key other : Key} {cluster : Cluster}

theorem configmapKey_injective : Function.Injective configmapKey := by
  rintro ⟨ns, name⟩ ⟨otherNs, otherName⟩ same
  obtain ⟨rfl, named⟩ := Prod.mk.inj same
  have letters := congrArg String.toList named
  have same : name.toList = otherName.toList := by
    simpa [toString, String.toList_append] using letters
  rw [String.toList_inj.mp same]

theorem deploymentKey_injective : Function.Injective deploymentKey := by
  rintro ⟨ns, name⟩ ⟨otherNs, otherName⟩ same
  obtain ⟨rfl, named⟩ := Prod.mk.inj same
  have letters := congrArg String.toList named
  have same : name.toList = otherName.toList := by
    simpa [toString, String.toList_append] using letters
  rw [String.toList_inj.mp same]

theorem ApiServer.cluster_store : (server.store key cluster).cluster key = cluster := by
  simp [ApiServer.cluster, ApiServer.store]

theorem ApiServer.cluster_store_of_ne (differs : key ≠ other) :
    (server.store other cluster).cluster key = server.cluster key := by
  simp [ApiServer.cluster, ApiServer.store, differs, configmapKey_injective.ne differs,
    deploymentKey_injective.ne differs]

/-- The objects of every resource are a component of the API server. -/
theorem resource_component (key : Key) :
    Component ApiServer.perform (Request.concerns key) (fun server => server.cluster key)
      Cluster.perform (fun _ => True) where
  kept _ _ _ := trivial
  ignored server request _ elsewhere := by
    have elsewhere := elsewhere
    cases request with
    | reconcile attempt =>
        exact ApiServer.cluster_store_of_ne (Ne.symm (of_decide_eq_false elsewhere))
    | putConfigMap written configMap =>
        have differs := Ne.symm (of_decide_eq_false elsewhere)
        simp [ApiServer.perform, ApiServer.cluster, differs]
    | putDeployment written deploy =>
        have differs := Ne.symm (of_decide_eq_false elsewhere)
        simp [ApiServer.perform, ApiServer.cluster, differs]
    | putStatus written status =>
        have differs := Ne.symm (of_decide_eq_false elsewhere)
        simp [ApiServer.perform, ApiServer.cluster, differs]
  decided server request _ concerned := by
    cases request with
    | reconcile attempt =>
        obtain rfl : attempt.config.key = key := of_decide_eq_true concerned
        simp [ApiServer.perform, ApiServer.cluster_store, Cluster.perform]
    | putConfigMap written configMap =>
        obtain rfl : written = configmapKey key := of_decide_eq_true concerned
        simp [ApiServer.perform, ApiServer.cluster, Cluster.perform]
    | putDeployment written deploy =>
        obtain rfl : written = deploymentKey key := of_decide_eq_true concerned
        simp [ApiServer.perform, ApiServer.cluster, Cluster.perform]
    | putStatus written status =>
        obtain rfl : written = key := of_decide_eq_true concerned
        simp [ApiServer.perform, ApiServer.cluster, Cluster.perform]

/-! ## What one call stores -/

/-- The ConfigMap that the call stores, if it stores one. -/
def Attempt.configMap (attempt : Attempt) : Option ConfigMap :=
  if attempt.outcomes.configMap.stores then
    some (generateConfigmap attempt.config.name attempt.config.ns attempt.config.spec)
  else none

/-- The call gets to the Deployment, if there is one, and the patch is stored. -/
def Attempt.patches (attempt : Attempt) : Bool :=
  attempt.outcomes.configMap = .done && attempt.outcomes.lookup = none &&
    attempt.outcomes.deployment.stores

/-- The status that the call stores, if it stores one; `deployed` says whether
there is a Deployment to patch before. -/
def Attempt.status (deployed : Bool) (attempt : Attempt) : Option ShimConfigStatus :=
  if attempt.outcomes.configMap = .done &&
      (!deployed || attempt.outcomes.lookup ≠ none || attempt.outcomes.deployment = .done) &&
      attempt.outcomes.status.stores then
    some (newStatus attempt.config attempt.outcomes.times)
  else none

def Attempt.sidecar (attempt : Attempt) : Container := buildSidecarContainer attempt.config.spec

/-- What a call makes of the resource's objects. -/
structure Stored (attempt : Attempt) (before after : Cluster) : Prop where
  configMap : after.configMap = attempt.configMap.or before.configMap
  deployment : after.deployment =
    if attempt.patches then before.deployment.map (·.addContainer attempt.sidecar)
    else before.deployment
  status : after.status = (attempt.status before.deployment.isSome).or before.status

variable {attempt : Attempt}

theorem updateStatus_stored {config : ShimConfig} {outcomes : Outcomes} {patched : Bool} :
    (updateStatus config outcomes cluster patched).cluster.configMap = cluster.configMap ∧
      (updateStatus config outcomes cluster patched).cluster.deployment = cluster.deployment ∧
      (updateStatus config outcomes cluster patched).cluster.status =
        if outcomes.status.stores then some (newStatus config outcomes.times)
        else cluster.status := by
  unfold updateStatus
  dsimp only
  split <;> exact ⟨rfl, rfl, rfl⟩

theorem updateDeployment_stored (done : attempt.outcomes.configMap = .done)
    (applied : cluster.configMap = attempt.configMap) :
    Stored attempt cluster (updateDeployment attempt.config attempt.outcomes cluster).cluster := by
  unfold updateDeployment
  have stored : attempt.configMap = attempt.configMap.or cluster.configMap := by
    simp [Attempt.configMap, done, Answer.stores]
  split
  · next deploy lookup found =>
      cases answer : attempt.outcomes.deployment with
      | done =>
          obtain ⟨configMap, deployment, status⟩ := @updateStatus_stored
            { cluster with deployment := some (deploy.addContainer attempt.sidecar) }
            attempt.config attempt.outcomes true
          refine ⟨configMap.trans (applied.trans stored), deployment.trans ?_, status.trans ?_⟩
          · simp [Attempt.patches, done, lookup, answer, found, Answer.stores]
          · by_cases kept : attempt.outcomes.status.stores <;>
              simp [Attempt.status, done, answer, kept]
      | failed error kept =>
          constructor
          · cases kept <;> exact applied.trans stored
          · cases kept <;> simp [Attempt.patches, done, lookup, answer, found, Answer.stores,
              Attempt.sidecar]
          · cases kept <;> simp [Attempt.status, done, lookup, answer, found]
  · next skipped =>
      obtain ⟨configMap, deployment, status⟩ :=
        @updateStatus_stored cluster attempt.config attempt.outcomes false
      refine ⟨configMap.trans (applied.trans stored), deployment.trans ?_, status.trans ?_⟩
      · cases found : cluster.deployment with
        | none => simp
        | some deploy =>
            cases lookup : attempt.outcomes.lookup with
            | none => exact absurd found (skipped deploy lookup)
            | some error => simp [Attempt.patches, lookup]
      · have passed : cluster.deployment = none ∨ ¬ attempt.outcomes.lookup = none := by
          cases found : cluster.deployment with
          | none => exact .inl rfl
          | some deploy => exact .inr fun lookup => skipped deploy lookup found
        by_cases kept : attempt.outcomes.status.stores <;>
          simp [Attempt.status, done, kept, passed]

theorem perform_stored : Stored attempt cluster (attempt.perform cluster).cluster := by
  unfold Attempt.perform reconcileShimConfig
  cases answer : attempt.outcomes.configMap with
  | done =>
      have applied : (applyConfigMap attempt.config cluster).configMap = attempt.configMap := by
        simp [applyConfigMap, Attempt.configMap, answer, Answer.stores]
      obtain ⟨configMap, deployment, status⟩ := updateDeployment_stored answer applied
      refine ⟨configMap.trans ?_, deployment, status⟩
      simp [applyConfigMap, Attempt.configMap, answer, Answer.stores]
  | failed error kept =>
      constructor
      · cases kept <;> simp [Attempt.configMap, answer, Answer.stores, applyConfigMap]
      · cases kept <;> simp [Attempt.patches, answer, applyConfigMap]
      · cases kept <;> simp [Attempt.status, answer, applyConfigMap]

/-! ## What a run of calls leaves behind -/

/-- The ConfigMap and the status are those of the last calls that stored one.  The
sidecar is that of the first call that patched the Deployment, and only if there
was none before. -/
structure Follows (attempts : List Attempt) (before after : Cluster) : Prop where
  configMap : after.configMap =
    (attempts.filterMap Attempt.configMap).getLast?.or before.configMap
  deployment : after.deployment = (attempts.find? Attempt.patches).elim before.deployment
    fun first => before.deployment.map (·.addContainer first.sidecar)
  status : after.status =
    (attempts.filterMap (Attempt.status before.deployment.isSome)).getLast?.or before.status

theorem PodSpec.addContainer_absorbs {pod : PodSpec} {first second : Container}
    (named : first.name = shimName) :
    (pod.addContainer first).addContainer second = pod.addContainer first := by
  have has : (pod.addContainer first).hasShim = true := by
    unfold PodSpec.addContainer
    split
    · assumption
    · simp [PodSpec.hasShim, named]
  rw [PodSpec.addContainer, if_pos has]

theorem Deployment.addContainer_absorbs {deploy : Deployment} {first second : Container}
    (named : first.name = shimName) :
    (deploy.addContainer first).addContainer second = deploy.addContainer first := by
  rcases deploy with ⟨_ | ⟨⟨_ | pod⟩⟩⟩
  · rfl
  · rfl
  · simp only [Deployment.addContainer, Option.map_some, PodSpec.addContainer_absorbs named]

def settle (cluster : Cluster) (attempts : List Attempt) : Cluster :=
  attempts.foldl (fun cluster attempt => (attempt.perform cluster).cluster) cluster

theorem settle_cons {rest : List Attempt} :
    settle cluster (attempt :: rest) = settle (attempt.perform cluster).cluster rest := rfl

theorem configMap_settle (attempts : List Attempt) : (settle cluster attempts).configMap =
    attempts.foldl (fun held attempt => attempt.configMap.or held) cluster.configMap := by
  induction attempts generalizing cluster with
  | nil => rfl
  | cons attempt rest ih =>
      rw [List.foldl_cons, ← (@perform_stored cluster attempt).configMap]
      exact ih

theorem deployment_settle (attempts : List Attempt) : (settle cluster attempts).deployment =
    (attempts.filter Attempt.patches).foldl
      (fun held attempt => held.map (·.addContainer attempt.sidecar)) cluster.deployment := by
  induction attempts generalizing cluster with
  | nil => rfl
  | cons attempt rest ih =>
      have stored := (@perform_stored cluster attempt).deployment
      have later := @ih (attempt.perform cluster).cluster
      rw [settle_cons]
      by_cases patches : attempt.patches
      · rw [if_pos patches] at stored
        rw [stored] at later
        simpa [patches] using later
      · rw [if_neg patches] at stored
        rw [stored] at later
        simpa [patches] using later

theorem isSome_perform :
    (attempt.perform cluster).cluster.deployment.isSome = cluster.deployment.isSome := by
  rw [perform_stored.deployment]
  split <;> simp

theorem status_settle (attempts : List Attempt) : (settle cluster attempts).status =
    attempts.foldl (fun held attempt => (attempt.status cluster.deployment.isSome).or held)
      cluster.status := by
  induction attempts generalizing cluster with
  | nil => rfl
  | cons attempt rest ih =>
      have later := @ih (attempt.perform cluster).cluster
      rw [isSome_perform, perform_stored.status] at later
      exact later

theorem settle_follows (cluster : Cluster) (attempts : List Attempt) :
    Follows attempts cluster (settle cluster attempts) where
  configMap := (configMap_settle attempts).trans (foldl_lastWrite Attempt.configMap)
  deployment := by
    have absorbs : ∀ (held : Option Deployment) (first second : Attempt),
        (held.map (·.addContainer first.sidecar)).map (·.addContainer second.sidecar) =
          held.map (·.addContainer first.sidecar) := by
      intro held first second
      rw [Option.map_map]
      exact Option.map_congr fun deploy _ => Deployment.addContainer_absorbs rfl
    rw [deployment_settle, foldl_firstWrite absorbs, List.head?_filter]
  status := (status_settle attempts).trans (foldl_lastWrite _)

/-! ## The fleet -/

def Request.toAttempt : Request → Option Attempt
  | .reconcile attempt => some attempt
  | _ => none

/-- The calls for a resource, in the order of the run. -/
def attemptsFor (key : Key) (requests : List Request) : List Attempt :=
  (requests.filter (Request.concerns key)).filterMap Request.toAttempt

/-- Nobody but the operator works on the resource's objects. -/
def LeftAlone (key : Key) (requests : List Request) : Prop :=
  ∀ request ∈ requests, request.concerns key = true → request.toAttempt ≠ none

def ApiServer.after (server : ApiServer) (requests : List Request) : ApiServer :=
  requests.foldl (fun server request => (server.perform request).1) server

theorem foldl_perform {requests : List Request} (calls : ∀ request ∈ requests, request.toAttempt ≠ none) :
    requests.foldl (fun cluster request => (Cluster.perform cluster request).1) cluster =
      settle cluster (requests.filterMap Request.toAttempt) := by
  induction requests generalizing cluster with
  | nil => rfl
  | cons request rest ih =>
      have later := fun request member => calls request (List.mem_cons_of_mem _ member)
      cases request with
      | reconcile attempt => exact ih later
      | putConfigMap | putDeployment | putStatus =>
          exact absurd rfl (calls _ List.mem_cons_self)

/-- Two resources, the spec of one of which changes, and a Deployment rolled out
by its owner in between. -/
def twoResources : List Request :=
  [.reconcile ⟨appConfig "/app/start", allDone⟩,
    .reconcile ⟨{ appConfig "/web/start" with name := "web" }, allDone⟩,
    .putDeployment ("default", "web-deployment") none,
    .reconcile ⟨appConfig "/app/serve", allDone⟩]

def appServer : ApiServer := ApiServer.store {} ("default", "app") appCluster

end Evergreen.Operator
