import Evergreen.Operator.Reconciler

namespace Evergreen.Operator

open Crd (ShimConfig ShimConfigCondition ShimConfigSpec ShimConfigStatus)

/-! # Reconciling to the desired state -/

def PodSpec.shims (pod : PodSpec) : List Container := pod.containers.filter (·.name == shimName)

def PodSpec.rest (pod : PodSpec) : List Container := pod.containers.filter (·.name != shimName)

def Crd.ShimConfigStatus.timeless (status : ShimConfigStatus) : ShimConfigStatus :=
  { status with
    conditions := status.conditions.map fun condition =>
      { condition with lastTransitionTime := none } }

/-- The cluster but for the instants in the status. -/
def Cluster.timeless (cluster : Cluster) : Cluster :=
  { cluster with status := cluster.status.map ShimConfigStatus.timeless }

/-- The template holds the sidecar of the spec once, and the other containers of
the Deployment as they were. -/
def Desired (config : ShimConfig) (deploy : Deployment) (after : Option Deployment) : Prop :=
  ∃ pod, after.bind Deployment.podSpec = some pod ∧
    pod.shims = [buildSidecarContainer config.spec] ∧
    deploy.podSpec.map PodSpec.rest = some pod.rest

/-- A successful call leaves an existing Deployment as desired, and reconciling
again changes nothing.  `Ready` is stored only if there was no Deployment or it
was patched. -/
structure Converges (config : ShimConfig) (before : Cluster) (call : Reconciled) : Prop where
  desired : ∀ action, call.result = .ok action → ∀ deploy, before.deployment = some deploy →
    Desired config deploy call.cluster.deployment
  stable : ∀ action, call.result = .ok action → ∀ outcomes,
    (reconcileShimConfig config outcomes call.cluster).cluster.timeless = call.cluster.timeless
  ready : call.ready = true → before.deployment = none ∨ call.patched = true

/-- The lookup of an existing Deployment does not fail in a call that goes on to
store the status, and the template it finds in a call that succeeds has no
sidecar, or the one of the spec. -/
def InOrder (config : ShimConfig) (outcomes : Outcomes) (cluster : Cluster) : Prop :=
  outcomes.configMap = .done → ∀ deploy, cluster.deployment = some deploy →
    (outcomes.lookup ≠ none → outcomes.status.stores = false) ∧
    (outcomes.lookup = none → outcomes.deployment = .done → outcomes.status = .done →
      ∃ pod, deploy.podSpec = some pod ∧
        (pod.shims = [] ∨ pod.shims = [buildSidecarContainer config.spec]))

/-! ## Adding the sidecar -/

section AddContainer

variable {pod : PodSpec} {container : Container} {deploy : Deployment}

theorem PodSpec.hasShim_iff : pod.hasShim = true ↔ pod.shims ≠ [] := by
  rw [PodSpec.hasShim, PodSpec.shims, List.any_eq_true, Ne, List.filter_eq_nil_iff]
  simp

theorem PodSpec.addContainer_shims (named : container.name = shimName) :
    (pod.addContainer container).shims =
      if pod.shims = [] then [container] else pod.shims := by
  unfold PodSpec.addContainer
  by_cases has : pod.hasShim
  · rw [if_pos has, if_neg (PodSpec.hasShim_iff.mp has)]
  · have none : pod.shims = [] := by
      by_contra some
      exact has (PodSpec.hasShim_iff.mpr some)
    rw [if_neg has, if_pos none]
    rw [PodSpec.shims] at none ⊢
    rw [List.filter_append, none, List.nil_append]
    simp [named]

theorem PodSpec.addContainer_rest (named : container.name = shimName) :
    (pod.addContainer container).rest = pod.rest := by
  unfold PodSpec.addContainer
  split
  · rfl
  · simp [PodSpec.rest, List.filter_append, named]

theorem PodSpec.addContainer_again (named : container.name = shimName) :
    (pod.addContainer container).addContainer container = pod.addContainer container := by
  have has : (pod.addContainer container).hasShim = true := by
    rw [PodSpec.hasShim_iff, PodSpec.addContainer_shims named]
    split
    · simp
    · assumption
  rw [PodSpec.addContainer, if_pos has]

theorem Deployment.addContainer_podSpec :
    (deploy.addContainer container).podSpec = deploy.podSpec.map (·.addContainer container) := by
  cases deploy with
  | mk spec =>
      cases spec with
      | none => rfl
      | some spec => rfl

theorem Deployment.addContainer_again (named : container.name = shimName) :
    (deploy.addContainer container).addContainer container = deploy.addContainer container := by
  rcases deploy with ⟨_ | ⟨⟨_ | pod⟩⟩⟩
  · rfl
  · rfl
  · simp only [Deployment.addContainer, Option.map_some, PodSpec.addContainer_again named]

theorem desired_addContainer_iff {config : ShimConfig} :
    Desired config deploy (some (deploy.addContainer (buildSidecarContainer config.spec))) ↔
      ∃ pod, deploy.podSpec = some pod ∧
        (pod.shims = [] ∨ pod.shims = [buildSidecarContainer config.spec]) := by
  rw [Desired, Option.bind_some, Deployment.addContainer_podSpec]
  have named : (buildSidecarContainer config.spec).name = shimName := rfl
  constructor
  · rintro ⟨_, added, shims, _⟩
    obtain ⟨pod, found, rfl⟩ := Option.map_eq_some_iff.mp added
    rw [PodSpec.addContainer_shims named] at shims
    split at shims
    · next none => exact ⟨pod, found, .inl none⟩
    · exact ⟨pod, found, .inr shims⟩
  · rintro ⟨pod, found, shims⟩
    rw [found]
    refine ⟨_, rfl, ?_, ?_⟩
    · rw [PodSpec.addContainer_shims named]
      split
      · rfl
      · next some => exact shims.resolve_left some
    · rw [PodSpec.addContainer_rest named, Option.map_some]

end AddContainer

/-! ## One call -/

variable {config : ShimConfig} {outcomes : Outcomes} {cluster before : Cluster}

/-- What a successful call leaves: nothing that another one would change, but
for the transition times. -/
structure Settled (config : ShimConfig) (cluster : Cluster) : Prop where
  configMap : applyConfigMap config cluster = cluster
  deployment : ∀ deploy, cluster.deployment = some deploy →
    deploy.addContainer (buildSidecarContainer config.spec) = deploy
  status : ∀ times,
    cluster.status.map ShimConfigStatus.timeless = some (newStatus config times).timeless

theorem updateStatus_timeless {patched : Bool} (settled : Settled config cluster) :
    (updateStatus config outcomes cluster patched).cluster.timeless = cluster.timeless := by
  unfold updateStatus
  dsimp only
  split
  · rw [Cluster.timeless, Cluster.timeless, settled.status outcomes.times]
    rfl
  · rfl

theorem Settled.stable (settled : Settled config cluster) :
    (reconcileShimConfig config outcomes cluster).cluster.timeless = cluster.timeless := by
  unfold reconcileShimConfig
  split
  · rw [settled.configMap, updateDeployment]
    split
    · next deploy _ found =>
        have same : { cluster with
            deployment := some (deploy.addContainer (buildSidecarContainer config.spec)) } =
            cluster := by
          rw [settled.deployment deploy found, ← found]
        rw [same]
        dsimp only
        split
        · exact updateStatus_timeless settled
        · simp only [ite_self]
    · exact updateStatus_timeless settled
  · rw [settled.configMap, ite_self]

/-- The end of a call that did its part on the Deployment. -/
theorem Settled.ofStatus {patched : Bool} (done : outcomes.status = .done)
    (configMap : applyConfigMap config cluster = cluster)
    (deployment : ∀ deploy, cluster.deployment = some deploy →
      deploy.addContainer (buildSidecarContainer config.spec) = deploy) :
    Settled config (updateStatus config outcomes cluster patched).cluster := by
  have stored : (updateStatus config outcomes cluster patched).cluster =
      { cluster with status := some (newStatus config outcomes.times) } := by
    simp only [updateStatus, done, Answer.stores, if_true]
  rw [stored]
  refine ⟨?_, deployment, fun times => rfl⟩
  rw [applyConfigMap] at configMap ⊢
  rw [← congrArg Cluster.configMap configMap]

theorem updateStatus_converges_iff {patched : Bool}
    (configMap : applyConfigMap config cluster = cluster)
    (deployment : ∀ deploy, cluster.deployment = some deploy →
      deploy.addContainer (buildSidecarContainer config.spec) = deploy)
    (through : before.deployment = none ∨ patched = true) :
    Converges config before (updateStatus config outcomes cluster patched) ↔
      (outcomes.status = .done → ∀ deploy, before.deployment = some deploy →
        Desired config deploy cluster.deployment) := by
  have same : (updateStatus config outcomes cluster patched).cluster.deployment =
      cluster.deployment := by
    unfold updateStatus
    dsimp only
    split <;> rfl
  constructor
  · intro converges done deploy found
    have succeeded : (updateStatus config outcomes cluster patched).result = .ok (.requeue 300) := by
      simp only [updateStatus, done]
    rw [← same]
    exact converges.desired _ succeeded deploy found
  · intro desired
    cases status : outcomes.status with
    | done =>
        refine ⟨fun _ _ deploy found => ?_, fun _ _ outcomes' => ?_, fun _ => through⟩
        · rw [same]
          exact desired status deploy found
        · exact (Settled.ofStatus status configMap deployment).stable
    | failed error stored =>
        have failed : (updateStatus config outcomes cluster patched).result =
            .error (.kubernetes error) := by
          simp only [updateStatus, status]
        refine ⟨fun _ succeeded => ?_, fun _ succeeded => ?_, fun _ => through⟩
        · rw [failed] at succeeded
          cases succeeded
        · rw [failed] at succeeded
          cases succeeded

theorem updateDeployment_skipped (skipped : outcomes.lookup ≠ none ∨ cluster.deployment = none) :
    updateDeployment config outcomes cluster = updateStatus config outcomes cluster false := by
  unfold updateDeployment
  split
  · next deploy lookup found =>
      rcases skipped with failed | absent
      · exact absurd lookup failed
      · rw [absent] at found
        cases found
  · rfl

theorem converges_of_failed {call : Reconciled} {error : OperatorError}
    (failed : call.result = .error error) (unready : call.ready = false) :
    Converges config before call where
  desired action succeeded := by
    rw [failed] at succeeded
    cases succeeded
  stable action succeeded := by
    rw [failed] at succeeded
    cases succeeded
  ready stored := by
    rw [unready] at stored
    cases stored

/-- A Deployment whose lookup failed is passed over, and `Ready` is stored all
the same. -/
theorem passedOver_converges_iff {deploy : Deployment} (found : before.deployment = some deploy) :
    Converges config before (updateStatus config outcomes cluster false) ↔
      outcomes.status.stores = false := by
  constructor
  · intro converges
    by_contra stored
    rcases converges.ready (Bool.not_eq_false _ ▸ stored) with absent | patched
    · rw [found] at absent
      cases absent
    · cases patched
  · intro unstored
    cases status : outcomes.status with
    | done =>
        rw [status] at unstored
        cases unstored
    | failed error stored =>
        have failed : (updateStatus config outcomes cluster false).result =
            .error (.kubernetes error) := by
          simp only [updateStatus, status]
        exact converges_of_failed failed unstored

theorem absent_converges (absent : cluster.deployment = none) :
    Converges config cluster
      (updateDeployment config outcomes (applyConfigMap config cluster)) := by
  have still : (applyConfigMap config cluster).deployment = none := absent
  rw [updateDeployment_skipped (.inr still)]
  refine (updateStatus_converges_iff rfl ?_ (.inl absent)).mpr fun _ deploy found => ?_
  · intro deploy found
    rw [still] at found
    cases found
  · rw [absent] at found
    cases found

/-- A Deployment that is found is patched, and the template decides. -/
theorem found_converges_iff {deploy : Deployment} (found : cluster.deployment = some deploy)
    (lookup : outcomes.lookup = none) :
    Converges config cluster
        (updateDeployment config outcomes (applyConfigMap config cluster)) ↔
      (outcomes.deployment = .done → outcomes.status = .done →
        ∃ pod, deploy.podSpec = some pod ∧
          (pod.shims = [] ∨ pod.shims = [buildSidecarContainer config.spec])) := by
  have present : (applyConfigMap config cluster).deployment = some deploy := found
  unfold updateDeployment
  rw [lookup, present]
  dsimp only
  cases patch : outcomes.deployment with
  | failed error stored =>
      refine ⟨fun _ done => ?_, fun _ => converges_of_failed rfl rfl⟩
      cases done
  | done =>
      have again : ∀ other,
          some (deploy.addContainer (buildSidecarContainer config.spec)) = some other →
          other.addContainer (buildSidecarContainer config.spec) = other := by
        rintro _ ⟨⟩
        exact Deployment.addContainer_again rfl
      refine (updateStatus_converges_iff rfl again (.inr rfl)).trans
        ⟨fun desired _ done => ?_, fun template done other same => ?_⟩
      · exact desired_addContainer_iff.mp (desired done deploy found)
      · rw [found] at same
        cases same
        exact desired_addContainer_iff.mpr (template rfl done)

theorem converges_iff_inOrder :
    Converges config cluster (reconcileShimConfig config outcomes cluster) ↔
      InOrder config outcomes cluster := by
  unfold reconcileShimConfig InOrder
  cases applied : outcomes.configMap with
  | failed error stored =>
      refine ⟨fun _ done => ?_, fun _ => converges_of_failed rfl rfl⟩
      cases done
  | done =>
      dsimp only
      cases found : cluster.deployment with
      | none =>
          refine ⟨fun _ _ deploy impossible => ?_, fun _ => absent_converges found⟩
          cases impossible
      | some deploy =>
          cases lookup : outcomes.lookup with
          | some error =>
              rw [updateDeployment_skipped (.inl (by rw [lookup]; simp)),
                passedOver_converges_iff found]
              constructor
              · rintro unstored _ _ ⟨⟩
                exact ⟨fun _ => unstored, fun impossible => by cases impossible⟩
              · intro order
                exact (order rfl deploy rfl).1 (by simp)
          | none =>
              rw [found_converges_iff found lookup]
              constructor
              · rintro template _ _ ⟨⟩
                exact ⟨fun impossible => absurd rfl impossible, fun _ => template⟩
              · exact fun order => (order rfl deploy rfl).2 rfl

/-! ## Every run -/

structure Call where
  config : ShimConfig
  before : Cluster
  reconciled : Reconciled

structure Observed where
  cluster : Cluster
  calls : List Call

/-- The resource is reconciled, as it then is, or somebody else changes the
cluster. -/
inductive Label where
  | reconcile (config : ShimConfig) (outcomes : Outcomes)
  | change (cluster : Cluster)

def Observed.step (observed : Observed) : Label → Observed
  | .reconcile config outcomes =>
      let reconciled := reconcileShimConfig config outcomes observed.cluster
      { cluster := reconciled.cluster
        calls := observed.calls ++ [⟨config, observed.cluster, reconciled⟩] }
  | .change cluster => { observed with cluster }

def machine : Machine Observed Label := .ofFunction Observed.step

def AllConverge (observed : Observed) : Prop :=
  ∀ call ∈ observed.calls, Converges call.config call.before call.reconciled

def StepInOrder (observed : Observed) : Label → Prop
  | .reconcile config outcomes => InOrder config outcomes observed.cluster
  | .change _ => True

theorem allConverge_step_iff {observed : Observed} {label : Label}
    (converged : AllConverge observed) :
    AllConverge (observed.step label) ↔ StepInOrder observed label := by
  cases label with
  | change cluster => exact ⟨fun _ => trivial, fun _ => converged⟩
  | reconcile config outcomes =>
      constructor
      · intro all
        exact converges_iff_inOrder.mp (all _ (List.mem_append_right _ List.mem_cons_self))
      · intro order call member
        rcases List.mem_append.mp member with earlier | last
        · exact converged call earlier
        · rw [List.mem_singleton.mp last]
          exact converges_iff_inOrder.mpr order

def appConfig (childCommand : String) : ShimConfig where
  name := "app"
  ns := "default"
  generation := 1
  spec := { childCommand }

def allDone : Outcomes where
  configMap := .done
  lookup := none
  deployment := .done
  status := .done
  times := ("2025-01-01T00:00:00+00:00", "2025-01-01T00:00:00+00:00")

def appCluster : Cluster where
  configMap := none
  deployment := some { spec := some { template := { spec := some { containers := [] } } } }
  status := none

end Evergreen.Operator
