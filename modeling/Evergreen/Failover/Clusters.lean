import Evergreen.Failover.Shim
import Mathlib.Data.List.MinMax
import Mathlib.Data.List.Sort
import Mathlib.Data.String.Basic
import Mathlib.Logic.Function.Basic

namespace Evergreen.Failover

/-! # The monitor of several clusters

`MultiClusterMonitor` implements the health round and the choice of a new
primary twice: once on its own map of clusters, once on the tables of the loop
that `start_loop` spawns over copies of the monitor's fields.
-/

inductive ClusterStatus where
  | healthy
  | degraded
  | failed
  | unknown
deriving DecidableEq, Repr

inductive MultiClusterFailoverStrategy where
  | sequential
  | latencyBased
  | weightedRandom
deriving DecidableEq, Repr

structure ClusterHealth where
  endpoints : List String
  status : ClusterStatus
  latencyMs : Option Nat
  consecutiveFailures : Nat
deriving DecidableEq, Repr

def ClusterHealth.new (endpoints : List String) : ClusterHealth where
  endpoints := endpoints
  status := .unknown
  latencyMs := none
  consecutiveFailures := 0

/-- The outcome of the connection attempt to one endpoint, `false` also for an
endpoint that is no socket address. -/
structure Probe where
  isOk : Bool
  elapsedMs : Nat
deriving DecidableEq, Repr

/-- What the endpoints of each cluster answer in one round, by position. -/
abbrev Answers := String → Nat → Probe

def probes (answers : Answers) (name : String) (endpoints : List String) : List Probe :=
  (List.range endpoints.length).map (answers name)

/-- The loop over the endpoints: how many were reachable (a `u32`) and the sum
of their latencies (a `u64`). -/
def tally (probes : List Probe) : Nat × Nat :=
  probes.foldl (fun counts probe =>
    if probe.isOk then (incrementU32 counts.1, (counts.2 + probe.elapsedMs) % 2 ^ 64) else counts)
    (0, 0)

def totalEndpoints (endpoints : List String) : Nat := endpoints.length % 2 ^ 32

/-- The body of `check_all_clusters` for one cluster. -/
def ClusterHealth.check (health : ClusterHealth) (failureThreshold : Nat) (probes : List Probe) :
    ClusterHealth :=
  let (reachable, totalLatency) := tally probes
  let latencyMs := if 0 < reachable then some (totalLatency / reachable) else none
  if reachable = totalEndpoints health.endpoints then
    { health with latencyMs, status := .healthy, consecutiveFailures := 0 }
  else if 0 < reachable then
    { health with latencyMs, status := .degraded, consecutiveFailures := 0 }
  else
    let failures := incrementU32 health.consecutiveFailures
    { health with
      latencyMs
      status := if failureThreshold ≤ failures then .failed else .degraded
      consecutiveFailures := failures }

@[simp] theorem ClusterHealth.check_endpoints (health : ClusterHealth) (failureThreshold : Nat)
    (probes : List Probe) : (health.check failureThreshold probes).endpoints = health.endpoints := by
  unfold ClusterHealth.check
  dsimp only
  split
  · rfl
  · split <;> rfl

/-- The map of clusters by name, listed in the order in which it iterates. -/
structure ClusterMap where
  entries : List (String × ClusterHealth)
  distinct : (entries.map Prod.fst).Nodup
deriving DecidableEq, Repr

namespace ClusterMap

def get (clusters : ClusterMap) (name : String) : Option ClusterHealth :=
  clusters.entries.lookup name

/-- The names in the order of the map. -/
def keys (clusters : ClusterMap) : List String := clusters.entries.map Prod.fst

/-- A loop over `values_mut`. -/
def updateValues (clusters : ClusterMap) (update : String → ClusterHealth → ClusterHealth) :
    ClusterMap where
  entries := clusters.entries.map fun entry => (entry.1, update entry.1 entry.2)
  distinct := by
    rw [List.map_map]
    exact clusters.distinct

theorem get_eq_some {clusters : ClusterMap} {name : String} {health : ClusterHealth} :
    clusters.get name = some health ↔ (name, health) ∈ clusters.entries := by
  obtain ⟨entries, distinct⟩ := clusters
  change entries.lookup name = some health ↔ (name, health) ∈ entries
  induction entries with
  | nil => simp
  | cons entry rest ih =>
      obtain ⟨held, value⟩ := entry
      obtain ⟨fresh, distinctRest⟩ := List.nodup_cons.mp distinct
      by_cases same : name = held
      · subst same
        have absent : (name, health) ∉ rest := fun member =>
          fresh (List.mem_map.mpr ⟨_, member, rfl⟩)
        simp [absent, eq_comm]
      · simpa [List.lookup_cons, beq_false_of_ne same, same] using ih distinctRest

end ClusterMap

/-- The choice among healthy candidates, each with its latency.  `draw` is the
candidate that a weighted choice falls on. -/
def chooseCluster (strategy : MultiClusterFailoverStrategy) (draw : Nat)
    (candidates : List (String × Option Nat)) : Option String :=
  match strategy with
  | .sequential => candidates.head?.map Prod.fst
  | .latencyBased =>
      (candidates.argmin fun candidate => candidate.2.getD (2 ^ 64 - 1)).map Prod.fst
  | .weightedRandom => candidates[min draw (candidates.length - 1)]?.map Prod.fst

/-- The events and the notification of a promotion. -/
def promotionOutputs (hasBus : Bool) (webhook : Option String) (oldPrimary promoted : String) :
    List Output :=
  (if hasBus then
    [.emit "failover-shim"
      (.failoverTriggered ("cluster:" ++ oldPrimary) ("cluster:" ++ promoted)) .error,
     .emit "failover-shim" (.failoverCompleted ("cluster:" ++ promoted)) .notice]
  else []) ++
  (webhook.toList.map fun url => .post url
    ("MULTI-CLUSTER FAILOVER: Promoted cluster '" ++ promoted ++ "' to primary (was '" ++
      oldPrimary ++ "')"))

structure MultiClusterMonitor where
  clusters : ClusterMap
  primaryCluster : String
  failoverStrategy : MultiClusterFailoverStrategy
  failureThreshold : Nat
  webhook : Option String
  hasBus : Bool
  promotionsTotal : Nat
  currentPrimary : String
deriving DecidableEq, Repr

namespace MultiClusterMonitor

def new (clusters : ClusterMap) (primaryCluster : String)
    (failoverStrategy : MultiClusterFailoverStrategy) (failureThreshold : Nat)
    (webhook : Option String) : MultiClusterMonitor where
  clusters := clusters
  primaryCluster := primaryCluster
  failoverStrategy := failoverStrategy
  failureThreshold := failureThreshold
  webhook := webhook
  hasBus := false
  promotionsTotal := 0
  currentPrimary := primaryCluster

def checkAllClusters (monitor : MultiClusterMonitor) (answers : Answers) : MultiClusterMonitor :=
  { monitor with
    clusters := monitor.clusters.updateValues fun name health =>
      health.check monitor.failureThreshold (probes answers name health.endpoints) }

/-- The healthy clusters other than the primary, in the order of the map. -/
def candidates (monitor : MultiClusterMonitor) : List (String × ClusterHealth) :=
  monitor.clusters.entries.filter fun entry =>
    entry.1 ≠ monitor.primaryCluster ∧ entry.2.status = .healthy

def selectFailoverTarget (monitor : MultiClusterMonitor) (draw : Nat) : Option String :=
  chooseCluster monitor.failoverStrategy draw
    (monitor.candidates.map fun entry => (entry.1, entry.2.latencyMs))

def promoteSecondary (monitor : MultiClusterMonitor) (draw : Nat) :
    MultiClusterMonitor × Option String × List Output :=
  match monitor.selectFailoverTarget draw with
  | none => (monitor, none, [])
  | some target =>
      ({ monitor with
          primaryCluster := target
          currentPrimary := target
          promotionsTotal := incrementU64 monitor.promotionsTotal },
        some target,
        promotionOutputs monitor.hasBus monitor.webhook monitor.primaryCluster target)

def clusterNames (monitor : MultiClusterMonitor) : List String :=
  monitor.clusters.keys.insertionSort (· ≤ ·)

/-- The snapshot of the clusters that the loop works on. -/
def clusterEndpoints (monitor : MultiClusterMonitor) : List (String × List String) :=
  monitor.clusterNames.filterMap fun name =>
    (monitor.clusters.get name).map fun health => (name, health.endpoints)

theorem clusterNames_pairwise (monitor : MultiClusterMonitor) :
    monitor.clusterNames.Pairwise (· ≤ ·) := List.pairwise_insertionSort _ _

theorem clusterNames_perm (monitor : MultiClusterMonitor) :
    monitor.clusterNames.Perm monitor.clusters.keys := List.perm_insertionSort _ _

theorem clusterEndpoints_names (monitor : MultiClusterMonitor) :
    monitor.clusterEndpoints.map Prod.fst = monitor.clusterNames := by
  have found : ∀ name ∈ monitor.clusterNames,
      ((monitor.clusters.get name).map fun health => (name, health.endpoints)).map Prod.fst =
        some name := by
    intro name member
    obtain ⟨⟨held, health⟩, listed, rfl⟩ := List.mem_map.mp
      ((monitor.clusterNames_perm.mem_iff).mp member)
    rw [ClusterMap.get_eq_some.mpr listed]
    rfl
  rw [clusterEndpoints, List.map_filterMap, List.filterMap_congr found, List.filterMap_some]

theorem mem_clusterEndpoints {monitor : MultiClusterMonitor} {name : String}
    {endpoints : List String} : (name, endpoints) ∈ monitor.clusterEndpoints ↔
      ∃ health, (name, health) ∈ monitor.clusters.entries ∧ health.endpoints = endpoints := by
  simp only [clusterEndpoints, List.mem_filterMap, Option.map_eq_some_iff, Prod.mk.injEq,
    ClusterMap.get_eq_some]
  constructor
  · rintro ⟨held, _, health, listed, rfl, rfl⟩
    exact ⟨health, listed, rfl⟩
  · rintro ⟨health, listed, rfl⟩
    exact ⟨name, monitor.clusterNames_perm.mem_iff.mpr (List.mem_map_of_mem listed), health,
      listed, rfl, rfl⟩

end MultiClusterMonitor

/-- The variables of the spawned task: copies of the monitor's fields, and its
tables. -/
structure ClusterLoop where
  failureThreshold : Nat
  failoverStrategy : MultiClusterFailoverStrategy
  webhook : Option String
  hasBus : Bool
  clusterEndpoints : List (String × List String)
  primary : String
  clusterStatus : String → Option ClusterStatus
  clusterLatency : String → Option (Option Nat)
  clusterFailures : String → Option Nat

/-- The table with one value for every cluster of the snapshot. -/
def tableOf {Value : Type} (clusterEndpoints : List (String × List String)) (value : Value) :
    String → Option Value :=
  fun name => if name ∈ clusterEndpoints.map Prod.fst then some value else none

def MultiClusterMonitor.startLoop (monitor : MultiClusterMonitor) : ClusterLoop where
  failureThreshold := monitor.failureThreshold
  failoverStrategy := monitor.failoverStrategy
  webhook := monitor.webhook
  hasBus := monitor.hasBus
  clusterEndpoints := monitor.clusterEndpoints
  primary := monitor.primaryCluster
  clusterStatus := tableOf monitor.clusterEndpoints .unknown
  clusterLatency := tableOf monitor.clusterEndpoints none
  clusterFailures := tableOf monitor.clusterEndpoints 0

namespace ClusterLoop

/-- The health check of one cluster of the snapshot. -/
def checkCluster (loop : ClusterLoop) (answers : Answers) (cluster : String × List String) :
    ClusterLoop :=
  let (name, endpoints) := cluster
  let reachable := (tally (probes answers name endpoints)).1
  let (newStatus, clusterFailures) :=
    if reachable = totalEndpoints endpoints then (ClusterStatus.healthy, loop.clusterFailures)
    else if 0 < reachable then (.degraded, loop.clusterFailures)
    else
      let failures := incrementU32 ((loop.clusterFailures name).getD 0)
      (if loop.failureThreshold ≤ failures then .failed else .degraded,
        Function.update loop.clusterFailures name (some failures))
  { loop with
    clusterFailures :=
      if 0 < reachable then Function.update clusterFailures name (some 0) else clusterFailures
    clusterStatus := Function.update loop.clusterStatus name (some newStatus) }

def check (loop : ClusterLoop) (answers : Answers) : ClusterLoop :=
  loop.clusterEndpoints.foldl (fun loop cluster => loop.checkCluster answers cluster) loop

theorem check_eq (loop : ClusterLoop) (answers : Answers) :
    ∃ clusterStatus clusterFailures,
      loop.check answers = { loop with clusterStatus, clusterFailures } := by
  suffices ∀ (clusters : List (String × List String)) (start : ClusterLoop),
      ∃ clusterStatus clusterFailures,
        clusters.foldl (fun loop cluster => loop.checkCluster answers cluster) start =
          { start with clusterStatus, clusterFailures } from this loop.clusterEndpoints loop
  intro clusters
  induction clusters with
  | nil => exact fun start => ⟨start.clusterStatus, start.clusterFailures, rfl⟩
  | cons cluster clusters ih =>
      intro start
      obtain ⟨clusterStatus, clusterFailures, checked⟩ := ih (start.checkCluster answers cluster)
      exact ⟨clusterStatus, clusterFailures, checked⟩

def candidates (loop : ClusterLoop) : List (String × Option Nat) :=
  loop.clusterEndpoints.filterMap fun cluster =>
    if cluster.1 ≠ loop.primary ∧ loop.clusterStatus cluster.1 = some .healthy then
      some (cluster.1, (loop.clusterLatency cluster.1).getD none)
    else none

/-- The cluster to promote, once the primary has failed. -/
def promotedName (loop : ClusterLoop) (draw : Nat) : Option String :=
  if (loop.clusterStatus loop.primary).getD .unknown = .failed then
    chooseCluster loop.failoverStrategy draw loop.candidates
  else none

/-- One tick of the interval. -/
def round (loop : ClusterLoop) (answers : Answers) (draw : Nat) : ClusterLoop × List Output :=
  let checked := loop.check answers
  match checked.promotedName draw with
  | none => (checked, [])
  | some promoted =>
      ({ checked with primary := promoted },
        promotionOutputs checked.hasBus checked.webhook checked.primary promoted)

theorem round_of_none {loop : ClusterLoop} {answers : Answers} {draw : Nat}
    (stays : (loop.check answers).promotedName draw = none) :
    loop.round answers draw = (loop.check answers, []) := by
  simp only [round, stays]

theorem round_of_some {loop : ClusterLoop} {answers : Answers} {draw : Nat} {promoted : String}
    (promotes : (loop.check answers).promotedName draw = some promoted) :
    (loop.round answers draw).1 = { loop.check answers with primary := promoted } := by
  simp only [round, promotes]

theorem round_eq (loop : ClusterLoop) (answers : Answers) (draw : Nat) :
    ∃ clusterStatus clusterFailures primary,
      (loop.round answers draw).1 = { loop with clusterStatus, clusterFailures, primary } := by
  obtain ⟨clusterStatus, clusterFailures, checked⟩ := loop.check_eq answers
  cases promoted : (loop.check answers).promotedName draw with
  | none =>
      rw [round_of_none promoted, checked]
      exact ⟨clusterStatus, clusterFailures, loop.primary, rfl⟩
  | some name =>
      rw [round_of_some promoted, checked]
      exact ⟨clusterStatus, clusterFailures, name, rfl⟩

end ClusterLoop

end Evergreen.Failover
