import Evergreen.Failover.Selection
import Evergreen.Text.Parse

namespace Evergreen.Failover

/-! # The order in which the clusters are configured

`FAILOVER_CLUSTERS` lists the clusters in the order of their priority.  It is
parsed into a hash map, whose order `select_failover_target` follows, and the
loop sorts the names.
-/

/-- One `name:host:port` of the specification, as name and endpoint. -/
def parseTriple (text : String) : Option (String × String) :=
  let triple := Text.trim text
  if triple = "" then none
  else
    match Text.split ':' triple with
    | name :: host :: port :: _ => some (name, s!"{host}:{port}")
    | _ => none

def pushEndpoint (name endpoint : String) :
    List (String × List String) → List (String × List String)
  | [] => [(name, [endpoint])]
  | cluster :: clusters =>
      if cluster.1 = name then (name, cluster.2 ++ [endpoint]) :: clusters
      else cluster :: pushEndpoint name endpoint clusters

def triples (spec : String) : List (String × String) :=
  (Text.split ',' spec).filterMap parseTriple

/-- The entries of the map, in the order in which they were made. -/
def parseClusters (spec : String) : List (String × List String) :=
  (triples spec).foldl (fun clusters triple => pushEndpoint triple.1 triple.2 clusters) []

/-- The names in the order in which the specification mentions them first. -/
def configuredOrder (spec : String) : List String := ((triples spec).map Prod.fst).eraseDups

theorem pushEndpoint_names (name endpoint : String) (clusters : List (String × List String)) :
    (pushEndpoint name endpoint clusters).map Prod.fst =
      if name ∈ clusters.map Prod.fst then clusters.map Prod.fst
      else clusters.map Prod.fst ++ [name] := by
  induction clusters with
  | nil => rfl
  | cons cluster clusters ih =>
      by_cases same : cluster.1 = name
      · simp [pushEndpoint, same]
      · have other : ¬name = cluster.1 := fun equal => same equal.symm
        rw [pushEndpoint, if_neg same, List.map_cons, ih]
        simp only [List.map_cons, List.mem_cons, other, false_or]
        split <;> rfl

theorem foldl_pushEndpoint_names (pairs : List (String × String))
    (clusters : List (String × List String)) :
    (pairs.foldl (fun clusters pair => pushEndpoint pair.1 pair.2 clusters) clusters).map Prod.fst =
      clusters.map Prod.fst ++
        ((pairs.map Prod.fst).filter (· ∉ clusters.map Prod.fst)).eraseDups := by
  induction pairs generalizing clusters with
  | nil => simp
  | cons pair pairs ih =>
      obtain ⟨name, endpoint⟩ := pair
      rw [List.foldl_cons, ih, pushEndpoint_names]
      by_cases known : name ∈ clusters.map Prod.fst
      · rw [if_pos known, List.map_cons, List.filter_cons_of_neg (by simpa using known)]
      · rw [if_neg known, List.map_cons, List.filter_cons_of_pos (by simpa using known),
          List.eraseDups_cons, List.filter_filter, List.append_assoc, List.singleton_append]
        congr 3
        apply List.filter_congr
        intro other _
        rw [Bool.eq_iff_iff]
        simp [not_or, and_comm]

theorem parseClusters_names (spec : String) :
    (parseClusters spec).map Prod.fst = configuredOrder spec := by
  rw [parseClusters, foldl_pushEndpoint_names]
  simp [configuredOrder]

theorem find?_eq_some_iff_idxOf {test : String → Bool} {names : List String} {name : String} :
    names.find? test = some name ↔
      name ∈ names ∧ test name ∧
        ∀ other ∈ names, test other → names.idxOf name ≤ names.idxOf other := by
  induction names with
  | nil => simp
  | cons head rest ih =>
      by_cases passes : test head
      · rw [List.find?_cons_of_pos passes]
        constructor
        · intro same
          obtain rfl : head = name := Option.some.inj same
          refine ⟨List.mem_cons_self, passes, fun other _ _ => ?_⟩
          rw [List.idxOf_cons_self]
          exact Nat.zero_le _
        · rintro ⟨_, _, first⟩
          have zero := first head List.mem_cons_self passes
          rw [List.idxOf_cons_self, Nat.le_zero] at zero
          by_contra other
          have apart : head ≠ name := fun same => other (congrArg some same)
          rw [List.idxOf_cons_ne _ apart] at zero
          exact Nat.succ_ne_zero _ zero
      · rw [List.find?_cons_of_neg passes, ih]
        have apart : ∀ other, test other → head ≠ other := by
          rintro other holds rfl
          exact passes holds
        constructor
        · rintro ⟨member, holds, first⟩
          refine ⟨List.mem_cons_of_mem _ member, holds, fun other listed wins => ?_⟩
          have later := (List.mem_cons.mp listed).resolve_left (apart other wins).symm
          rw [List.idxOf_cons_ne _ (apart name holds), List.idxOf_cons_ne _ (apart other wins)]
          exact Nat.succ_le_succ (first other later wins)
        · rintro ⟨member, holds, first⟩
          have later := (List.mem_cons.mp member).resolve_left (apart name holds).symm
          refine ⟨later, holds, fun other listed wins => ?_⟩
          have before := first other (List.mem_cons_of_mem _ listed) wins
          rw [List.idxOf_cons_ne _ (apart name holds),
            List.idxOf_cons_ne _ (apart other wins)] at before
          exact Nat.le_of_succ_le_succ before

theorem find?_eq_some_iff_least {test : String → Bool} {names : List String}
    (sorted : names.Pairwise (· ≤ ·)) {name : String} :
    names.find? test = some name ↔
      name ∈ names ∧ test name ∧ ∀ other ∈ names, test other → name ≤ other := by
  rw [← List.head?_filter, head?_eq_some_iff_least (sorted.sublist List.filter_sublist)]
  simp only [List.mem_filter, and_assoc, and_imp]

/-- Two orders of one set of names: the first name in the one that passes the
test is the first in the other when, in that other, it stands before the rest. -/
theorem find?_eq_find?_iff {test : String → Bool} {names order : List String}
    {before : String → String → Prop} (same : order.Perm names)
    (first : ∀ name, order.find? test = some name ↔
      name ∈ order ∧ test name ∧ ∀ other ∈ order, test other → before name other) :
    order.find? test = names.find? test ↔
      ∀ name ∈ names.find? test, ∀ other ∈ names, test other → before name other := by
  constructor
  · intro equal name found other member
    exact ((first name).mp (equal.trans found)).2.2 other (same.mem_iff.mpr member)
  · intro stands
    cases found : names.find? test with
    | none =>
        rw [List.find?_eq_none] at found ⊢
        exact fun name member => found name (same.mem_iff.mp member)
    | some name =>
        have member := List.mem_of_find?_eq_some found
        refine (first name).mpr ⟨same.mem_iff.mpr member, List.find?_some found, ?_⟩
        exact fun other listed => stands name found other (same.mem_iff.mp listed)

namespace MultiClusterMonitor

variable (monitor : MultiClusterMonitor)

/-- The map of the monitor holds the clusters of the specification, in whatever
order it iterates and whatever their health. -/
def Configures (spec : String) : Prop :=
  (monitor.clusters.entries.map fun entry => (entry.1, entry.2.endpoints)).Perm (parseClusters spec)

def eligible (name : String) : Bool :=
  name ≠ monitor.primaryCluster ∧ (monitor.clusters.get name).any (·.status = .healthy)

/-- What the sequential strategy is for. -/
def firstConfigured (spec : String) : Option String :=
  (configuredOrder spec).find? monitor.eligible

/-- The first eligible cluster of the specification has the least name of the
eligible ones and comes before them in the map. -/
def PriorityKept (spec : String) : Prop :=
  ∀ name ∈ monitor.firstConfigured spec,
    ∀ other ∈ configuredOrder spec, monitor.eligible other →
      monitor.clusters.keys.idxOf name ≤ monitor.clusters.keys.idxOf other ∧ name ≤ other

end MultiClusterMonitor

open MultiClusterMonitor

variable {monitor : MultiClusterMonitor} {loop : ClusterLoop} {spec : String} {draw : Nat}

theorem eligible_of_mem {entry : String × ClusterHealth}
    (listed : entry ∈ monitor.clusters.entries) :
    monitor.eligible entry.1 = decide (entry.1 ≠ monitor.primaryCluster ∧
      entry.2.status = .healthy) := by
  rw [eligible, ClusterMap.get_eq_some.mpr listed]
  simp

theorem MultiClusterMonitor.Configures.keys (configured : monitor.Configures spec) :
    monitor.clusters.keys.Perm (configuredOrder spec) := by
  have names := configured.map Prod.fst
  rwa [List.map_map, parseClusters_names] at names

theorem selectFailoverTarget_sequential (sequential : monitor.failoverStrategy = .sequential) :
    monitor.selectFailoverTarget draw = monitor.clusters.keys.find? monitor.eligible := by
  have candidates : monitor.candidates =
      monitor.clusters.entries.filter fun entry => monitor.eligible entry.1 :=
    List.filter_congr fun _ listed => (eligible_of_mem listed).symm
  rw [selectFailoverTarget, sequential, candidates, ClusterMap.keys, List.find?_map]
  simp only [chooseCluster, List.head?_map, Option.map_map, List.head?_filter]
  rfl

theorem promotedName_sequential (same : SameHealth monitor loop)
    (sequential : monitor.failoverStrategy = .sequential)
    (failed : loop.clusterStatus loop.primary = some .failed) :
    loop.promotedName draw = monitor.clusterNames.find? monitor.eligible := by
  have eligible : ∀ cluster ∈ loop.clusterEndpoints, monitor.eligible cluster.1 =
      decide (cluster.1 ≠ loop.primary ∧ loop.clusterStatus cluster.1 = some .healthy) := by
    intro cluster listed
    have key : cluster.1 ∈ monitor.clusterNames := same.names ▸ List.mem_map_of_mem listed
    obtain ⟨entry, present, named⟩ := List.mem_map.mp (monitor.clusterNames_perm.mem_iff.mp key)
    rw [← named, eligible_of_mem present, same.status entry present, same.primary]
    simp
  rw [ClusterLoop.promotedName, failed, Option.getD_some, if_pos rfl, same.strategy, sequential,
    ← same.names, List.find?_map]
  change loop.candidates.head?.map Prod.fst = _
  rw [ClusterLoop.candidates, List.head?_filterMap]
  generalize loop.clusterEndpoints = clusters at eligible
  induction clusters with
  | nil => rfl
  | cons cluster clusters ih =>
      have first : (monitor.eligible ∘ Prod.fst) cluster = _ := eligible cluster List.mem_cons_self
      have rest := ih fun other listed => eligible other (List.mem_cons_of_mem _ listed)
      by_cases chosen : cluster.1 ≠ loop.primary ∧ loop.clusterStatus cluster.1 = some .healthy
      · rw [decide_eq_true chosen] at first
        rw [List.findSome?_cons, if_pos chosen, List.find?_cons_of_pos first]
        rfl
      · rw [decide_eq_false chosen] at first
        rw [List.findSome?_cons, if_neg chosen, rest,
          List.find?_cons_of_neg (ne_true_of_eq_false first)]

/-- With the primary failed, both choices are the first eligible cluster of the
specification exactly when that cluster has the least name of the eligible ones
and stands before them in the map. -/
theorem promotes_firstConfigured_iff (configured : monitor.Configures spec)
    (same : SameHealth monitor loop) (sequential : monitor.failoverStrategy = .sequential)
    (failed : loop.clusterStatus loop.primary = some .failed) :
    (monitor.selectFailoverTarget draw = monitor.firstConfigured spec ∧
      loop.promotedName draw = monitor.firstConfigured spec) ↔ monitor.PriorityKept spec := by
  rw [selectFailoverTarget_sequential sequential, promotedName_sequential same sequential failed]
  rw [firstConfigured, find?_eq_find?_iff configured.keys fun _ => find?_eq_some_iff_idxOf]
  rw [find?_eq_find?_iff (monitor.clusterNames_perm.trans configured.keys)
    fun _ => find?_eq_some_iff_least monitor.clusterNames_pairwise]
  constructor
  · rintro ⟨placed, least⟩ name found other listed eligible
    exact ⟨placed name found other listed eligible, least name found other listed eligible⟩
  · intro kept
    constructor <;> intro name found other listed eligible
    · exact (kept name found other listed eligible).1
    · exact (kept name found other listed eligible).2

/-- What the monitor and the loop know after a round, for a map that iterates in
the order of these entries. -/
def sequentialMonitor (entries : List (String × ClusterHealth))
    (distinct : (entries.map Prod.fst).Nodup) : MultiClusterMonitor :=
  .new ⟨entries, distinct⟩ "main" .sequential 1 none

/-- The primary `main` is down, every other cluster answers. -/
def mainDown : Answers := fun name _ => ⟨name ≠ "main", 5⟩

def eastBeforeWest : MultiClusterMonitor :=
  sequentialMonitor [("main", .new ["10.0.0.1:5432"]), ("east", .new ["10.0.0.2:5432"]),
    ("west", .new ["10.0.0.3:5432"])] (by decide)

def westBeforeEast : MultiClusterMonitor :=
  sequentialMonitor [("main", .new ["10.0.0.1:5432"]), ("west", .new ["10.0.0.3:5432"]),
    ("east", .new ["10.0.0.2:5432"])] (by decide)

def alphabetical : String := "main:10.0.0.1:5432,east:10.0.0.2:5432,west:10.0.0.3:5432"

def westFirst : String := "main:10.0.0.1:5432,west:10.0.0.3:5432,east:10.0.0.2:5432"

example : configuredOrder westFirst = ["main", "west", "east"] := by decide +kernel

theorem promotes_firstConfigured_alphabetical :
    ((eastBeforeWest.checkAllClusters mainDown).selectFailoverTarget 0 =
        (eastBeforeWest.checkAllClusters mainDown).firstConfigured alphabetical ∧
      (eastBeforeWest.startLoop.check mainDown).promotedName 0 =
        (eastBeforeWest.checkAllClusters mainDown).firstConfigured alphabetical) := by
  apply (@promotes_firstConfigured_iff (eastBeforeWest.checkAllClusters mainDown)
    (eastBeforeWest.startLoop.check mainDown) alphabetical 0 ?_ ?_ rfl ?_).mpr
  · unfold PriorityKept
    decide +kernel
  · unfold Configures
    decide +kernel
  · exact ⟨by decide +kernel, by decide +kernel, by decide +kernel, by decide +kernel⟩
  · decide +kernel

/-- `west` is configured before `east`.  The loop promotes `east`, and so does
`promote_secondary` when the hash map happens to list it first. -/
theorem not_promotes_firstConfigured :
    ¬∀ (monitor : MultiClusterMonitor) (loop : ClusterLoop) (spec : String) (draw : Nat),
      monitor.Configures spec → SameHealth monitor loop →
      monitor.failoverStrategy = .sequential →
      loop.clusterStatus loop.primary = some .failed →
      monitor.selectFailoverTarget draw = monitor.firstConfigured spec ∧
        loop.promotedName draw = monitor.firstConfigured spec := by
  intro claimed
  have loop := (claimed (westBeforeEast.checkAllClusters mainDown)
    (westBeforeEast.startLoop.check mainDown) westFirst 0 (by unfold Configures; decide +kernel)
    ⟨by decide +kernel, by decide +kernel, by decide +kernel, by decide +kernel⟩ rfl
    (by decide +kernel)).2
  revert loop
  decide +kernel

end Evergreen.Failover
